import BraceScript.Program.Names
import BraceScript.Lowering.Class

/-!
# The order of types

A class can only be loaded after its base. `orderTypes` drops repeated names, and puts every class
behind its base: it goes through the classes in their order, and from each one climbs up the chain
of bases until it comes to a class that is placed, to a base that no script declares, or back to
the chain itself. The classes of the chain are then placed from the top down.
-/

namespace BraceScript.Program

open Lowering (TypeDecl)

/-- A problem with a type, at its name. -/
def problemAt (p : Problem) (d : TypeDecl) : Diagnostic := p.at d.sourcePath d.position

/-- The first declaration of every name, and the problems of the others. -/
def dropRepeated (kept : List TypeDecl) : List TypeDecl → List TypeDecl × List Diagnostic
  | [] => (kept, [])
  | d :: ds =>
    if kept.any (·.name == d.name) then
      let r := dropRepeated kept ds
      (r.1, problemAt (.duplicateType d.name) d :: r.2)
    else dropRepeated (kept ++ [d]) ds

/-- The chain of bases above a type. `chain` holds the types below, the last one first, and `done`
the names of the types that are placed; the last argument bounds the length of the chain. Gives
the whole chain, bases first, and the problem at its top. -/
def climb (types : List TypeDecl) (isKnown : String → Bool) (done : List String)
    (chain : List TypeDecl) (d : TypeDecl) : Nat → List TypeDecl × Option Diagnostic
  | 0 => (d :: chain, none)
  | n + 1 =>
    match d.base with
    | none => (d :: chain, none)
    | some b =>
      match types.find? (·.name == b) with
      | none =>
        (d :: chain, if isKnown b then none else some (problemAt (.unknownBase b) d))
      | some base =>
        if done.contains b then (d :: chain, none)
        else if (d :: chain).any (·.name == b) then
          (d :: chain, some (problemAt (.circularBase b) base))
        else climb types isKnown done (d :: chain) base n

/-- Places the types of a list that are not placed yet. -/
def placeTypes (types : List TypeDecl) (isKnown : String → Bool) (placed : List TypeDecl) :
    List TypeDecl → List TypeDecl × List Diagnostic
  | [] => (placed, [])
  | d :: ds =>
    let done := placed.map (·.name)
    if done.contains d.name then placeTypes types isKnown placed ds
    else
      let (chain, problem) := climb types isKnown done [] d types.length
      let r := placeTypes types isKnown (placed ++ chain) ds
      (r.1, problem.toList ++ r.2)

/-- The types of a program, bases first, and the problems with their names and bases. -/
def orderTypes (decls : List TypeDecl) (isLibrary : String → Bool) :
    List TypeDecl × List Diagnostic :=
  let (types, repeated) := dropRepeated [] decls
  let (ordered, problems) := placeTypes types (fun b => isPredefined b || isLibrary b) [] types
  (ordered, repeated ++ problems)

end BraceScript.Program
