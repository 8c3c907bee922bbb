import BraceScript.CommandLine
import BraceScript.Eval.Load

/-!
# Entry procedures

A program starts with a static method that takes one list of texts: the one that is named on the
command line, or else the only `Main` among its types.
-/

namespace BraceScript.Entry

open Eval

/-- A method that a program can start with. -/
structure Candidate where
  type : String
  method : String
  target : Value

/-- The name under which a candidate is shown, and can be asked for. -/
def Candidate.name (c : Candidate) : String := c.type ++ "." ++ c.method

/-- The method that is looked for in every type. -/
def mainName : String := "Main"

/-- Whether a value is the hint of a list of texts. -/
def isTexts : Value → Bool
  | .hint (.cls (.core .text)) => true
  | _ => false

/-- Whether a function takes one list of texts. -/
def takesTexts (s : Store) : Value → Bool
  | .function p =>
    match (s.function p).params with
    | [(_, some h)] => isTexts h
    | _ => false
  | _ => false

/-- The static method of a type that takes one list of texts, if the type itself has it. -/
def ownMethod? (s : Store) (type : Value) (name : String) : Option Value :=
  match type with
  | .cls (.loaded p) =>
    match (s.loadedClass p).members.get? (Code.ident name) with
    | some (.staticMethod f) => if takesTexts s f then some f else none
    | _ => none
  | _ => none

/-- The candidates of a name in one type. -/
def candidatesIn (s : Store) (name : String) (type : String × Value) : List Candidate :=
  (ownMethod? s type.2 name).toList.map fun f => ⟨type.1, name, f⟩

/-- The methods that a program can start with: those that are asked for, or else all with the
usual name. -/
def candidates (s : Store) (types : Variables) : Option EntrySpec → List Candidate
  | some e =>
    match types.get? e.type with
    | some v => candidatesIn s e.method (e.type, v)
    | none => []
  | none => types.flatMap (candidatesIn s mainName)

/-- The only candidate, if there is exactly one. -/
def only? : List Candidate → Option Candidate
  | [c] => some c
  | _ => none

/-- The line that reports that there is not exactly one candidate. -/
def notFound : String := "Entry point not found. Use -entry."

/-- Calls an entry procedure with the arguments of a program. -/
def invoke (c : Candidate) (arguments : List String) : Eval Value := do
  apply fuel c.target [← newList (arguments.map fun (t : String) => Value.text t).toArray]

end BraceScript.Entry
