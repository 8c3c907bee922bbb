import BraceScript.Code.Faults
import BraceScript.Config.Basic
import BraceScript.Outcome
import BraceScript.Program.Library
import BraceScript.Program.Order
import BraceScript.Source.Resolution

/-!
# Compiling programs

`compile` turns compile-ready files and library references into a program, or says why there is
none: every file is read and lowered on its own, the libraries are loaded, the types are put in
order, and the code of every type is checked. `compileProgram` does this for an entry script with
everything that it includes, and removes the temporary copies at the end, however it ends.
-/

namespace BraceScript

open Files Source
open Lowering (TypeDecl)

/-- A program that is ready to be loaded: its types, bases first, and its libraries. -/
structure Program where
  types : List TypeDecl
  libraries : Program.Libraries

namespace Program

/-- The names of the types of a program in order. -/
def typeNames (p : Program) : List String := p.types.map (·.name)

/-! ## Files -/

/-- The classes and problems of a text. -/
def lowerText (path : String) (text : List Char) : List TypeDecl × List Diagnostic :=
  match Syntax.parse text with
  | .error e => ([], [syntaxDiagnostic path text e])
  | .ok f => Lowering.lowerFile path f

/-- The outcome for a file that cannot be read. -/
def unreadable (path reason : String) : List TypeDecl × List Diagnostic :=
  ([], [(Problem.unreadable path reason).nowhere])

/-- The classes and problems of a file. -/
def compileFile (encoding path : String) : Act (List TypeDecl × List Diagnostic) := do
  match ← lookCompiled path with
  | .missing => return unreadable path (systemError 2 "No such file or directory" path)
  | .directory => return unreadable path (systemError 21 "Is a directory" path)
  | .notDirectory => return unreadable path (systemError 20 "Not a directory" path)
  | .tooLong => return unreadable path (systemError 36 "File name too long" path)
  | .invalid => throw .nullInPath
  | .file bytes =>
    let e ← encodingOf encoding
    match e.decode bytes with
    | .error err => return unreadable path err.message
    | .ok cs => return lowerText path (Text.unifyBreaks cs)

/-- The classes and problems of several files. -/
def compileFiles (encoding : String) : List String → Act (List TypeDecl × List Diagnostic)
  | [] => return ([], [])
  | p :: ps => do
    tell (.compiling p)
    let r ← compileFile encoding p
    let rs ← compileFiles encoding ps
    return (r.1 ++ rs.1, r.2 ++ rs.2)

/-! ## Whole programs -/

/-- The types whose code is sound, and the problems of the others. -/
def checkTypes : List TypeDecl → Act (List TypeDecl × List Diagnostic)
  | [] => return ([], [])
  | d :: ds => do
    if d.code.hasNull then throw .nullInSource
    let r ← checkTypes ds
    match d.code.fault? with
    | none => return (d :: r.1, r.2)
    | some f => return (r.1, problemAt (.generation f.message) d :: r.2)

/-- Compiles files against libraries: a program, or at least one diagnostic. -/
def compile (encoding : String) (sources references : List String) :
    Act (Except (List Diagnostic) Program) := do
  let (decls, found) ← compileFiles encoding sources
  let (libraries, missing) ← loadLibraries [] [] [] references
  let (ordered, misplaced) := orderTypes decls libraries.has
  let (types, broken) ← checkTypes ordered
  let problems := found ++ missing ++ misplaced ++ broken
  if problems.isEmpty then return .ok ⟨types, libraries⟩
  else
    tell (.failed problems.length)
    return .error problems

/-- The references of a program: those of the setup, then the imports of every unit. -/
def references (defaults : List String) (units : List SourceUnit) : List String :=
  defaults ++ units.flatMap (·.imports)

/-- The lines that report why there is no program, or the failure itself if no line does. -/
def failureLines : Failure → Except Failure (List String)
  | .missing p => .ok ["File not found: " ++ p]
  | .scan e => .ok [e.message]
  | f => .error f

/-- Compiles the units of a resolution. -/
def compileUnits (config : Config) (r : Resolution) : Act (Outcome Program) := do
  let refs := references (config.defaultReferences.map (·.string)) r.units
  tell (.compilingAll r.size refs)
  match ← compile config.encoding.string (r.units.map (·.compilePath)) refs with
  | .ok p => return .ok p
  | .error ds => return .error (ds.map (·.format r.units))

/-- Compiles an entry script with everything that it includes: a program, or the lines that say
why there is none. -/
def compileProgram (config : Config) (entry : String) : Act (Outcome Program) :=
  fun h =>
    let ((r, resolved), h) := (resolve ⟨config.tempDir.map (·.string), config.encoding.string⟩ .empty entry).run h
    let (result, h) : Except Failure (Outcome Program) × Host :=
      match resolved with
      | .ok () => (compileUnits config r).run h
      | .error f => ((failureLines f).map .error, h)
    (result, ((releaseAll r.units).run h).2)

end Program

end BraceScript
