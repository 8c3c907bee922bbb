import BraceScript.Bindings
import BraceScript.Code.Literal
import BraceScript.Diagnostic
import BraceScript.Host
import BraceScript.Number.Decimal
import BraceScript.Text.Lines

/-!
# Libraries

A library reference is the path of a library file or the dotted name of a module. A file is bound
under its name without extension, a module under the last part of its name. A library file is a
list of named constants; one that raises an exception instead cannot be used.
-/

namespace BraceScript.Program

open Files

/-- A value in a library file. -/
inductive Constant
  | int (n : Int)
  | text (t : Text.Points)
  deriving DecidableEq, Repr

/-- A library that can be used. -/
inductive Library
  /-- A module by its full name. -/
  | module (name : String)
  /-- A library file at a path with its constants in order. -/
  | file (name path : String) (constants : List (String × Constant))
  deriving DecidableEq, Repr

/-- The modules that can be referred to by name. -/
def knownModules : List String := ["math", "os", "os.path", "json", "string", "re"]

/-! ## Library files -/

/-- What a line of a library file does. -/
inductive LibraryLine
  | constant (name : String) (value : Constant)
  | raise (message : String)
  | nothing
  deriving Repr

/-- The characters between the quotes of a literal, which may be three on each side. -/
def unquoted? (cs : List Char) : Option (List Char) :=
  match cs with
  | q :: _ =>
    let three := [q, q, q]
    if q != '"' && q != '\'' then none
    else if 6 ≤ cs.length && three.isPrefixOf cs && three.isPrefixOf cs.reverse then
      some ((cs.drop 3).reverse.drop 3).reverse
    else if 2 ≤ cs.length && cs.getLast? == some q then some (cs.drop 1).dropLast
    else none
  | [] => none

/-- The text of a quoted literal. In one that is marked as raw a backslash is a character like any
other. -/
def literalText? (cs : List Char) : Option Text.Points :=
  match cs with
  | c :: rest =>
    if c = 'r' || c = 'R' then (unquoted? rest).map Text.Points.ofChars
    else if c = 'u' || c = 'U' then decoded? rest
    else decoded? cs
  | [] => none
where
  /-- The text of a literal without a mark. -/
  decoded? (cs : List Char) : Option Text.Points :=
    (unquoted? cs).bind fun inner => (Code.decodeInner inner).toOption

/-- The letters that say in which base an integer is written. -/
def baseLetters : List (Char × Nat) :=
  [('x', 16), ('X', 16), ('o', 8), ('O', 8), ('b', 2), ('B', 2)]

/-- The value that characters write. -/
def constant? (cs : List Char) : Option Constant :=
  let (negative, rest) := Number.takeSign cs
  let magnitude : Option Nat := match rest with
    | '0' :: c :: ds =>
      match baseLetters.lookup c with
      | some base => Number.readBase? base (if ds.head? == some '_' then ds.drop 1 else ds)
      | none => Number.readBase? 10 rest
    | _ => Number.readBase? 10 rest
  match magnitude with
  | some n => some (.int (Number.Double.signed negative n))
  | none => (literalText? cs).map .text

/-- The literal between brackets behind the name of an exception. -/
def raisedText (cs : List Char) : String :=
  let inner := ((cs.dropWhile (· != '(')).drop 1).reverse.dropWhile (· != ')')
  ((literalText? (inner.drop 1).reverse).map (·.string)).getD ""

/-- Reads a line of a library file. -/
def libraryLine (line : List Char) : LibraryLine :=
  if "raise ".toList.isPrefixOf line then .raise (raisedText line)
  else
    let name := Text.trim (line.takeWhile (· != '='))
    match line.dropWhile (· != '=') with
    | [] => .nothing
    | _ :: value =>
      match constant? (Text.trim value) with
      | some v => .constant (String.ofList name) v
      | none => .nothing

/-- Runs the lines of a library file: its constants, or the message of what it raises. -/
def libraryConstants : List (List Char) → Except String (List (String × Constant))
  | [] => .ok []
  | l :: ls =>
    match libraryLine l with
    | .raise m => .error m
    | .nothing => libraryConstants ls
    | .constant n v => (libraryConstants ls).map ((n, v) :: ·)

/-- The extension of library files. -/
def libraryExtension : String := ".py"

/-- Loads a library file that is there. -/
def loadFile (reference path : String) (bytes : Bytes) : Except Problem (String × Library) :=
  let name := (splitExtension reference).1
  if !libraryExtension.toList.reverse.isPrefixOf reference.toList.reverse then
    .error (.libraryBroken reference "not a Python module")
  else match Text.Encoding.utf8Marked.decode bytes with
    | .error e => .error (.libraryBroken reference e.message)
    | .ok cs =>
      match libraryConstants (Text.lines (Text.unifyBreaks cs)) with
      | .error m => .error (.libraryBroken reference m)
      | .ok constants => .ok (name, .file name path constants)

/-- The last part of a dotted name. -/
def lastPart (name : String) : String :=
  String.ofList (name.toList.reverse.takeWhile (· != '.')).reverse

/-- Loads a library: its binding name and what is bound, or why it cannot be used. -/
def loadLibrary (reference : String) : Act (Except Problem (String × Library)) := do
  match ← look reference with
  | .file bytes => return loadFile reference ((← get).absolute reference) bytes
  | _ =>
    if knownModules.contains reference then return .ok (lastPart reference, .module reference)
    if reference.toList.head? == some '.' then throw (.relativeLibrary reference)
    return .error (.libraryNotFound reference)

/-! ## All libraries of a program -/

/-- Libraries by binding name. -/
abbrev Libraries := Bindings Library

/-- Loads the references that were not loaded before, in order. -/
def loadLibraries (seen : List String) (bound : Libraries) (problems : List Diagnostic) :
    List String → Act (Libraries × List Diagnostic)
  | [] => return (bound, problems)
  | r :: rs => do
    if seen.contains r then loadLibraries seen bound problems rs
    else
      match ← loadLibrary r with
      | .error p => loadLibraries (r :: seen) bound (problems ++ [p.nowhere]) rs
      | .ok (name, l) =>
        tell (.bound r name)
        loadLibraries (r :: seen) (bound.put name l) problems rs

end BraceScript.Program
