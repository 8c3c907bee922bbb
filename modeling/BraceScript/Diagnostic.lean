import BraceScript.Source.Unit
import BraceScript.Syntax.Parser
import BraceScript.Text.Lowercase

/-!
# Diagnostics

A `Problem` is a cause for which a program is refused; `Problem.code` and `Problem.message` give
its number and wording. A `Diagnostic` is a problem at a place of a compiled file. Since the
compiled file may be a shortened copy, `Diagnostic.location` finds the unit that owns the file
and gives the place in the file that the user wrote.
-/

namespace BraceScript

open Syntax Source

/-! ## Problems -/

/-- A cause for which a program is refused. -/
inductive Problem
  /-- A token that no file has at its place. -/
  | unexpectedToken (text : String)
  /-- A character that begins no token. -/
  | unexpectedCharacter (c : Char)
  /-- A file that ends too early. -/
  | unexpectedEnd
  /-- Two members of one name in a class. -/
  | duplicateMember (type name : String)
  /-- A constructor that is not named like its class. -/
  | missingReturnType
  /-- A bare instance member where there is no instance. -/
  | instanceRequired (type name : String)
  /-- Two classes of one name in a program. -/
  | duplicateType (name : String)
  /-- A class that derives from itself. -/
  | circularBase (name : String)
  /-- A base class that is not known. -/
  | unknownBase (name : String)
  /-- A class for which no code can be generated. -/
  | generation (reason : String)
  /-- A file that cannot be read. -/
  | unreadable (path reason : String)
  /-- A library that does not exist. -/
  | libraryNotFound (reference : String)
  /-- A library that exists and cannot be used. -/
  | libraryBroken (reference reason : String)
  deriving DecidableEq, Repr

namespace Problem

/-- The number of a problem. -/
def code : Problem → String
  | .unexpectedToken _ => "CR1001"
  | .unexpectedCharacter _ => "CR1002"
  | .unexpectedEnd => "CR1003"
  | .duplicateMember .. => "CR0102"
  | .missingReturnType => "CR1520"
  | .instanceRequired .. => "CR0120"
  | .duplicateType _ => "CR0101"
  | .circularBase _ => "CR0146"
  | .unknownBase _ => "CR0246"
  | .generation _ => "CR9999"
  | .unreadable .. => "CR2001"
  | .libraryNotFound _ => "CR0006"
  | .libraryBroken .. => "CR0009"

/-- The wording of a problem. -/
def message : Problem → String
  | .unexpectedToken t => "Unexpected '" ++ t ++ "'"
  | .unexpectedCharacter c => "Unexpected character '" ++ String.ofList [c] ++ "'"
  | .unexpectedEnd => "Unexpected end of file"
  | .duplicateMember t n => "The type '" ++ t ++ "' already contains a definition for '" ++ n ++ "'"
  | .missingReturnType => "Method must have a return type"
  | .instanceRequired t n =>
    "An object reference is required for the non-static member '" ++ t ++ "." ++ n ++ "'"
  | .duplicateType n => "The program already contains a definition for '" ++ n ++ "'"
  | .circularBase n => "Circular base class dependency involving '" ++ n ++ "'"
  | .unknownBase n => "The type or namespace name '" ++ n ++ "' could not be found"
  | .generation r => "Internal code generation error: " ++ r
  | .unreadable p r => "Source file '" ++ p ++ "' could not be read: " ++ r
  | .libraryNotFound r => "Library '" ++ r ++ "' could not be found"
  | .libraryBroken r w => "Library '" ++ r ++ "' could not be loaded: " ++ w

end Problem

/-! ## Places -/

/-- A problem as it is reported: at a place of a compiled file, or of no file. -/
structure Diagnostic where
  file : Option String
  line : Nat
  column : Nat
  code : String
  message : String
  deriving DecidableEq, Repr

/-- A problem at a place of a file. -/
def Problem.at (p : Problem) (file : String) (place : Position) : Diagnostic :=
  ⟨some file, place.line, place.column, p.code, p.message⟩

/-- A problem that concerns no file. -/
def Problem.nowhere (p : Problem) : Diagnostic := ⟨none, 0, 0, p.code, p.message⟩

/-- The place just past the last character of a text. -/
def endPosition (text : List Char) : Position := Position.start.advance text

/-- The diagnostic for a text that is no source file. -/
def syntaxDiagnostic (file : String) (text : List Char) : SyntaxError → Diagnostic
  | .unexpected t => (Problem.unexpectedToken t.text).at file t.position
  | .unknown c p => (Problem.unexpectedCharacter c).at file p
  | .incomplete => Problem.unexpectedEnd.at file (endPosition text)

/-- A place in a file that the user wrote. -/
structure Location where
  path : String
  line : Nat
  column : Nat
  deriving DecidableEq, Repr

namespace Diagnostic

/-- The first unit whose compiled file is the file of the diagnostic, whatever the case of the
letters. -/
def owner? (d : Diagnostic) (units : List SourceUnit) : Option SourceUnit :=
  d.file.bind fun file => units.find? fun u => Text.lower u.compilePath == Text.lower file

/-- The place in the file that the user wrote, for a diagnostic that concerns a file. -/
def location? (d : Diagnostic) (units : List SourceUnit) : Option Location :=
  d.file.map fun file =>
    match d.owner? units with
    | none => ⟨file, d.line, d.column⟩
    | some u => ⟨u.sourcePath, d.line + u.lineOffset, d.column⟩

/-- The line that reports a diagnostic. -/
def format (d : Diagnostic) (units : List SourceUnit) : String :=
  let fault := "error " ++ d.code ++ ": " ++ d.message
  match d.location? units with
  | none => fault
  | some l => l.path ++ "(" ++ toString l.line ++ "," ++ toString l.column ++ ") : " ++ fault

end Diagnostic

end BraceScript
