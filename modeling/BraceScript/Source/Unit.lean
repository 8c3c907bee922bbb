/-!
# Source units

A source unit is one scanned source file: the file as the user wrote it, the file that is compiled
in its place, and what its leading section refers to. The two files differ only when the source
had a metadata block in front, which is left out of the compiled copy.
-/

namespace BraceScript.Source

/-- One scanned source file. -/
structure SourceUnit where
  /-- The file that the user wrote. -/
  sourcePath : String
  /-- The file that is compiled: the source itself or a temporary copy. -/
  compilePath : String
  /-- How many lines of the source the compiled file leaves out. -/
  lineOffset : Nat
  /-- The scripts that the source includes. -/
  includes : List String
  /-- The libraries that the source imports. -/
  imports : List String
  deriving DecidableEq, Repr

/-- Whether the compiled file is a copy. -/
def SourceUnit.isCopied (u : SourceUnit) : Bool := u.compilePath != u.sourcePath

end BraceScript.Source
