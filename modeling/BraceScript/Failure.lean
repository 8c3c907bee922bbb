import BraceScript.Number.Limit
import BraceScript.Source.Leading
import BraceScript.Text.Encoding
import BraceScript.Text.Quoted

/-!
# Failures

A `Failure` is a cause for which source files cannot be scanned or compiled at all, as opposed to
a problem in a program, which is a diagnostic. `Failure.label` and `Failure.message` are the name
and the text under which one is reported when nothing handles it.
-/

namespace BraceScript

open Source

/-- A fault in the leading section of a file. -/
structure ScanError where
  path : String
  error : LeadingError
  deriving DecidableEq, Repr

/-- The line that reports a fault in a leading section, in the form of a diagnostic. -/
def ScanError.message (e : ScanError) : String :=
  e.path ++ "(" ++ toString e.error.line ++ "," ++ toString e.error.column ++ ") : error "
    ++ e.error.fault.code ++ ": " ++ e.error.fault.message

/-- Why files cannot be scanned or compiled. -/
inductive Failure
  /-- A file that does not exist, or the directory that it should be made in. -/
  | missing (path : String)
  /-- A file to be made where there is no directory. -/
  | notDirectory (path : String)
  /-- A file to be made whose name is too long. -/
  | tooLong (path : String)
  /-- A path that holds a null character. -/
  | nullInPath
  | scan (error : ScanError)
  | undecodable (error : Text.DecodeError)
  | unknownEncoding (name : String)
  /-- A library named relative to nothing. -/
  | relativeLibrary (name : String)
  /-- A source text that holds a null character. -/
  | nullInSource
  /-- A number with too many digits. -/
  | hugeNumber (digits : Nat)
  /-- A source unit that is already there. -/
  | duplicateUnit (path : String)
  /-- A source unit that is not there. -/
  | unknownUnit (path : String)
  deriving DecidableEq, Repr

/-- A failed operation on a file: its number, its reason and the path. -/
def systemError (number : Nat) (reason path : String) : String :=
  "[Errno " ++ toString number ++ "] " ++ reason ++ ": " ++ Text.quoted path

namespace Failure

/-- The name of a failure. -/
def label : Failure → String
  | .missing _ => "FileNotFoundError"
  | .notDirectory _ => "NotADirectoryError"
  | .tooLong _ => "OSError"
  | .nullInPath => "ValueError"
  | .scan _ => "ScanError"
  | .undecodable _ => "UnicodeDecodeError"
  | .unknownEncoding _ => "LookupError"
  | .relativeLibrary _ => "TypeError"
  | .nullInSource => "ValueError"
  | .hugeNumber _ => "ValueError"
  | .duplicateUnit _ => "KeyError"
  | .unknownUnit _ => "KeyError"

/-- The text of a failure. -/
def message : Failure → String
  | .missing p => p
  | .notDirectory p => systemError 20 "Not a directory" p
  | .tooLong p => systemError 36 "File name too long" p
  | .nullInPath => "embedded null byte"
  | .scan e => e.message
  | .undecodable e => e.message
  | .unknownEncoding n => "unknown encoding: " ++ n
  | .relativeLibrary n =>
    "the 'package' argument is required to perform a relative import for " ++ Text.quoted n
  | .nullInSource => "source code string cannot contain null bytes"
  | .hugeNumber n => Number.tooLongToRead n
  | .duplicateUnit p => Text.quoted ("Source unit already resolved: " ++ p)
  | .unknownUnit p => Text.quoted p

end Failure

end BraceScript
