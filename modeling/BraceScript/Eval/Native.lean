import BraceScript.Eval.Core

/-!
# Native functions

The functions that programs find ready-made: the helpers that generated code calls, the members of
the ready-made classes, and the few functions of modules and of built-in values that these need.
-/

namespace BraceScript.Eval

/-- A ready-made function. -/
inductive Native
  /-- Text of a value, `+`, `/`, `%`, whether a value is an integer, text with placeholders. -/
  | text | add | divide | remainder | isInteger | format
  /-- What stands for a placeholder, as a function of the place that was found. -/
  | replacement
  /-- Members of the writers behind the console. -/
  | writerInit | writerStream | writerWrite | writerWriteLine | writerFlush
  | consoleWrite | consoleWriteLine | consoleReadLine
  | toInt32 | toDouble | toBoolean | toText
  | abs | max | min | sqrt | pow | floor | ceiling | round
  | join | formatText | isNullOrEmpty | concat
  /-- The initialiser that a core class gives its instances. -/
  | initOf (c : Core)
  /-- Functions that every program can name. -/
  | length | isInstance | getAttribute | absolute | greatest | least | rounded
  /-- Functions of modules. -/
  | wholeFloor | wholeCeiling | squareRoot | powerOf | floatRemainder | baseName | substitute | exit
  /-- Functions of built-in values. -/
  | isWhole | strip | stripEnd | lower | joinItems | writeText | readLine | flush
  /-- A built-in function that scripts do not call. -/
  | builtin (name : String)
  deriving DecidableEq, Repr, Inhabited

namespace Native

/-- The built-in functions that ready-made functions need, by name. -/
def namedFunctions : List (String × Native) := [
  ("len", .length), ("isinstance", .isInstance), ("getattr", .getAttribute), ("abs", .absolute),
  ("max", .greatest), ("min", .least), ("round", .rounded)]

/-- The other built-in functions, none of which scripts call. -/
def builtinFunctions : List String := [
  "__build_class__", "__import__", "aiter", "all", "anext", "any", "ascii", "bin", "breakpoint",
  "callable", "chr", "compile", "delattr", "dir", "divmod", "eval", "exec", "format", "globals",
  "hasattr", "hash", "hex", "id", "input", "issubclass", "iter", "locals", "next", "oct", "open",
  "ord", "pow", "print", "repr", "setattr", "sorted", "sum", "vars"]

/-- The built-in function of a name. -/
def ofName? (n : String) : Option Native :=
  match namedFunctions.lookup n with
  | some f => some f
  | none => if builtinFunctions.contains n then some (.builtin n) else none

/-- The functions that the values of a core class have, by name. -/
def membersOf : Core → List (String × Native)
  | .float => [("is_integer", .isWhole)]
  | .int => []
  | .text => [("strip", .strip), ("rstrip", .stripEnd), ("lower", .lower), ("join", .joinItems)]
  | .stream => [("write", .writeText), ("readline", .readLine), ("flush", .flush)]
  | _ => []

/-- The class of a native function as a value. -/
def core : Native → Core
  | .length | .isInstance | .getAttribute | .absolute | .greatest | .least | .rounded
  | .wholeFloor | .wholeCeiling | .squareRoot | .powerOf | .floatRemainder | .exit
  | .builtin _ => .builtin
  | .isWhole | .strip | .stripEnd | .lower | .joinItems | .writeText | .readLine | .flush =>
    .other "method_descriptor"
  | .initOf _ => .other "wrapper_descriptor"
  | _ => .function

/-- Whether a function that is found in a class is tied to the object it is looked up on. -/
def isBound (f : Native) : Bool := f.core != .builtin

/-- Whether a function tied to an object is a function of the object's own class. -/
def isMethod (f : Native) : Bool := f.core == .function

end Native

end BraceScript.Eval
