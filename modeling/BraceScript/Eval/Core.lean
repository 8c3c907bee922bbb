/-!
# Core classes

The classes that exist before any script is loaded: those of the values themselves, the
exceptions, and a few more that scripts can only derive from. Every core class has one base, up to
`object`; `Core.ancestors` lists a class and what it derives from.
-/

namespace BraceScript.Eval

/-- A class that is built in. -/
inductive Core
  | object | type | null | bool | int | float | text | list | tuple | dict | set | frozenSet | range
  | function | builtin | method | staticMethod | module | super | hint | generic | any | stream
  | exception (name : String)
  | other (name : String)
  deriving DecidableEq, Repr, Inhabited

/-- Exceptions with the exceptions that derive from them directly. -/
def exceptionTree : List (String × List String) := [
  ("BaseException", ["Exception", "GeneratorExit", "KeyboardInterrupt", "SystemExit",
    "BaseExceptionGroup"]),
  ("Exception", ["ArithmeticError", "AssertionError", "AttributeError", "BufferError", "EOFError",
    "ImportError", "LookupError", "MemoryError", "NameError", "OSError", "ReferenceError",
    "RuntimeError", "StopAsyncIteration", "StopIteration", "SyntaxError", "SystemError",
    "TypeError", "ValueError", "Warning"]),
  ("BaseExceptionGroup", ["ExceptionGroup"]),
  ("ArithmeticError", ["FloatingPointError", "OverflowError", "ZeroDivisionError"]),
  ("ImportError", ["ModuleNotFoundError"]),
  ("LookupError", ["IndexError", "KeyError"]),
  ("NameError", ["UnboundLocalError"]),
  ("OSError", ["BlockingIOError", "ChildProcessError", "ConnectionError", "FileExistsError",
    "FileNotFoundError", "InterruptedError", "IsADirectoryError", "NotADirectoryError",
    "PermissionError", "ProcessLookupError", "TimeoutError"]),
  ("ConnectionError", ["BrokenPipeError", "ConnectionAbortedError", "ConnectionRefusedError",
    "ConnectionResetError"]),
  ("RuntimeError", ["NotImplementedError", "RecursionError"]),
  ("SyntaxError", ["IndentationError"]),
  ("IndentationError", ["TabError"]),
  ("ValueError", ["UnicodeError"]),
  ("UnicodeError", ["UnicodeDecodeError", "UnicodeEncodeError", "UnicodeTranslateError"]),
  ("Warning", ["BytesWarning", "DeprecationWarning", "EncodingWarning", "FutureWarning",
    "ImportWarning", "PendingDeprecationWarning", "ResourceWarning", "RuntimeWarning",
    "SyntaxWarning", "UnicodeWarning", "UserWarning"])]

/-- The exception that an exception derives from directly. -/
def exceptionParent? (name : String) : Option String :=
  (exceptionTree.find? fun e => e.2.contains name).map (·.1)

/-- Other names of exceptions. -/
def exceptionAliases : List (String × String) := [
  ("EnvironmentError", "OSError"), ("IOError", "OSError")]

/-- The core classes without any use in scripts, other than to derive from them. -/
def otherClasses : List String := [
  "bytearray", "bytes", "classmethod", "complex", "enumerate", "filter", "map", "memoryview",
  "property", "reversed", "slice", "zip"]

namespace Core

/-- The name of a core class. -/
def name : Core → String
  | .object => "object"
  | .type => "type"
  | .null => "NoneType"
  | .bool => "bool"
  | .int => "int"
  | .float => "float"
  | .text => "str"
  | .list => "list"
  | .tuple => "tuple"
  | .dict => "dict"
  | .set => "set"
  | .frozenSet => "frozenset"
  | .range => "range"
  | .function => "function"
  | .builtin => "builtin_function_or_method"
  | .method => "method"
  | .staticMethod => "staticmethod"
  | .module => "module"
  | .super => "super"
  | .hint => "_GenericAlias"
  | .generic => "GenericAlias"
  | .any => "Any"
  | .stream => "StringIO"
  | .exception n => n
  | .other n => n

/-- The name of a core class in messages about its instances. -/
def instanceName : Core → String
  | .generic => "types.GenericAlias"
  | .stream => "_io.StringIO"
  | c => c.name

/-- The core classes of values that have a name in programs. -/
def named : List Core := [
  .object, .type, .bool, .int, .float, .text, .list, .tuple, .dict, .set, .frozenSet, .range,
  .staticMethod, .super]

/-- The core class that a name stands for. -/
def ofName? (n : String) : Option Core :=
  match named.find? (·.name == n) with
  | some c => some c
  | none =>
    let n := (exceptionAliases.lookup n).getD n
    if n = "BaseException" || (exceptionParent? n).isSome then some (.exception n)
    else if otherClasses.contains n then some (.other n)
    else if n = "__loader__" then some (.other "BuiltinImporter")
    else none

/-- The class that a core class derives from. -/
def parent? : Core → Option Core
  | .object => none
  | .bool => some .int
  | .exception n =>
    match exceptionParent? n with
    | some p => some (.exception p)
    | none => some .object
  | _ => some .object

/-- A class and what it derives from, up to a number of steps. -/
def chain : Nat → Core → List Core
  | 0, c => [c]
  | n + 1, c =>
    match c.parent? with
    | none => [c]
    | some p => c :: chain n p

/-- A class and what it derives from. The table of exceptions is five levels deep; an exception
group is an ordinary exception too. -/
def ancestors (c : Core) : List Core :=
  if c = .exception "ExceptionGroup" then
    [c, .exception "BaseExceptionGroup", .exception "Exception", .exception "BaseException",
      .object]
  else chain 8 c

/-- Whether a class derives from another one, or is the same. -/
def isSubclass (c d : Core) : Bool := c.ancestors.contains d

/-- Whether instances can be raised. -/
def isException : Core → Bool
  | .exception _ => true
  | _ => false

/-- Whether scripts can derive from a class. -/
def isBase : Core → Bool
  | .bool | .null | .function | .builtin | .method | .hint | .generic | .range => false
  | .other n => !(["memoryview", "slice"].contains n)
  | _ => true

/-- Whether the class of a kind of item can be named, as in a list of texts. -/
def isGeneric : Core → Bool
  | .list | .tuple | .dict | .set | .frozenSet | .type => true
  | .other n => n = "enumerate"
  | .exception n => n = "BaseExceptionGroup" || n = "ExceptionGroup"
  | _ => false

end Core

end BraceScript.Eval
