import BraceScript.Number.Limit
import BraceScript.Text.Points

/-!
# Faults

What can go wrong with an operation on values. A fault becomes an exception when the operation is
run: `Fault.type` is the name of its class and `Fault.message` its text. Names of classes are cut
in most texts, at a length that depends on the operation.
-/

namespace BraceScript.Eval

open Text (Points)

/-- A kind of sequence. -/
inductive Sequence
  | list | tuple | text | range
  deriving DecidableEq, Repr

/-- The name of a sequence in messages about places in it. -/
def Sequence.name : Sequence → String
  | .list => "list"
  | .tuple => "tuple"
  | .text => "string"
  | .range => "range"

/-- The name of a sequence in messages about its class. -/
def Sequence.type : Sequence → String
  | .text => "str"
  | k => k.name

/-- How many arguments a built-in function takes. -/
inductive Bound
  | exactly (n : Nat)
  | atLeast (n : Nat)
  | atMost (n : Nat)
  deriving DecidableEq, Repr

/-- Why an operation on values fails. Operands are given by the names of their classes. -/
inductive Fault
  -- names and attributes
  | undefinedName (name : String)
  | unboundLocal (name : String)
  | noAttribute (type name : String)
  | noClassAttribute (cls name : String)
  | noModuleAttribute (module name : String)
  | noSuchAttribute (type name : String)
  | readOnlyAttribute (type name : String)
  | readOnlyField
  | classValue (type : String)
  | fixedClass
  | layout (new old : String)
  | integerRequired
  | immutableClass (cls name : String)
  | attributeName (type : String)
  -- operators
  | operands (op left right : String)
  | operand (op type : String)
  | unordered (op left right : String)
  | factor (type : String)
  | joining (kind : Sequence) (type : String)
  | divisionByZero
  | trueDivisionByZero
  | floatDivisionByZero
  | wholeDivisionByZero
  | quotientTooLarge
  -- results of functions with a special meaning
  | returned (function expected type : String)
  | brokenText
  | returnedNonFloat (cls type : String)
  | negativeLength
  | nonIterator (type : String)
  | keyNumber
  -- calls
  | notCallable (type : String)
  | tooManyArguments (function : String) (least most given : Nat)
  | missingArguments (function : String) (names : List String)
  | takes (function : String) (bound : Bound) (given : Nat)
  | expected (function : String) (bound : Bound) (given : Nat)
  | missingArgument (function name : String) (position : Nat)
  | typeArguments
  | argument (place expected type : String)
  | takesNoArguments (cls : String)
  | initTakesNoArguments (cls : String)
  | newTakesNoArguments
  | cannotInstantiate (hint : String)
  | cannotInstantiateList
  | initReturned (type : String)
  | notAvailable (function : String)
  -- sequences and collections
  | notIterable (type : String)
  | joinIterable
  | joinItem (place : Nat) (type : String)
  | noLength (type : String)
  | notSubscriptable (type : String)
  | classNotSubscriptable (cls : String)
  | noItemAssignment (type : String)
  | outOfRange (kind : Sequence)
  | assignmentOutOfRange
  | indexType (kind : Sequence) (type : String)
  | indexTooLarge
  | repeatTooLarge
  | unhashable (type : String)
  | noPair (place : Nat)
  | pairLength (place length : Nat)
  | noItems (function : String)
  | zeroStep
  -- numbers
  | mathDomain
  | mathRange
  | notReal (type : String)
  | tooLargeForFloat
  | infiniteToInt
  | nanToInt
  | roundedTooLarge
  | notInteger (type : String)
  | noRounding (type : String)
  | intArgument (type : String)
  | floatArgument (type : String)
  | intLiteral (base : Int) (text : Points)
  | intBase
  | textForBase
  | floatLiteral (text : Points)
  | tooManyDigits
  | tooManyDigitsRead (digits : Nat)
  | notBoolean (text : Points)
  -- texts
  | notPath (type : String)
  | notWritable (type : String)
  | notSearchable (type : String)
  | stripped
  | textDecoding
  | noBytes (type : String)
  | noBytesFound (type : String)
  -- hints
  | noExpression (text : Points)
  | tooFewHints
  | tooManyHints (count : Nat)
  | nestedHint (shown : Points)
  | notGeneric (hint : Points)
  | emptyHint
  | nullInHint
  -- exceptions
  | notRaisable
  | notCatchable
  | nothingToRaise
  | noEndOffset
  | countTooLarge
  | groupSequence
  | groupEmpty
  | groupItem (place : Nat)
  | groupNesting (cls : Option String)
  -- the members of base classes
  | superWithoutArguments
  | superUnbuilt
  | superMismatch
  | superType (type : String)
  -- classes
  | noClassMaker
  | notClass
  | subscriptedClass
  | genericClass
  | hintClass
  | unusableBase (cls : String)
  | uncreatableBase (type : String)
  | functionBase
  | moduleBase
  | boolBase
  | textBase
  | noArgumentsBase (type : String)
  | initArgumentsBase (type : String)
  deriving DecidableEq, Repr

/-! ## Parts of texts -/

/-- The first bytes of a name, as far as they are whole characters; what is left of a character
that is cut through is replaced. -/
def clip (bytes : Nat) (name : String) : String :=
  if name.utf8ByteSize ≤ bytes then name else String.ofList (go bytes name.toList)
where
  /-- The characters that fit. -/
  go : Nat → List Char → List Char
    | _, [] => []
    | n, c :: cs =>
      if c.utf8Size ≤ n then c :: go (n - c.utf8Size) cs else if n = 0 then [] else ['�']

/-- Names in quotes with commas and a last `and`. -/
def namesText : List String → String
  | [] => ""
  | [a] => Text.quoted a
  | [a, b] => Text.quoted a ++ " and " ++ Text.quoted b
  | a :: b :: rest => Text.quoted a ++ ", " ++ lastWithComma b rest
where
  /-- The end of at least three names. -/
  lastWithComma (a : String) : List String → String
    | [] => "and " ++ Text.quoted a
    | b :: rest => Text.quoted a ++ ", " ++ lastWithComma b rest

/-- A number of things in words. -/
def plural (thing : String) (count : Nat) : String :=
  toString count ++ " " ++ thing ++ (if count = 1 then "" else "s")

/-- A number of positional arguments in words. -/
def countText (least most : Nat) : String :=
  if least = most then plural "positional argument" most
  else "from " ++ toString least ++ " to " ++ toString most ++ " positional arguments"

/-- What a built-in function takes in words. -/
def Bound.taken : Bound → String
  | .exactly 0 => "no arguments"
  | .exactly 1 => "exactly one argument"
  | .exactly n => "exactly " ++ plural "argument" n
  | .atLeast n => "at least " ++ plural "argument" n
  | .atMost n => "at most " ++ plural "argument" n

/-- What a built-in function expects in words. -/
def Bound.expected : Bound → String
  | .exactly n => plural "argument" n
  | b => b.taken

namespace Fault

/-! ## Exceptions of faults -/

/-- The name of the class of the exception that a fault becomes. -/
def type : Fault → String
  | .undefinedName _ | .noClassMaker => "NameError"
  | .unboundLocal _ => "UnboundLocalError"
  | .noAttribute .. | .noClassAttribute .. | .noModuleAttribute .. | .noSuchAttribute ..
  | .readOnlyAttribute .. | .readOnlyField => "AttributeError"
  | .divisionByZero | .trueDivisionByZero | .floatDivisionByZero | .wholeDivisionByZero =>
    "ZeroDivisionError"
  | .outOfRange _ | .assignmentOutOfRange | .indexTooLarge | .emptyHint => "IndexError"
  | .repeatTooLarge | .mathRange | .tooLargeForFloat | .infiniteToInt | .roundedTooLarge
  | .quotientTooLarge => "OverflowError"
  | .mathDomain | .nanToInt | .intLiteral .. | .intBase | .floatLiteral _ | .tooManyDigits
  | .tooManyDigitsRead _ | .notBoolean _ | .negativeLength | .countTooLarge | .pairLength .. | .noItems _
  | .zeroStep | .groupEmpty | .groupItem _ | .nullInHint => "ValueError"
  | .nothingToRaise | .superWithoutArguments | .superUnbuilt => "RuntimeError"
  | .notAvailable _ => "NotImplementedError"
  | .brokenText => "SystemError"
  | .noExpression _ => "SyntaxError"
  | _ => "TypeError"

/-- The text of the exception that a fault becomes. -/
def message : Fault → Points
  | .undefinedName x => "name '" ++ clip 200 x ++ "' is not defined"
  | .unboundLocal x =>
    "cannot access local variable '" ++ x ++ "' where it is not associated with a value"
  | .noAttribute t x => "'" ++ clip 50 t ++ "' object has no attribute '" ++ x ++ "'"
  | .noClassAttribute c x => "type object '" ++ clip 50 c ++ "' has no attribute '" ++ x ++ "'"
  | .noModuleAttribute m x => "module '" ++ m ++ "' has no attribute '" ++ x ++ "'"
  | .noSuchAttribute t x => "'" ++ clip 100 t ++ "' object has no attribute '" ++ x ++ "'"
  | .readOnlyAttribute t x => "'" ++ clip 50 t ++ "' object attribute '" ++ x ++ "' is read-only"
  | .readOnlyField => "readonly attribute"
  | .classValue t => "__class__ must be set to a class, not '" ++ clip 200 t ++ "' object"
  | .fixedClass =>
    "__class__ assignment only supported for mutable types or ModuleType subclasses"
  | .immutableClass c x => "cannot set '" ++ x ++ "' attribute of immutable type '" ++ c ++ "'"
  | .attributeName t => "attribute name must be string, not '" ++ clip 200 t ++ "'"
  | .operands op l r =>
    "unsupported operand type(s) for " ++ op ++ ": '" ++ clip 100 l ++ "' and '" ++ clip 100 r
      ++ "'"
  | .operand op t => "bad operand type for " ++ op ++ ": '" ++ clip 200 t ++ "'"
  | .unordered op l r =>
    "'" ++ op ++ "' not supported between instances of '" ++ clip 100 l ++ "' and '" ++ clip 100 r
      ++ "'"
  | .factor t => "can't multiply sequence by non-int of type '" ++ clip 200 t ++ "'"
  | .joining k t =>
    "can only concatenate " ++ k.type ++ " (not \"" ++ clip 200 t ++ "\") to " ++ k.type
  | .layout new old =>
    "__class__ assignment: '" ++ clip 100 new ++ "' object layout differs from '" ++ clip 100 old
      ++ "'"
  | .integerRequired => "an integer is required"
  | .divisionByZero => "integer division or modulo by zero"
  | .trueDivisionByZero => "division by zero"
  | .floatDivisionByZero => "float division by zero"
  | .wholeDivisionByZero => "float floor division by zero"
  | .quotientTooLarge => "integer division result too large for a float"
  | .returned "__bool__" _ t => "__bool__ should return bool, returned " ++ t
  | .returned f e t => f ++ " returned " ++ e ++ " (type " ++ clip 200 t ++ ")"
  | .brokenText => "<class 'str'> returned a result with an exception set"
  | .returnedNonFloat c t =>
    clip 50 c ++ ".__float__ returned non-float (type " ++ clip 50 t ++ ")"
  | .negativeLength => "__len__() should return >= 0"
  | .nonIterator t => "iter() returned non-iterator of type '" ++ clip 100 t ++ "'"
  | .keyNumber => "__hash__ method should return an integer"
  | .notCallable t => "'" ++ clip 200 t ++ "' object is not callable"
  | .tooManyArguments f least most given =>
    f ++ "() takes " ++ countText least most ++ " but " ++ toString given
      ++ (if given = 1 then " was given" else " were given")
  | .missingArguments f names =>
    f ++ "() missing " ++ plural "required positional argument" names.length ++ ": "
      ++ namesText names
  | .takes f b given => f ++ " takes " ++ b.taken ++ " (" ++ toString given ++ " given)"
  | .expected f b given => f ++ " expected " ++ b.expected ++ ", got " ++ toString given
  | .missingArgument f x n =>
    f ++ "() missing required argument '" ++ x ++ "' (pos " ++ toString n ++ ")"
  | .typeArguments => "type() takes 1 or 3 arguments"
  | .argument p e t => p ++ " must be " ++ e ++ ", not " ++ clip 50 t
  | .takesNoArguments c => clip 200 c ++ "() takes no arguments"
  | .initTakesNoArguments c =>
    clip 200 c ++ ".__init__() takes exactly one argument (the instance to initialize)"
  | .newTakesNoArguments =>
    "object.__new__() takes exactly one argument (the type to instantiate)"
  | .cannotInstantiate h => h ++ " cannot be instantiated"
  | .cannotInstantiateList => "Type List cannot be instantiated; use list() instead"
  | .initReturned t => "__init__() should return None, not '" ++ clip 200 t ++ "'"
  | .notAvailable f => f
  | .notIterable t => "'" ++ clip 200 t ++ "' object is not iterable"
  | .joinIterable => "can only join an iterable"
  | .joinItem n t =>
    "sequence item " ++ toString n ++ ": expected str instance, " ++ clip 80 t ++ " found"
  | .noLength t => "object of type '" ++ clip 200 t ++ "' has no len()"
  | .notSubscriptable t => "'" ++ clip 200 t ++ "' object is not subscriptable"
  | .classNotSubscriptable c => "type '" ++ clip 200 c ++ "' is not subscriptable"
  | .noItemAssignment t => "'" ++ clip 200 t ++ "' object does not support item assignment"
  | .outOfRange .range => "range object index out of range"
  | .outOfRange k => k.name ++ " index out of range"
  | .assignmentOutOfRange => "list assignment index out of range"
  | .indexType .text t => "string indices must be integers, not '" ++ clip 200 t ++ "'"
  | .indexType k t => k.name ++ " indices must be integers or slices, not " ++ clip 200 t
  | .indexTooLarge | .repeatTooLarge | .countTooLarge => "cannot fit 'int' into an index-sized integer"
  | .unhashable t => "unhashable type: '" ++ clip 200 t ++ "'"
  | .noPair n =>
    "cannot convert dictionary update sequence element #" ++ toString n ++ " to a sequence"
  | .pairLength n k =>
    "dictionary update sequence element #" ++ toString n ++ " has length " ++ toString k
      ++ "; 2 is required"
  | .noItems f => f ++ "() arg is an empty sequence"
  | .zeroStep => "range() arg 3 must not be zero"
  | .mathDomain => "math domain error"
  | .mathRange => "math range error"
  | .notReal t => "must be real number, not " ++ clip 50 t
  | .tooLargeForFloat => "int too large to convert to float"
  | .infiniteToInt => "cannot convert float infinity to integer"
  | .nanToInt => "cannot convert float NaN to integer"
  | .roundedTooLarge => "rounded value too large to represent"
  | .notInteger t => "'" ++ clip 200 t ++ "' object cannot be interpreted as an integer"
  | .noRounding t => "type " ++ clip 100 t ++ " doesn't define __round__ method"
  | .intArgument t =>
    "int() argument must be a string, a bytes-like object or a real number, not '" ++ clip 200 t
      ++ "'"
  | .floatArgument t =>
    "float() argument must be a string or a real number, not '" ++ clip 200 t ++ "'"
  | .intLiteral b s =>
    "invalid literal for int() with base " ++ toString b ++ ": "
      ++ String.ofList (s.quoted.toList.take 200)
  | .intBase => "int() base must be >= 2 and <= 36, or 0"
  | .textForBase => "int() can't convert non-string with explicit base"
  | .floatLiteral s => "could not convert string to float: " ++ s.quoted
  | .tooManyDigits => Number.tooLongToWrite
  | .tooManyDigitsRead n => Number.tooLongToRead n
  | .notBoolean s => ("String '" : Points) ++ s ++ "' was not recognized as a valid Boolean."
  | .notPath t => "expected str, bytes or os.PathLike object, not " ++ clip 200 t
  | .notWritable t => "string argument expected, got '" ++ t ++ "'"
  | .notSearchable t => "expected string or bytes-like object, got '" ++ clip 200 t ++ "'"
  | .stripped => "strip arg must be None or str"
  | .textDecoding => "decoding str is not supported"
  | .noBytes t => "a bytes-like object is required, not '" ++ clip 100 t ++ "'"
  | .noBytesFound t =>
    "decoding to str: need a bytes-like object, " ++ clip 80 t ++ " found"
  | .noExpression s => "Forward reference must be an expression -- got " ++ s.quoted
  | .tooFewHints => "Too few arguments for typing.List; actual 0, expected 1"
  | .tooManyHints n =>
    "Too many arguments for typing.List; actual " ++ toString n ++ ", expected 1"
  | .nestedHint s =>
    ("Parameters to generic types must be types. Got " : Points) ++ ⟨s.codes.take 100⟩ ++ "."
  | .notGeneric s => s ++ (" is not a generic class" : Points)
  | .emptyHint => "string index out of range"
  | .nullInHint => "source code string cannot contain null bytes"
  | .notRaisable => "exceptions must derive from BaseException"
  | .notCatchable => "catching classes that do not inherit from BaseException is not allowed"
  | .nothingToRaise => "No active exception to reraise"
  | .noEndOffset => "end_offset must be provided when end_lineno is provided"
  | .groupSequence => "second argument (exceptions) must be a sequence"
  | .groupEmpty => "second argument (exceptions) must be a non-empty sequence"
  | .groupItem n =>
    "Item " ++ toString n ++ " of second argument (exceptions) is not an exception"
  | .groupNesting none => "Cannot nest BaseExceptions in an ExceptionGroup"
  | .groupNesting (some c) => "Cannot nest BaseExceptions in '" ++ clip 200 c ++ "'"
  | .superWithoutArguments => "super(): no arguments"
  | .superUnbuilt => "super(): empty __class__ cell"
  | .superMismatch => "super(type, obj): obj must be an instance or subtype of type"
  | .superType t => "super() argument 1 must be a type, not " ++ clip 100 t
  | .noClassMaker => "__build_class__ not found"
  | .notClass => "isinstance() arg 2 must be a type, a tuple of types, or a union"
  | .subscriptedClass => "Subscripted generics cannot be used with class and instance checks"
  | .genericClass => "isinstance() argument 2 cannot be a parameterized generic"
  | .hintClass => "typing.Any cannot be used with isinstance()"
  | .unusableBase c => "type '" ++ clip 100 c ++ "' is not an acceptable base type"
  | .uncreatableBase t => "cannot create '" ++ t ++ "' instances"
  | .functionBase => "function() argument 'code' must be code, not str"
  | .moduleBase => "module() takes at most 2 arguments (3 given)"
  | .boolBase => "bool expected at most 1 argument, got 3"
  | .textBase => "str() argument 'encoding' must be str, not tuple"
  | .noArgumentsBase t => t ++ " takes no arguments"
  | .initArgumentsBase t => t ++ ".__init__() takes 3 positional arguments but 4 were given"

end Fault

end BraceScript.Eval
