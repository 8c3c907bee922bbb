import BraceScript.Eval.Helper
import BraceScript.Eval.Make

/-!
# Calls of ready-made functions

What ready-made functions do with their arguments. Built-in functions count their arguments
themselves; those of the program have parameters like any function of a script.
-/

namespace BraceScript.Eval

open Number (Double)
open Text (Points)

/-! ## Arguments of built-in functions -/

/-- The only argument of a built-in function. -/
def single (function : String) : List Value → Calling Value
  | [v] => pure v
  | vs => fail (.takes function (.exactly 1) vs.length)

/-- The only two arguments of a built-in function. -/
def pairOf (function : String) : List Value → Calling (Value × Value)
  | [v, w] => pure (v, w)
  | vs => fail (.expected function (.exactly 2) vs.length)

/-- Refuses further arguments. -/
def noMore (function : String) (more : List Value) : Calling Unit := do
  if !more.isEmpty then fail (.takes function (.exactly 0) more.length)

/-! ## Classes and attributes -/

/-- Whether a value is of a type, for tuples of types up to a depth. -/
def isInstanceOf (v : Value) : Nat → Value → Calling Bool
  | 0, _ => pure false
  | n + 1, type => do
    let s ← get
    match s.meaning? type "__instancecheck__", s.bare type with
    | some f, _ => truth (← call f [v])
    | none, .cls (.core .any) => fail .hintClass
    | none, .cls c => return s.isSubclass (s.classOf v) c
    | none, .listHint => return s.isSubclass (s.classOf v) (.core .list)
    | none, .hint _ => fail .subscriptedClass
    | none, .generic .. => fail .genericClass
    | none, .tuple types => anyOf (isInstanceOf v n) types
    | none, _ => fail .notClass
where
  /-- Whether a test holds of any of several values. -/
  anyOf (test : Value → Calling Bool) : List Value → Calling Bool
    | [] => pure false
    | t :: ts => do if ← test t then return true else anyOf test ts

/-- The attribute of a value by a name, or another value if it has none. -/
def getAttribute (v name : Value) (default? : Option Value) : Calling Value := do
  match (← get).bare name with
  | .text t =>
    match default? with
    | none => attrOf v t.string
    | some d => return (← unlessRaised ["AttributeError"] (attrOf v t.string)).getD d
  | _ => fail (.attributeName ((← get).typeName name))

/-! ## Texts -/

/-- Code points without those of a kind at the end. -/
def stripEndOf (isStripped : Nat → Bool) (cs : List Nat) : List Nat :=
  (cs.reverse.dropWhile isStripped).reverse

/-- Which code points a text is stripped of: those of another text, or else blanks. -/
def strippedCodes (function : String) : List Value → Calling (Nat → Bool)
  | [] | [.null] => pure fun c => Text.isBlank (Text.charOf c)
  | [v] => do
    match (← get).bare v with
    | .text t => return fun c => t.codes.contains c
    | _ => fail .stripped
  | vs => fail (.expected function (.atMost 1) vs.length)

/-- The text that a function of texts was called on. -/
def selfText (self : Value) : Calling Points := do
  match (← get).bare self with
  | .text t => return t
  | _ => fail (.notAvailable ((← get).typeName self))

/-- A text in lower case. -/
def lowerText (t : Points) : Points :=
  if t.hasSurrogate then ⟨t.codes.map fun c => if c < 0x80 then (Text.charOf c).toLower.toNat else c⟩
  else Points.ofChars (Text.lowerAfter [] t.chars)

/-- Texts that a value goes through with a text between them. -/
def joinItems (separator : Points) (v : Value) : Calling Value := do
  match ← unlessRaised ["TypeError"] (Cursor.start v) with
  | none => fail .joinIterable
  | some c => joinTexts separator (← c.rest)

/-! ## Streams -/

/-- Adds a text to what a stream was given. -/
def writeStream (name : String) (t : Points) : Eval Unit :=
  modify fun s =>
    if name = "stdout" then { s with output := s.output ++ t.codes.toArray }
    else if name = "stderr" then { s with errors := s.errors ++ t.codes.toArray }
    else s

/-- Writes a text to the output. -/
def writeOutput (t : String) : Eval Unit := writeStream "stdout" t

/-- Writes a text to the error output. -/
def writeError (t : String) : Eval Unit := writeStream "stderr" t

/-- Writes a value that has to be a text; gives its length. -/
def writeTo (stream v : Value) : Calling Value := do
  match stream, (← get).bare v with
  | .stream name, .text t =>
    writeStream name t
    return .int t.length
  | _, _ => fail (.notWritable ((← get).typeName v))

/-- Takes a line with its end from the input; nothing at the end of the input. -/
def takeLine : Eval Points :=
  modifyGet fun s =>
    let line := s.input.takeWhile (· != '\n')
    let rest := s.input.dropWhile (· != '\n')
    (.ofChars (line ++ rest.take 1), { s with input := rest.drop 1 })

/-- Takes a line from a stream. -/
def readFrom (stream : Value) : Eval Value :=
  match stream with
  | .stream "stdin" => .text <$> takeLine
  | _ => pure ""

/-! ## Ending a program -/

/-- Raises the exception that ends a program. A tuple holds the arguments of the exception. -/
def exitWith (status : Option Value) : Calling Value := do
  let s ← get
  match status with
  | none | some .null => make []
  | some v =>
    if s.isOneOf v ["SystemExit"] then raise v
    else match s.bare v with
      | .tuple vs => make vs
      | _ => make [v]
where
  /-- Raises the exception with some arguments. -/
  make (args : List Value) : Calling Value := do
    raise (← construct (.exception "SystemExit") args)

/-! ## Functions of the program -/

/-- Calls a ready-made function of the program with the values of its parameters and the further
arguments. -/
def runReady (f : Native) (params more : List Value) : Calling Value :=
  match f, params with
  | .text, [v] => scriptText v
  | .toText, [v] => useName "_cs_str" [v]
  | .add, [l, r] => scriptSum l r
  | .divide, [l, r] => scriptQuotient l r
  | .remainder, [l, r] => scriptRemainder l r
  | .isInteger, [v] => isIntegerByNames v
  | .format, [t, args] => scriptFormat t args
  | .replacement, [args, digits] => replacementByNames args digits
  | .substitute, [pattern, replace, subject] => substitute pattern replace subject
  | .writerInit, [self, name] => returnNull (setAttribute self "_stream_name" name)
  | .writerStream, [self] => namedStream self
  | .writerWrite, [self, v] => returnNull (writeValue self v more)
  | .writerWriteLine, [self, v] => returnNull (writeLine self v more)
  | .writerFlush, [self] => returnNull do
    let _ ← callAttr (← streamOf self) "flush" []
  | .consoleWrite, [v] => returnNull (useConsole "Write" (v :: more))
  | .consoleWriteLine, [v] => returnNull (useConsole "WriteLine" (v :: more))
  | .consoleReadLine, [] => consoleLine
  | .toInt32, [v] => convertInteger v
  | .toDouble, [v] => convertDouble v
  | .toBoolean, [v] => convertBoolean v
  | .abs, [v] => useName "abs" [v]
  | .max, [l, r] => useName "max" [l, r]
  | .min, [l, r] => useName "min" [l, r]
  | .sqrt, [v] => useMember "_math" "sqrt" [v]
  | .pow, [b, e] => useMember "_math" "pow" [b, e]
  | .floor, [v] => wholeDouble "floor" v
  | .ceiling, [v] => wholeDouble "ceil" v
  | .round, [v, digits] => useName "round" [v, digits]
  | .join, [separator, values] => scriptJoin separator values
  | .formatText, [t] => useName "_cs_format" [t, .tuple more]
  | .isNullOrEmpty, [.null] => pure (.bool true)
  | .isNullOrEmpty, [v] => compareValues .eq v ""
  | .concat, [] => scriptConcat more
  | .baseName, [v] => baseName v
  | .initOf c, [self] => returnNull (initBuiltin self more c)
  | f, _ => fail (.notAvailable f.signature.name)
where
  /-- Null, after a computation. -/
  returnNull (a : Calling Unit) : Calling Value := do
    a
    return .null

/-! ## Built-in functions -/

/-- Calls a built-in function. -/
def runBuiltin (f : Native) (args : List Value) : Calling Value := do
  match f, args with
  | .length, args => return .int (← length (← single "len()" args))
  | .isInstance, args =>
    let (v, type) ← pairOf "isinstance" args
    return .bool (← isInstanceOf v (← get).depth type)
  | .getAttribute, [v, name] => getAttribute v name none
  | .getAttribute, [v, name, d] => getAttribute v name (some d)
  | .getAttribute, args =>
    fail (.expected "getattr" (if args.length < 2 then .atLeast 2 else .atMost 3) args.length)
  | .absolute, args => absolute (← single "abs()" args)
  | .greatest, args => pickOf "max" .gt args
  | .least, args => pickOf "min" .lt args
  | .rounded, [] => fail (.missingArgument "round" "number" 1)
  | .rounded, [v] => roundTo v none
  | .rounded, [v, digits] => roundTo v (some digits)
  | .rounded, args => fail (.takes "round()" (.atMost 2) args.length)
  | .wholeFloor, args => wholeBy "__floor__" Double.floor (← single "math.floor()" args)
  | .wholeCeiling, args => wholeBy "__ceil__" Double.ceiling (← single "math.ceil()" args)
  | .squareRoot, args =>
    newFloat (← check (squareRoot (← real (← single "math.sqrt()" args))))
  | .powerOf, args =>
    let (b, e) ← pairOf "pow" args
    let x ← real b
    newFloat (← check (power x (← real e)))
  | .floatRemainder, args =>
    let (l, r) ← pairOf "fmod" args
    let x ← real l
    newFloat (← check (remainderFloat x (← real r)))
  | .exit, args => exitWith (← optional "exit" args)
  | f, self :: args => runMember f self args
  | f, [] => fail (.notAvailable f.signature.name)
where
  /-- Calls a function of a built-in value. -/
  runMember (f : Native) (self : Value) (args : List Value) : Calling Value := do
    match f with
    | .isWhole =>
      noMore "float.is_integer()" args
      match (← get).bare self with
      | .float x _ => return .bool (Double.toInt? x).isSome
      | _ => return .bool false
    | .strip =>
      let isStripped ← strippedCodes "strip" args
      return .text ⟨stripEndOf isStripped ((← selfText self).codes.dropWhile isStripped)⟩
    | .stripEnd =>
      let isStripped ← strippedCodes "rstrip" args
      return .text ⟨stripEndOf isStripped (← selfText self).codes⟩
    | .lower =>
      noMore "str.lower()" args
      return .text (lowerText (← selfText self))
    | .joinItems => joinItems (← selfText self) (← single "str.join()" args)
    | .writeText => writeTo self (← single "StringIO.write()" args)
    | .readLine => readFrom self
    | .flush =>
      noMore "StringIO.flush()" args
      return .null
    | f => fail (.notAvailable f.signature.name)

/-- Calls a native function with the values of its parameters and the further arguments. -/
def runNative (f : Native) (params more : List Value) : Calling Value :=
  match f.signature.params, f.signature.arity with
  | [], .open => if f = .concat then runReady f params more else runBuiltin f more
  | _, _ => runReady f params more

end BraceScript.Eval
