import BraceScript.Eval.Scope
import BraceScript.Eval.Template

/-!
# Ready-made functions

The helpers that generated code calls, and the members of the ready-made classes. They are
functions of the program like any other: what they do depends on names of the program, and a class
or library of the same name changes their meaning. As long as there is none (`Store.isPlain`) the
helpers need not look names up; `scriptText`, `scriptSum`, `scriptQuotient`, `scriptRemainder` and
`fill` say what they do then with values that are no objects.
-/

namespace BraceScript.Eval

open Text (Points)

/-! ## Names of the program -/

/-- Calls what a name of the program stands for. -/
def useName (name : String) (args : List Value) : Calling Value := do
  call (← globalValue name) args

/-- Calls what a name stands for with what a second one makes of a value. -/
def useNames (name inner : String) (v : Value) : Calling Value := do
  let f ← globalValue name
  call f [← useName inner [v]]

/-- Calls an attribute of what a name stands for. -/
def useMember (name member : String) (args : List Value) : Calling Value := do
  callAttr (← globalValue name) member args

/-- Whether a value is of the type that a name stands for. -/
def isOf (v : Value) (type : String) : Calling Bool := do
  let f ← globalValue "isinstance"
  truth (← call f [v, ← globalValue type])

/-- Whether a value is an object. -/
def isObject : Value → Bool
  | .object _ => true
  | _ => false

/-- Whether a helper can do without names for some values. -/
def Store.isDirect (s : Store) (vs : List Value) : Bool := s.isPlain && !vs.any isObject

/-! ## Text of values -/

/-- The text of a value in scripts, by the names of the program. -/
def textByNames (v : Value) : Calling Value := do
  match v with
  | .null => return ""
  | v =>
    if ← isOf v "bool" then return if ← truth v then "True" else "False"
    let isWhole ← if ← isOf v "float" then truth (← callAttr v "is_integer" []) else pure false
    if isWhole then useNames "str" "int" v else useName "str" [v]

/-- The text of a value in scripts. -/
def scriptText (v : Value) : Calling Value := do
  if (← get).isDirect [v] then return .text (← plainScriptText v) else textByNames v

/-! ## Operators -/

/-- Whether a value is an integer and no truth value, by the names of the program. -/
def isIntegerByNames (v : Value) : Calling Value := do
  let f ← globalValue "isinstance"
  let r ← call f [v, ← globalValue "int"]
  if ← truth r then return .bool (!(← isOf v "bool")) else return r

/-- Whether a value is an integer. -/
def isInteger : Value → Bool
  | .int _ => true
  | _ => false

/-- Whether a value is a text. -/
def isText : Value → Bool
  | .text _ => true
  | _ => false

/-- Whether two values are integers, by the names of the program. -/
def areIntegersByNames (l r : Value) : Calling Bool := do
  if ← truth (← useName "_is_integer" [l]) then truth (← useName "_is_integer" [r])
  else return false

/-- The sum of two values in scripts: a sum with a text on either side joins texts. -/
def scriptSum (l r : Value) : Calling Value := do
  if (← get).isDirect [l, r] then
    if isText l || isText r then return .text ((← plainScriptText l) ++ (← plainScriptText r))
    else plus "+" l r
  else if (← isOf l "str") || (← isOf r "str") then
    let a ← useName "_cs_str" [l]
    plus "+" a (← useName "_cs_str" [r])
  else plus "+" l r

/-- The quotient of two integers without its fraction, by the names of the program. -/
def quotientByNames (l r : Value) : Calling Value := do
  let a ← useName "abs" [l]
  let q ← quotientBy .floorRatio a (← useName "abs" [r])
  let left ← compareValues .ge l (.int 0)
  if ← relate .eq left (← compareValues .ge r (.int 0)) then return q else negative q

/-- The quotient of two values in scripts. -/
def scriptQuotient (l r : Value) : Calling Value := do
  if (← get).isDirect [l, r] then
    match l, r with
    | .int a, .int b => return .int (← check (divideInt a b))
    | l, r => quotientBy .ratio l r
  else if ← areIntegersByNames l r then quotientByNames l r
  else quotientBy .ratio l r

/-- The remainder of two values in scripts. -/
def scriptRemainder (l r : Value) : Calling Value := do
  if (← get).isDirect [l, r] then
    match l, r with
    | .int a, .int b => return .int (← check (remainderInt a b))
    | l, r =>
      let x ← real l
      newFloat (← check (remainderFloat x (← real r)))
  else if ← areIntegersByNames l r then
    minus "-" l (← product "*" r (← useName "_cs_div" [l, r]))
  else useMember "_math" "fmod" [l, r]

/-! ## Templates -/

/-- The text of a value in scripts, which has to be a text. -/
def textOfArgument (v : Value) : Calling Points := do
  let t ← scriptText v
  match (← get).bare t with
  | .text t => return t
  | _ => fail (.joinItem 0 ((← get).typeName t))

/-- The text of a piece of a template. -/
def pieceText (args : Value) : Piece → Calling Points
  | .code c => pure ⟨[c]⟩
  | .argument ds => do textOfArgument (← index args (.int (← check (readNumber ds))))

/-- A template with its placeholders replaced by the texts of arguments. -/
def fill (template : Points) (args : Value) : Calling Points := do
  return Points.join (← (pieces template.codes).mapM (pieceText args))

/-- The pattern of placeholders. -/
def placeholderPattern : String := "\\\x7b(\\d+)\\\x7d"

/-- What stands for a placeholder with some digits, by the names of the program. -/
def replacementByNames (args digits : Value) : Calling Value := do
  let f ← globalValue "_cs_str"
  call f [← index args (← useName "int" [digits])]

/-- A text with what a function makes of the digits of its placeholders. -/
def substitute (pattern replace subject : Value) : Calling Value := do
  match (← get).bare subject with
  | .text t =>
    if pattern.same placeholderPattern then
      let parts ← substituted (fun ds => call replace [.text ⟨ds⟩]) [] (pieces t.codes)
      joinTexts Points.empty parts
    else fail (.notAvailable "sub")
  | _ => fail (.notSearchable ((← get).typeName subject))

/-- A template with its placeholders replaced. -/
def scriptFormat (template args : Value) : Calling Value := do
  if (← get).isDirect [template] then
    return .text (← fill (← plainScriptText template) args)
  else
    let f ← attrOf (← globalValue "_re") "sub"
    let t ← useName "_cs_str" [template]
    call f [placeholderPattern, .method args (.native .replacement), t]

/-! ## Joining -/

/-- The items of a value between which a separator is put, as texts. -/
def scriptJoin (separator values : Value) : Calling Value := do
  let f ← attrOf (← useName "_cs_str" [separator]) "join"
  let c ← Cursor.start values
  let texts ← textsOf itemBound [] c
  call f [← newList texts.toArray]
where
  /-- The texts of the items behind a cursor, behind others in reverse. -/
  textsOf : Nat → List Value → Cursor → Calling (List Value)
    | 0, _, _ => throw .outOfFuel
    | n + 1, before, c => do
      match ← c.advance with
      | none => return before.reverse
      | some (v, c) => textsOf n ((← useName "_cs_str" [v]) :: before) c

/-- The texts of values one behind the other. -/
def scriptConcat (vs : List Value) : Calling Value := do
  joinTexts Points.empty (← vs.mapM fun v => useName "_cs_str" [v])

/-! ## The console -/

/-- What a writer writes to. -/
def streamOf (writer : Value) : Calling Value := do callAttr writer "_stream" []

/-- The stream that a writer keeps the name of. -/
def namedStream (writer : Value) : Calling Value := do
  let f ← globalValue "getattr"
  let sys ← globalValue "sys"
  call f [sys, ← attrOf writer "_stream_name"]

/-- Writes a value, or a template with arguments for its placeholders. -/
def writeValue (writer v : Value) (args : List Value) : Calling Unit := do
  let t ← if args.isEmpty then useName "_cs_str" [v] else useName "_cs_format" [v, .tuple args]
  let _ ← callAttr (← streamOf writer) "write" [t]

/-- Writes what a writer writes and the end of the line. -/
def writeLine (writer v : Value) (args : List Value) : Calling Unit := do
  let _ ← callAttr writer "Write" (v :: args)
  let _ ← callAttr (← streamOf writer) "write" ["\n"]

/-- Lets the writer behind the console write. -/
def useConsole (member : String) (args : List Value) : Calling Unit := do
  let _ ← callAttr (← attrOf (← globalValue "Console") "Out") member args

/-- Takes a line from the input, without its end; null at the end of the input. -/
def consoleLine : Calling Value := do
  let line ← callAttr (← attrOf (← globalValue "sys") "stdin") "readline" []
  if ← relate .eq line "" then return .null else callAttr line "rstrip" ["\n"]

/-! ## Conversions -/

/-- The integer that a value is converted to; a double goes to the nearest one. -/
def convertInteger (v : Value) : Calling Value := do
  if ← isOf v "str" then
    let f ← globalValue "int"
    call f [← callAttr v "strip" []]
  else if ← isOf v "float" then useNames "int" "round" v
  else useName "int" [v]

/-- The double that a value is converted to. -/
def convertDouble (v : Value) : Calling Value := do
  if ← isOf v "str" then
    let f ← globalValue "float"
    call f [← callAttr v "strip" []]
  else useName "float" [v]

/-- Raises an exception: a value, or a new one of a class. -/
def raiseValue {α : Type} (v : Value) : Calling α := do
  match v with
  | .cls c =>
    if (← get).isException c then
      let e ← call v []
      if (← get).isRaisable e then raise e else fail .notRaisable
    else fail .notRaisable
  | v => if (← get).isRaisable v then raise v else fail .notRaisable

/-- The truth value that a value is converted to. Texts are read in any case. -/
def convertBoolean (v : Value) : Calling Value := do
  if ← isOf v "str" then
    let word ← callAttr (← callAttr v "strip" []) "lower" []
    if ← relate .eq word "true" then return .bool true
    else if ← relate .eq word "false" then return .bool false
    else
      let f ← globalValue "ValueError"
      raiseValue (← call f [.text (Fault.notBoolean (← text v)).message])
  else useName "bool" [v]

/-- The double with the integer that a number becomes by a function of a module. -/
def wholeDouble (member : String) (v : Value) : Calling Value := do
  let f ← globalValue "float"
  call f [← useMember "_math" member [v]]

end BraceScript.Eval
