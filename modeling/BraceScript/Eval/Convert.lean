import BraceScript.Eval.Operator
import BraceScript.Text.Lowercase

/-!
# Conversions and numeric functions

How values become integers and doubles, and the numeric functions of modules. Texts are read
without the blanks around them. A loaded class can say which number its objects stand for.
-/

namespace BraceScript.Eval

open Number (Double)
open Text (Points)

/-! ## Reading texts -/

/-- A blank around a number. -/
def isNumberBlank (c : Char) : Bool := Text.isBlank c && !('\x1c' ≤ c && c ≤ '\x1f')

/-- Characters without the blanks around a number. -/
def trimNumber (cs : List Char) : List Char :=
  ((cs.dropWhile isNumberBlank).reverse.dropWhile isNumberBlank).reverse

/-- The base that the mark in front of an integer says, and what follows the mark. -/
def baseMark? : List Char → Option (Nat × List Char)
  | '0' :: c :: cs =>
    let l := c.toLower
    if l = 'x' then some (16, cs) else if l = 'o' then some (8, cs)
    else if l = 'b' then some (2, cs) else none
  | _ => none

/-- The base that an integer is written in, and its characters behind the mark of the base. Base
zero stands for the one that the mark says, and ten without a mark. -/
def splitBase (base : Nat) (cs : List Char) : Nat × List Char :=
  match baseMark? cs with
  | some (b, rest) =>
    if base = 0 || base = b then (b, if rest.head? == some '_' then rest.drop 1 else rest)
    else (base, cs)
  | none => (if base = 0 then 10 else base, cs)

/-- Whether a base is a power of two, for which there is no limit on digits. -/
def isBinaryBase (base : Nat) : Bool := [2, 4, 8, 16, 32].contains base

/-- Reads an integer in a base; what cannot be read is told as it stands. -/
def readInt (base : Nat) (t : Points) : Except Fault Int :=
  let (negative, signless) := Number.takeSign (trimNumber t.chars)
  let (b, cs) := splitBase base signless
  let (ds, after) := Number.digitRunIn b cs
  let bad : Except Fault Int := .error (.intLiteral base t)
  if ds.isEmpty || after.head? == some '_' then bad
  else if base = 0 && b = 10 && ds.head? == some 0 && ds.any (· != 0) then bad
  else if !isBinaryBase b && Number.digitLimit < ds.length then .error (.tooManyDigitsRead ds.length)
  else if after.isEmpty then
    .ok (Double.signed negative (ds.foldl (fun n d => b * n + d) 0))
  else bad

/-- Reads a double; what cannot be read is told as it stands. -/
def readFloat (t : Points) : Except Fault Float :=
  let cs := trimNumber t.chars
  match if Text.trim cs = cs then Number.readDouble? (String.ofList cs) else none with
  | some x => .ok x
  | none => .error (.floatLiteral t)

/-! ## Numbers -/

/-- The integer that a member for it gives. -/
def integerFrom (name : String) (f : Value) : Calling Int := do
  let r ← call f []
  match ((← get).bare r).int? with
  | some n => return n
  | none => fail (.returned name "non-int" ((← get).typeName r))

/-- The double that a member for it gives. -/
def doubleFrom (v f : Value) : Calling Float := do
  let r ← call f []
  match (← get).bare r with
  | .float x _ => return x
  | _ => fail (.returnedNonFloat ((← get).typeName v) ((← get).typeName r))

/-- The number that a value stands for, if it stands for one; members for doubles come first. -/
def asNumber? (v : Value) : Calling (Option Num) := do
  let s ← get
  match s.bare v, s.meaning? v "__float__" with
  | .float x _, _ => return some (.float x)
  | _, some f => return some (.float (← doubleFrom v f))
  | w, none =>
    match w.num? with
    | some n => return some n
    | none => return (← asIndex? v).map .int

/-- A value that has to be a number, as a double. -/
def real (v : Value) : Calling Float := do
  match ← asNumber? v with
  | some n => check n.toFloat
  | none => fail (.notReal ((← get).typeName v))

/-- The integer that a value becomes by the members for it, after built-in numbers. -/
def integerByMembers (v : Value) : Calling Int := do
  let s ← get
  match s.meaning? v "__index__", s.meaning? v "__trunc__", s.bare v with
  | some f, _, _ => integerFrom "__index__" f
  | none, some f, _ =>
    let r ← call f []
    match ← asIndex? r with
    | some n => return n
    | none => fail (.returned "__trunc__" "non-Integral" ((← get).typeName r))
  | none, none, .text t => check (readInt 10 t)
  | none, none, _ => fail (.intArgument (s.typeName v))

/-- The integer that a value becomes when its fraction is cut off. -/
def toInteger (v : Value) : Calling Int := do
  let s ← get
  match s.meaning? v "__int__" with
  | some f => integerFrom "__int__" f
  | none =>
    match s.num? v with
    | some (.int n) => return n
    | some (.float x) => check (Eval.toInt truncated x)
    | none => integerByMembers v

/-- The integer that a text stands for in a base. -/
def toIntegerIn (v base : Value) : Calling Int := do
  let b ← asInteger base
  if b != 0 && (b < 2 || 36 < b) then fail .intBase
  match (← get).bare v with
  | .text t => check (readInt b.toNat t)
  | _ => fail .textForBase

/-- The double that a value becomes; a double becomes itself. -/
def toDouble (v : Value) : Calling Value := do
  let s ← get
  match v with
  | .float .. => return v
  | v =>
    match s.bare v, s.meaning? v "__float__" with
    | _, some f => newFloat (← doubleFrom v f)
    | .text t, none => newFloat (← check (readFloat t))
    | _, none =>
      match ← asNumber? v with
      | some n => newFloat (← check n.toFloat)
      | none => fail (.floatArgument (s.typeName v))

/-- A number without its sign. -/
def absolute (v : Value) : Calling Value := do
  let s ← get
  match s.meaning? v "__abs__" with
  | some f => call f []
  | none =>
    match s.num? v with
    | some n => n.abs.give
    | none => fail (.operand "abs()" (s.typeName v))

/-- The integer next to a number by a way of rounding; a loaded class has a member for it. -/
def wholeBy (name : String) (round : Bool → Nat → Int → Int) (v : Value) : Calling Value := do
  let s ← get
  match s.meaning? v name with
  | some f => call f []
  | none =>
    match s.num? v with
    | some (.int n) => return .int n
    | some (.float x) => return .int (← check (Eval.toInt round x))
    | none =>
      match s.meaning? v "__float__", s.meaning? v "__index__" with
      | none, none => fail (.notReal (s.typeName v))
      | _, _ => return .int (← check (Eval.toInt round (← real v)))

/-- A number rounded to a number of places, or to an integer without one. -/
def roundTo (v : Value) (digits : Option Value) : Calling Value := do
  let s ← get
  match s.meaning? v "__round__" with
  | some f =>
    match digits with
    | none | some .null => call f []
    | some d => call f [d]
  | none =>
    match s.num? v, digits.getD .null with
    | none, _ => fail (.noRounding (s.typeName v))
    | some (.int n), .null => return .int n
    | some (.float x), .null => return .int (← check (Eval.toInt nearestEven x))
    | some (.int n), d => return .int (roundIntTo n (← asInteger d))
    | some (.float x), d => newFloat (← check (roundFloatTo x (← asInteger d)))

/-- The one of several values that a comparison picks. -/
def pick (op : Code.BinaryOp) (best : Value) : List Value → Calling Value
  | [] => pure best
  | v :: vs => do if ← relate op v best then pick op v vs else pick op best vs

/-- The greatest or least of the arguments, or of the items of the only argument. -/
def pickOf (name : String) (op : Code.BinaryOp) (args : List Value) : Calling Value := do
  match args with
  | [] => fail (.expected name (.atLeast 1) 0)
  | [v] =>
    match ← allItems v with
    | [] => fail (.noItems name)
    | w :: ws => pick op w ws
  | v :: vs => pick op v vs

/-! ## Texts -/

/-- Texts with a separator between them. The items that are joined have to be texts. -/
def joinTexts (separator : Points) (vs : List Value) : Calling Value := do
  let s ← get
  let check (i : Nat) (v : Value) : Calling Points := do
    match s.bare v with
    | .text t => return t
    | _ => fail (.joinItem i (s.typeName v))
  return .text (Points.intercalate separator (← (vs.zipIdx).mapM fun (v, i) => check i v))

/-- The last part of a path. -/
def baseName (v : Value) : Calling Value := do
  match (← get).bare v with
  | .text t => return .text (lastPart t)
  | _ => fail (.notPath ((← get).typeName v))

end BraceScript.Eval
