import BraceScript.Eval.Class
import BraceScript.Number.Decimal

/-!
# Arithmetic

Numbers are integers of any size and doubles; a truth value counts as 0 or 1. An operation on two
integers gives an integer and one that involves a double gives a double. Division of integers cuts
off the fraction, and a remainder has the sign of the dividend.
-/

namespace BraceScript.Eval

open Number (Double)

/-- A number. -/
inductive Num
  | int (n : Int)
  | float (x : Float)
  deriving Repr

/-- The value that a number is. -/
def Num.give : Num → Eval Value
  | .int n => pure (.int n)
  | .float x => newFloat x

namespace Value

/-- The integer that a value is or counts as. -/
def int? : Value → Option Int
  | .bool b => some (if b then 1 else 0)
  | .int n => some n
  | _ => none

/-- The number that a value is or counts as. -/
def num? : Value → Option Num
  | .float x _ => some (.float x)
  | v => v.int?.map .int

end Value

/-- The number that a value is, counts as or holds. -/
def Store.num? (s : Store) (v : Value) : Option Num := (s.bare v).num?

namespace Num

/-- A number as a double. -/
def toFloat : Num → Except Fault Float
  | .float x => .ok x
  | .int n =>
    let x := Double.ofInt n
    if Double.isFinite x then .ok x else .error .tooLargeForFloat

/-- An operation that is done on integers or on doubles. -/
def apply (f : Int → Int → Int) (g : Float → Float → Float) (a b : Num) : Except Fault Num :=
  match a, b with
  | .int m, .int n => .ok (.int (f m n))
  | a, b => do return .float (g (← a.toFloat) (← b.toFloat))

/-- The number with the opposite sign. -/
def neg : Num → Num
  | .int n => .int (-n)
  | .float x => .float (-x)

/-- The number without its sign. -/
def abs : Num → Num
  | .int n => .int n.natAbs
  | .float x => .float x.abs

/-- How two numbers compare; nothing compares with what is not a number. -/
def compare (a b : Num) : Option Ordering :=
  match a, b with
  | .int m, .int n => some (Ord.compare m n)
  | .float x, .float y =>
    if x < y then some .lt else if x > y then some .gt else if x == y then some .eq else none
  | .int n, .float y => withFloat n y
  | .float x, .int n => (withFloat n x).map Ordering.swap
where
  /-- How an integer compares with a double, exactly. -/
  withFloat (n : Int) (y : Float) : Option Ordering :=
    match Double.view y with
    | .nan => none
    | .infinite negative => some (if negative then .gt else .lt)
    | .finite negative m e => some (Double.compareInt n negative m e)

end Num

/-! ## Division -/

/-- The quotient of integers without its fraction. -/
def divideInt (a b : Int) : Except Fault Int :=
  if b = 0 then .error .divisionByZero else .ok (a.tdiv b)

/-- The quotient of numbers, rounded down. The quotient of doubles belongs to a remainder with the
sign of the divisor. -/
def floorDivide (a b : Num) : Except Fault Num :=
  match a, b with
  | .int m, .int n => if n = 0 then .error .divisionByZero else .ok (.int (m.fdiv n))
  | a, b => do
    let x ← a.toFloat
    let y ← b.toFloat
    if y == 0.0 then .error .wholeDivisionByZero else return .float (x / y).floor

/-- What is left of a division of integers. -/
def remainderInt (a b : Int) : Except Fault Int := do
  return a - b * (← divideInt a b)

/-- The quotient of two integers as a double, rounded once. -/
def quotient (a b : Int) : Except Fault Float :=
  if b = 0 then .error .trueDivisionByZero
  else
    let x := Double.ofRatio ((a < 0) != (b < 0)) a.natAbs b.natAbs
    if Double.isFinite x then .ok x else .error .quotientTooLarge

/-- The quotient of two numbers as a double. -/
def divideNum (a b : Num) : Except Fault Num :=
  match a, b with
  | .int m, .int n => do return .float (← quotient m n)
  | a, b => do
    let x ← a.toFloat
    let y ← b.toFloat
    if y == 0.0 then .error .floatDivisionByZero else return .float (x / y)

/-- The remainder of two doubles, exactly. -/
def remainderFloat (x y : Float) : Except Fault Float :=
  match Double.view x, Double.view y with
  | .nan, _ => .ok x
  | _, .nan => .ok y
  | .infinite _, _ => .error .mathDomain
  | .finite .., .infinite _ => .ok x
  | .finite neg m e, .finite _ m' e' =>
    if m' = 0 then .error .mathDomain else .ok (Double.remainder neg m e m' e')

/-! ## Rounding -/

/-- The integer that a double becomes by a way of rounding. -/
def toInt (round : Bool → Nat → Int → Int) (x : Float) : Except Fault Int :=
  match Double.view x with
  | .nan => .error .nanToInt
  | .infinite _ => .error .infiniteToInt
  | .finite neg m e => .ok (round neg m e)

/-- Cuts off the fraction. -/
def truncated (negative : Bool) (m : Nat) (e : Int) : Int :=
  Double.signed negative (Double.truncate m e)

/-- Goes to the nearest integer, and from halfway to the even one. -/
def nearestEven (negative : Bool) (m : Nat) (e : Int) : Int :=
  Double.signed negative (Double.roundEven m e)

/-- An integer rounded to a number of decimal places, where a negative number counts places in
front of the point; from halfway to the even neighbour. Far more places than the integer has leave
nothing. -/
def roundIntTo (n : Int) (digits : Int) : Int :=
  if 0 ≤ digits then n
  else if n.natAbs.log2 + 2 < (-digits).toNat then 0
  else
    let unit := Nat.pow 10 (-digits).toNat
    Double.signed (n < 0) (Double.roundQuotient n.natAbs unit * unit)

/-- A double rounded to a number of decimal places. Beyond 323 places nothing is cut off, and at
more than 308 places in front of the point nothing is left. -/
def roundFloatTo (x : Float) (digits : Int) : Except Fault Float :=
  match Double.view x with
  | .finite neg m e =>
    if 323 < digits then .ok x
    else if digits < -308 then .ok (Double.ofRatio neg 0 1)
    else
      let (num, den) := if e < 0 then (m, Nat.pow 2 (-e).toNat) else (m * Nat.pow 2 e.toNat, 1)
      let r := if digits < 0 then
          let unit := Nat.pow 10 (-digits).toNat
          Double.ofRatio neg (Double.roundQuotient num (den * unit) * unit) 1
        else
          let unit := Nat.pow 10 digits.toNat
          Double.ofRatio neg (Double.roundQuotient (num * unit) den) unit
      if Double.isFinite r then .ok r else .error .roundedTooLarge
  | _ => .ok x

/-! ## Functions of doubles -/

/-- The square root of a double. -/
def squareRoot (x : Float) : Except Fault Float :=
  if x < 0.0 then .error .mathDomain else .ok x.sqrt

/-- A power of a double. A result that is no number, and a pole at zero, are out of the domain; an
infinite result of finite operands is out of range. -/
def power (x y : Float) : Except Fault Float :=
  let r := Float.pow x y
  if Double.isFinite x && Double.isFinite y && !Double.isFinite r then
    if r.isNaN || x == 0.0 then .error .mathDomain else .error .mathRange
  else .ok r

end BraceScript.Eval
