/-!
# Doubles as exact numbers

A finite double is `m · 2 ^ e` with integers `m` and `e`. `Double.view` takes a double apart that
way and `Double.ofRatio` gives the double nearest to a quotient of integers, a tie going to the
even mantissa. Comparisons with integers, remainders and decimal text are built on these two.
-/

namespace BraceScript.Number

/-- What a double is. -/
inductive Double
  | nan
  | infinite (negative : Bool)
  /-- The number `mantissa · 2 ^ exponent`, with a sign also for zero. -/
  | finite (negative : Bool) (mantissa : Nat) (exponent : Int)
  deriving DecidableEq, Repr

namespace Double

/-- The parts of a double. -/
def view (x : Float) : Double :=
  let bits : Nat := x.toBits.toNat
  let negative : Bool := bits / Nat.pow 2 63 == 1
  let field : Nat := bits / Nat.pow 2 52 % 2048
  let fraction : Nat := bits % Nat.pow 2 52
  if field = 2047 then if fraction = 0 then .infinite negative else .nan
  else if field = 0 then .finite negative fraction (-1074)
  else .finite negative (fraction + Nat.pow 2 52) ((field : Int) - 1075)

/-- A quotient rounded to the nearest integer, a tie going to the even one. -/
def roundQuotient (num den : Nat) : Nat :=
  let q := num / den
  let twice := 2 * (num % den)
  if twice < den then q else if den < twice then q + 1 else if q % 2 = 0 then q else q + 1

/-- `num / den · 2 ^ (- e)` as a quotient. -/
def scaled (num den : Nat) (e : Int) : Nat × Nat :=
  if e < 0 then (num * Nat.pow 2 (-e).toNat, den) else (num, den * Nat.pow 2 e.toNat)

/-- The exponent `e` with `2 ^ 52 ≤ num / den · 2 ^ (- e) < 2 ^ 53`, for positive numbers. -/
def exponentFor (num den : Nat) : Int :=
  let guess : Int := (num.log2 : Int) - den.log2 - 52
  let (n, d) := scaled num den guess
  if n < Nat.pow 2 52 * d then guess - 1 else guess

/-- The bits of a double from its sign, mantissa and exponent, for a mantissa of at most
`2 ^ 53` and an exponent of at least `-1074`. -/
def ofParts (negative : Bool) (mantissa : Nat) (exponent : Int) : Float :=
  let magnitude :=
    if mantissa < Nat.pow 2 52 then mantissa
    else (exponent + 1075).toNat * Nat.pow 2 52 + (mantissa - Nat.pow 2 52)
  let magnitude := if 2047 * Nat.pow 2 52 ≤ magnitude then 2047 * Nat.pow 2 52 else magnitude
  Float.ofBits (UInt64.ofNat (magnitude + if negative then Nat.pow 2 63 else 0))

/-- The double nearest to `± num / den`, infinite when that is out of range. -/
def ofRatio (negative : Bool) (num den : Nat) : Float :=
  if num = 0 then ofParts negative 0 (-1074)
  else
    let e := max (exponentFor num den) (-1074)
    let (n, d) := scaled num den e
    ofParts negative (roundQuotient n d) e

/-- The double nearest to an integer. -/
def ofInt (n : Int) : Float := ofRatio (n < 0) n.natAbs 1

/-- Whether a double is neither infinite nor without value. -/
def isFinite (x : Float) : Bool :=
  match view x with
  | .finite .. => true
  | _ => false

/-- The integer next to a finite double in the direction of zero. -/
def truncate (mantissa : Nat) (exponent : Int) : Nat :=
  if exponent < 0 then mantissa / Nat.pow 2 (-exponent).toNat
  else mantissa * Nat.pow 2 exponent.toNat

/-- Whether `mantissa · 2 ^ exponent` is an integer. -/
def isWhole (mantissa : Nat) (exponent : Int) : Bool :=
  if exponent < 0 then mantissa % Nat.pow 2 (-exponent).toNat == 0 else true

/-- The integer that a sign and a magnitude stand for. -/
def signed (negative : Bool) (n : Nat) : Int := if negative then -(n : Int) else n

/-- The integer that a double equals, if any. -/
def toInt? (x : Float) : Option Int :=
  match view x with
  | .finite neg m e => if isWhole m e then some (signed neg (truncate m e)) else none
  | _ => none

/-- A magnitude rounded to the nearest integer, a tie going to the even one. -/
def roundEven (mantissa : Nat) (exponent : Int) : Nat :=
  if exponent < 0 then roundQuotient mantissa (Nat.pow 2 (-exponent).toNat)
  else mantissa * Nat.pow 2 exponent.toNat

/-- The greatest integer that is not above a finite double. -/
def floor (negative : Bool) (mantissa : Nat) (exponent : Int) : Int :=
  let n := signed negative (truncate mantissa exponent)
  if negative && !isWhole mantissa exponent then n - 1 else n

/-- The least integer that is not below a finite double. -/
def ceiling (negative : Bool) (mantissa : Nat) (exponent : Int) : Int :=
  let n := signed negative (truncate mantissa exponent)
  if !negative && !isWhole mantissa exponent then n + 1 else n

/-- How an integer compares with a finite double. -/
def compareInt (n : Int) (negative : Bool) (mantissa : Nat) (exponent : Int) : Ordering :=
  let m := signed negative mantissa
  if exponent < 0 then compare (n * Nat.pow 2 (-exponent).toNat) m
  else compare n (m * Nat.pow 2 exponent.toNat)

/-- The remainder of two finite magnitudes, exactly; it takes the sign of the dividend. -/
def remainder (negative : Bool) (m : Nat) (e : Int) (m' : Nat) (e' : Int) : Float :=
  let low := min e e'
  let r := (m * Nat.pow 2 (e - low).toNat) % (m' * Nat.pow 2 (e' - low).toNat)
  if low < 0 then ofRatio negative r (Nat.pow 2 (-low).toNat)
  else ofRatio negative (r * Nat.pow 2 low.toNat) 1

end Double

end BraceScript.Number
