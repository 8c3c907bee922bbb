import BraceScript.Number.Double
import BraceScript.Text.Blank
import BraceScript.Text.Digit

/-!
# Decimal text of numbers

A double is written with the fewest digits that read back as the same double, the nearest of
those to its exact value. From `10 ^ 16` on and below `10 ^ -4` the exponent form is used. Numbers
are read with any decimal digits, with single underscores between digits, and with blanks around.
-/

namespace BraceScript.Number

/-- A decimal numeral: the number `digits · 10 ^ exponent`. -/
structure Numeral where
  digits : Nat
  exponent : Int
  deriving DecidableEq, Repr

namespace Numeral

/-- A numeral as a quotient. -/
def ratio (d : Numeral) : Nat × Nat :=
  if d.exponent < 0 then (d.digits, Nat.pow 10 (-d.exponent).toNat)
  else (d.digits * Nat.pow 10 d.exponent.toNat, 1)

/-- The double nearest to a numeral. Numerals far out of range are cut short, since their powers
of ten would be needlessly long. -/
def toDouble (negative : Bool) (d : Numeral) : Float :=
  let size : Int := (toString d.digits).length + d.exponent
  if d.digits = 0 || size < -400 then Double.ofRatio negative 0 1
  else if 400 < size then Double.ofRatio negative (Nat.pow 10 400) 1
  else Double.ofRatio negative d.ratio.1 d.ratio.2

end Numeral

/-- The number of digits before the point of `num / den`, zero or less when it is below one. -/
def digitsBeforePoint (num den : Nat) : Int :=
  if den ≤ num then (toString (num / den)).length
  else -((toString ((den - 1) / num)).length : Int) + 1

/-- The numerals on the grid of `count` digits next to `num / den` that round to `x`, the nearer
first. -/
def gridHits (x : Float) (num den count : Nat) : List Numeral :=
  let place : Int := digitsBeforePoint num den - count
  let (n, d) :=
    if place < 0 then (num * Nat.pow 10 (-place).toNat, den) else (num, den * Nat.pow 10 place.toNat)
  let low := n / d
  let order := if 2 * (n % d) < d || (2 * (n % d) == d && low % 2 == 0) then [low, low + 1]
    else [low + 1, low]
  (order.map fun q => (⟨q, place⟩ : Numeral)).filter fun c =>
    (c.toDouble false).toBits == x.toBits

/-- The shortest numeral that reads back as `x`, for `x = num / den` positive. Seventeen digits
always do. -/
def shortest (x : Float) (num den : Nat) : Numeral :=
  ((List.range 17).findSome? fun i => (gridHits x num den (i + 1)).head?).getD ⟨0, 0⟩

/-- A numeral without the zeros at the end of its digits; the last argument bounds the steps. -/
def Numeral.trimZeros (d : Numeral) : Nat → Numeral
  | 0 => d
  | n + 1 =>
    if d.digits ≠ 0 ∧ d.digits % 10 = 0 then
      Numeral.trimZeros ⟨d.digits / 10, d.exponent + 1⟩ n
    else d

/-- An exponent with its sign and at least two digits. -/
def exponentText (e : Int) : String :=
  let ds := toString e.natAbs
  (if e < 0 then "-" else "+") ++ (if ds.length < 2 then "0" ++ ds else ds)

/-- The text of a positive numeral: positional for exponents from -4 to 15, and always with a
point or an exponent. -/
def Numeral.text (d : Numeral) : String :=
  let ds := (toString d.digits).toList
  let point : Int := ds.length + d.exponent
  if -4 < point && point ≤ 16 then
    if point ≤ 0 then "0." ++ String.ofList (List.replicate (-point).toNat '0' ++ ds)
    else if point < ds.length then
      String.ofList (ds.take point.toNat) ++ "." ++ String.ofList (ds.drop point.toNat)
    else String.ofList (ds ++ List.replicate (point - ds.length).toNat '0') ++ ".0"
  else
    let mantissa := match ds with
      | [] => "0"
      | [c] => String.ofList [c]
      | c :: cs => String.ofList (c :: '.' :: cs)
    mantissa ++ "e" ++ exponentText (point - 1)

/-- The text of a double. -/
def doubleText (x : Float) : String :=
  match Double.view x with
  | .nan => "nan"
  | .infinite neg => if neg then "-inf" else "inf"
  | .finite neg m e =>
    let sign := if neg then "-" else ""
    if m = 0 then sign ++ "0.0"
    else
      let (num, den) := if e < 0 then (m, Nat.pow 2 (-e).toNat) else (m * Nat.pow 2 e.toNat, 1)
      sign ++ ((shortest (Double.ofRatio false num den) num den).trimZeros 20).text

/-! ## Reading -/

/-- A run of digits with single underscores between them: the digits, and what follows. -/
def digitRun : List Char → List Char × List Char
  | [] => ([], [])
  | c :: cs =>
    if Text.isDigit c then
      match cs with
      | '_' :: d :: ds =>
        if Text.isDigit d then
          let r := digitRun (d :: ds)
          (c :: r.1, r.2)
        else ([c], cs)
      | cs =>
        let r := digitRun cs
        (c :: r.1, r.2)
    else ([], c :: cs)
termination_by cs => cs.length

/-- A sign in front, and what follows. -/
def takeSign : List Char → Bool × List Char
  | '-' :: cs => (true, cs)
  | '+' :: cs => (false, cs)
  | cs => (false, cs)

/-- Reads an integer: blanks, a sign, digits, blanks. Gives the sign and the digits. -/
def readDigits? (cs : List Char) : Option (Bool × List Char) :=
  let (negative, rest) := takeSign (Text.trim cs)
  match digitRun rest with
  | (d :: ds, []) => some (negative, d :: ds)
  | _ => none

/-- The value of a digit in any base up to 36. -/
def digitIn? (c : Char) : Option Nat :=
  match Text.digitValue? c with
  | some d => some d
  | none =>
    let l := c.toLower
    if 'a' ≤ l && l ≤ 'z' then some (l.toNat - 'a'.toNat + 10) else none

/-- A run of digits of a base with single underscores between them: the values of the digits, and
what follows. -/
def digitRunIn (base : Nat) : List Char → List Nat × List Char
  | [] => ([], [])
  | c :: cs =>
    match (digitIn? c).filter (· < base) with
    | none => ([], c :: cs)
    | some d =>
      match cs with
      | '_' :: e :: es =>
        if (digitIn? e).any (· < base) then
          let r := digitRunIn base (e :: es)
          (d :: r.1, r.2)
        else ([d], cs)
      | cs =>
        let r := digitRunIn base cs
        (d :: r.1, r.2)
termination_by cs => cs.length

/-- Reads the digits of a base to the end. -/
def readBase? (base : Nat) (cs : List Char) : Option Nat :=
  match digitRunIn base cs with
  | (d :: ds, []) => some ((d :: ds).foldl (fun n d => base * n + d) 0)
  | _ => none

/-- Reads the exponent of a number, if there is one; `none` when it lacks digits. -/
def readExponent? : List Char → Option (Int × List Char)
  | [] => some (0, [])
  | c :: cs =>
    if c = 'e' || c = 'E' then
      let (negative, rest) := takeSign cs
      match digitRun rest with
      | ([], _) => none
      | (ds, rest) => some (Double.signed negative (Text.digitsValue ds), rest)
    else some (0, c :: cs)

/-- Reads a numeral with an optional fraction and exponent. -/
def readNumeral? (cs : List Char) : Option (Numeral × List Char) :=
  let (whole, rest) := digitRun cs
  let (fraction, rest) := match rest with
    | '.' :: after => digitRun after
    | rest => ([], rest)
  if whole.isEmpty && fraction.isEmpty then none
  else (readExponent? rest).map fun (e, rest) =>
    (⟨Text.digitsValue (whole ++ fraction), e - fraction.length⟩, rest)

/-- Reads a double: a numeral, an infinity or no number, with blanks around. -/
def readDouble? (s : String) : Option Float :=
  let (negative, rest) := takeSign (Text.trim s.toList)
  let word := String.ofList (rest.map Char.toLower)
  if word = "inf" || word = "infinity" then
    some (Double.ofParts negative (Nat.pow 2 53) 972)
  else if word = "nan" then some (0.0 / 0.0)
  else match readNumeral? rest with
    | some (d, []) => some (d.toDouble negative)
    | _ => none

end BraceScript.Number
