import BraceScript.Text.CharacterName
import BraceScript.Text.Points

/-!
# String literals of generated code

A string literal stands between quotes, and a backslash begins an escape. `decodeLiteral` gives
the text of a literal or the first escape that is no escape.

Positions in an escape fault count from the opening quote. In a literal with a backslash every
character beyond ASCII counts as the ten characters of its long escape, and a backslash in front
of such a character as the six of its short one.
-/

namespace BraceScript.Code

/-- What is wrong with an escape. -/
inductive EscapeReason
  | shortByte | shortCode | shortLongCode | badCode | badName | unknownName
  deriving DecidableEq, Repr

/-- The wording of what is wrong with an escape. -/
def EscapeReason.text : EscapeReason → String
  | .shortByte => "truncated \\xXX escape"
  | .shortCode => "truncated \\uXXXX escape"
  | .shortLongCode => "truncated \\UXXXXXXXX escape"
  | .badCode => "illegal Unicode character"
  | .badName => "malformed \\N character escape"
  | .unknownName => "unknown Unicode character name"

/-- An escape that is none, with the positions of its first and last character. -/
structure EscapeFault where
  first : Nat
  last : Nat
  reason : EscapeReason
  deriving DecidableEq, Repr

/-- The value of a hexadecimal digit. -/
def hexValue? (c : Char) : Option Nat :=
  if '0' ≤ c && c ≤ '9' then some (c.toNat - 48)
  else if 'a' ≤ c && c ≤ 'f' then some (c.toNat - 87)
  else if 'A' ≤ c && c ≤ 'F' then some (c.toNat - 55)
  else none

/-- Reads up to `count` hexadecimal digits: how many there are, and their value. -/
def takeHex : Nat → List Char → Nat × Nat
  | 0, _ => (0, 0)
  | _, [] => (0, 0)
  | n + 1, c :: cs =>
    match hexValue? c with
    | none => (0, 0)
    | some v =>
      let r := takeHex n cs
      (r.1 + 1, v * Nat.pow 16 r.1 + r.2)

/-- Whether a character is an octal digit. -/
def isOctal (c : Char) : Bool := '0' ≤ c && c ≤ '7'

/-- The value of octal digits. -/
def octalValue (cs : List Char) : Nat := cs.foldl (fun n c => 8 * n + (c.toNat - 48)) 0

/-- The character that a letter behind a backslash stands for. -/
def simpleEscapes : List (Char × Char) := [
  ('\\', '\\'), ('\'', '\''), ('"', '"'), ('a', '\x07'), ('b', '\x08'), ('f', '\x0c'),
  ('n', '\n'), ('r', '\r'), ('t', '\t'), ('v', '\x0b')]

/-- The escapes of a code in hexadecimal: letter, number of digits, and what is wrong with fewer. -/
def codeEscapes : List (Char × Nat × EscapeReason) := [
  ('x', 2, .shortByte), ('u', 4, .shortCode), ('U', 8, .shortLongCode)]

/-- How many positions a character counts for. -/
def charWidth (c : Char) : Nat := if c.toNat < 128 then 1 else 10

/-- How many positions characters count for, from one on that no backslash stands before. -/
def widthOf : List Char → Nat
  | '\\' :: c :: cs => (if charWidth c = 1 then 1 else 6) + charWidth c + widthOf cs
  | c :: cs => charWidth c + widthOf cs
  | [] => 0

/-- What stands behind a backslash. -/
inductive Escape
  /-- Code points, with how many characters and positions they take up behind the backslash. -/
  | text (codes : List Nat) (taken width : Nat)
  /-- A fault, with the position behind its last character, counted from the backslash. -/
  | fault (stop : Nat) (reason : EscapeReason)

/-- An escape by name, from the characters behind its letter. -/
def nameEscape : List Char → Escape
  | '\x7b' :: cs =>
    let name := cs.takeWhile (· != '\x7d')
    match cs.dropWhile (· != '\x7d') with
    | [] => .fault (3 + widthOf name) .badName
    | _ :: _ =>
      if name.isEmpty then .fault 3 .badName
      else match Text.CharacterName.codePoint? (String.ofList name) with
        | some n => .text [n] (3 + name.length) (3 + widthOf name)
        | none => .fault (4 + widthOf name) .unknownName
  | _ => .fault 2 .badName

/-- The escape that stands behind a backslash. -/
def escapeAt (c : Char) (cs : List Char) : Escape :=
  match simpleEscapes.lookup c, codeEscapes.lookup c with
  | some d, _ => .text [d.toNat] 1 1
  | none, some (digits, reason) =>
    let (n, v) := takeHex digits cs
    if n < digits then .fault (2 + n) reason
    else if 0x10FFFF < v then .fault (2 + n) .badCode
    else .text [v] (1 + n) (1 + n)
  | none, none =>
    if isOctal c then
      let ds := (c :: cs.takeWhile isOctal).take 3
      .text [octalValue ds] ds.length ds.length
    else if c = 'N' then nameEscape cs
    else if charWidth c = 1 then .text ['\\'.toNat, c.toNat] 1 1
    else .text ['\\'.toNat] 0 5

/-- Decodes characters from a position on; the first argument bounds the number of steps. -/
def decodeFrom : Nat → Nat → List Char → Except EscapeFault (List Nat)
  | 0, _, _ => .ok []
  | _, _, [] => .ok []
  | _, _, ['\\'] => .ok ['\\'.toNat]
  | n + 1, pos, '\\' :: c :: cs =>
    match escapeAt c cs with
    | .fault stop reason => .error ⟨pos, pos + stop - 1, reason⟩
    | .text codes taken width =>
      (decodeFrom n (pos + 1 + width) ((c :: cs).drop taken)).map (codes ++ ·)
  | n + 1, pos, c :: cs => (decodeFrom n (pos + charWidth c) cs).map (c.toNat :: ·)

/-- Decodes the characters between the quotes of a literal. -/
def decodeInner (inner : List Char) : Except EscapeFault Text.Points :=
  if inner.contains '\\' then (decodeFrom (inner.length + 1) 0 inner).map Text.Points.mk
  else .ok (Text.Points.ofChars inner)

/-- The text of a string literal with its quotes. -/
def decodeLiteral (literal : String) : Except EscapeFault Text.Points :=
  decodeInner (literal.toList.drop 1).dropLast

end BraceScript.Code
