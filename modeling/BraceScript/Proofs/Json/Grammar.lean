import BraceScript.Json.Read
import Mathlib

/-!
# The notation of structured data

`IsJson cs j` says that the text `cs` is the value `j` in the notation of structured data, with
blanks in front and behind. The notation says what may stand where, without the order in which a
reader goes through it: `Written` is about values, items and members, and `IsText` about what
stands between quotes.

Two things go beyond the usual notation. A number can also be one of three words, and an integer can
have only so many digits.
-/

namespace BraceScript.JsonValue

/-! ## Texts -/

/-- A part of a text: a single code point, or a code that can be half of a pair. -/
inductive Piece
  | plain (code : Nat)
  | code (n : Nat)

/-- Four digits that write a code. -/
def IsCode (n : Nat) (ds : List Char) : Prop :=
  ∃ a b c d w x y z, ds = [a, b, c, d] ∧ Code.hexValue? a = some w ∧ Code.hexValue? b = some x
    ∧ Code.hexValue? c = some y ∧ Code.hexValue? d = some z
    ∧ n = ((w * 16 + x) * 16 + y) * 16 + z

/-- How a part of a text is written. -/
inductive Spells : Piece → List Char → Prop
  | char {c : Char} : c ≠ '"' → c ≠ '\\' → 32 ≤ c.toNat → Spells (.plain c.toNat) [c]
  | escape {e d : Char} : (e, d) ∈ simpleEscapes → Spells (.plain d.toNat) ['\\', e]
  | code {n : Nat} {ds : List Char} : IsCode n ds → Spells (.code n) ('\\' :: 'u' :: ds)

/-- Parts one behind the other. -/
inductive IsText : List Piece → List Char → Prop
  | nil : IsText [] []
  | cons {p : Piece} {ps : List Piece} {t s : List Char} :
    Spells p t → IsText ps s → IsText (p :: ps) (t ++ s)

/-- The code points of a text; two halves of a pair in a row are one. -/
def codePoints : List Piece → List Nat
  | [] => []
  | .plain d :: ps => d :: codePoints ps
  | .code high :: .code low :: ps =>
    if isHighHalf high && isLowHalf low then joinHalves high low :: codePoints ps
    else high :: codePoints (.code low :: ps)
  | .code n :: ps => n :: codePoints ps

/-- A text in quotes. -/
def IsQuoted (t : Text.Points) (s : List Char) : Prop :=
  ∃ ps inside, IsText ps inside ∧ t = ⟨codePoints ps⟩ ∧ s = '"' :: inside ++ ['"']

/-! ## Numbers -/

/-- The digits of an integer: a zero alone, or digits without a zero in front. -/
structure IsWhole (ds : List Char) : Prop where
  ne_nil : ds ≠ []
  digits : ∀ c ∈ ds, c.isDigit
  alone : ds.head? = some '0' → ds = ['0']

/-- A fraction, or none: digits behind a point. -/
def IsFraction (s : List Char) : Prop :=
  s = [] ∨ ∃ ds, s = '.' :: ds ∧ ds ≠ [] ∧ ∀ c ∈ ds, c.isDigit

/-- Whether a text is a sign, which can be left out. -/
def IsSign (sign : List Char) : Prop := sign = [] ∨ sign = ['+'] ∨ sign = ['-']

/-- An exponent, or none: digits behind a letter and maybe a sign. -/
def IsExponent (s : List Char) : Prop :=
  s = [] ∨ ∃ e sign ds, s = e :: sign ++ ds ∧ (e = 'e' ∨ e = 'E')
    ∧ IsSign sign ∧ ds ≠ [] ∧ ∀ c ∈ ds, c.isDigit

/-- The sign of a number. -/
def signOf (negative : Bool) : List Char := if negative then ['-'] else []

/-! ## Values -/

/-- Blanks between tokens. -/
def Blank (s : List Char) : Prop := ∀ c ∈ s, isSpace c

/-- What stands in front of the value of a member: its key and a colon, with blanks. -/
def IsKey (k : Text.Points) (s : List Char) : Prop :=
  ∃ b key b' b'', Blank b ∧ IsQuoted k key ∧ Blank b' ∧ Blank b'' ∧ s = b ++ key ++ b' ++ ':' :: b''

/-- What is written: a value, the items of a list, or the members of an object in the order of the
text. -/
inductive Part
  | value (j : JsonValue)
  | items (js : List JsonValue)
  | members (ms : List (Text.Points × JsonValue))

/-- How values, items and members are written. Of several members with one key the last one counts,
at the place of the first. -/
inductive Written : Part → List Char → Prop
  | constant {w : String} {j : JsonValue} : (w, j) ∈ constants → Written (.value j) w.toList
  | int {negative : Bool} {whole : List Char} :
    IsWhole whole → whole.length ≤ Number.digitLimit →
    Written (.value (.int (Number.Double.signed negative (Text.digitsValue whole))))
      (signOf negative ++ whole)
  | float {negative : Bool} {whole fraction exponent s : List Char} :
    IsWhole whole → IsFraction fraction → IsExponent exponent → fraction ++ exponent ≠ [] →
    s = signOf negative ++ whole ++ fraction ++ exponent →
    Written (.value (.float ((Number.readDouble? (String.ofList s)).getD 0))) s
  | text {t : Text.Points} {s : List Char} : IsQuoted t s → Written (.value (.text t)) s
  | emptyList {b : List Char} : Blank b → Written (.value (.list [])) ('[' :: b ++ [']'])
  | list {js : List JsonValue} {s : List Char} :
    Written (.items js) s → Written (.value (.list js)) ('[' :: s ++ [']'])
  | emptyObject {b : List Char} :
    Blank b → Written (.value (.object [])) ('\x7b' :: b ++ ['\x7d'])
  | object {ms : List (Text.Points × JsonValue)} {s : List Char} :
    Written (.members ms) s →
    Written (.value (.object (Bindings.putAll [] ms))) ('\x7b' :: s ++ ['\x7d'])
  | item {j : JsonValue} {b s b' : List Char} :
    Blank b → Written (.value j) s → Blank b' → Written (.items [j]) (b ++ s ++ b')
  | items {j : JsonValue} {js : List JsonValue} {b s b' t : List Char} :
    Blank b → Written (.value j) s → Blank b' → Written (.items js) t →
    Written (.items (j :: js)) (b ++ s ++ b' ++ ',' :: t)
  | member {k : Text.Points} {j : JsonValue} {f s b : List Char} :
    IsKey k f → Written (.value j) s → Blank b → Written (.members [(k, j)]) (f ++ s ++ b)
  | members {k : Text.Points} {j : JsonValue} {ms : List (Text.Points × JsonValue)}
      {f s b t : List Char} :
    IsKey k f → Written (.value j) s → Blank b → Written (.members ms) t →
    Written (.members ((k, j) :: ms)) (f ++ s ++ b ++ ',' :: t)

/-- A whole text is a value with blanks around. -/
def IsJson (cs : List Char) (j : JsonValue) : Prop :=
  ∃ b s b', Blank b ∧ Written (.value j) s ∧ Blank b' ∧ cs = b ++ s ++ b'

end BraceScript.JsonValue
