import BraceScript.Text.CharacterName.Aliases
import BraceScript.Text.CharacterName.Alphabets
import BraceScript.Text.CharacterName.Ancient
import BraceScript.Text.CharacterName.Pictures
import BraceScript.Text.CharacterName.Signs
import BraceScript.Text.CharacterName.Syllables

/-!
# Names of characters

Every character but controls and private ones has a name, which escapes can use. Most names are in
tables; the names of Korean syllables are put together from the names of their letters, and the
names of unified ideographs hold their code points. Case does not matter for names in tables.
-/

namespace BraceScript.Text.CharacterName

/-- The names of characters that follow each other: they begin alike and go on differently. -/
structure NameLine where
  first : Nat
  start : String
  ends : List String
  deriving Inhabited

/-- The value of a hexadecimal digit in upper case. -/
def upperHexValue? (c : Char) : Option Nat :=
  if '0' ≤ c && c ≤ '9' then some (c.toNat - 48)
  else if 'A' ≤ c && c ≤ 'F' then some (c.toNat - 55)
  else none

/-- The number that hexadecimal digits in upper case write. -/
def hexNumber? (ds : List Char) : Option Nat :=
  ds.foldlM (fun n d => (upperHexValue? d).map (16 * n + ·)) 0

/-- Reads a line of a table. -/
def nameLine (line : String) : NameLine :=
  let parts := line.splitOn "|"
  let words := (parts.headD "").splitOn " "
  ⟨(hexNumber? (words.headD "").toList).getD 0, " ".intercalate (words.drop 1), parts.drop 1⟩

/-- The lines of a table. -/
def linesOf (table : String) : List NameLine := (table.splitOn "\n").map nameLine

/-- The lines of all tables. -/
def nameLines : List NameLine :=
  linesOf alphabets ++ linesOf signs ++ linesOf syllables ++ linesOf ancient ++ linesOf pictures
    ++ linesOf aliases

/-- The code point that a line has for a name. -/
def NameLine.codePoint? (l : NameLine) (name : String) : Option Nat :=
  if name.startsWith l.start then
    (l.ends.findIdx? fun e => l.start ++ e == name).map (l.first + ·)
  else none

/-! ## Names by rule -/

/-- The names of the letters that begin Korean syllables, in order. -/
def leadingLetters : List String := [
  "G", "GG", "N", "D", "DD", "R", "M", "B", "BB", "S", "SS", "", "J", "JJ", "C", "K", "T", "P", "H"]

/-- The names of the vowels of Korean syllables, in order. -/
def vowels : List String := [
  "A", "AE", "YA", "YAE", "EO", "E", "YEO", "YE", "O", "WA", "WAE", "OE", "YO", "U", "WEO", "WE",
  "WI", "YU", "EU", "YI", "I"]

/-- The names of the letters that end Korean syllables, in order; most syllables have none. -/
def trailingLetters : List String := [
  "", "G", "GG", "GS", "N", "NJ", "NH", "D", "L", "LG", "LM", "LB", "LS", "LT", "LP", "LH", "M",
  "B", "BS", "S", "SS", "NG", "J", "C", "K", "T", "P", "H"]

/-- What a text goes on with behind a front, if it has that front. -/
def behind? (front text : List Char) : Option (List Char) :=
  if front.isPrefixOf text then some (text.drop front.length) else none

/-- The first result among the fronts that a text has, by the place of the front. -/
def firstFront (fronts : List String) (text : List Char)
    (next : Nat → List Char → Option Nat) : Option Nat :=
  fronts.zipIdx.findSome? fun (f, i) => (behind? f.toList text).bind (next i)

/-- The code point of a Korean syllable. -/
def syllable? (name : String) : Option Nat := do
  let letters ← behind? "HANGUL SYLLABLE ".toList name.toList
  firstFront leadingLetters letters fun l rest =>
    firstFront vowels rest fun v rest =>
      firstFront trailingLetters rest fun t rest =>
        if rest.isEmpty then some (0xAC00 + (21 * l + v) * 28 + t) else none

/-- The ranges of the unified ideographs. -/
def ideographs : List (Nat × Nat) := [
  (0x3400, 0x4DBF), (0x4E00, 0x9FFF), (0x20000, 0x2A6DF), (0x2A700, 0x2B738), (0x2B740, 0x2B81D),
  (0x2B820, 0x2CEA1), (0x2CEB0, 0x2EBE0), (0x30000, 0x3134A)]

/-- The code point of a unified ideograph, which its name ends in. -/
def ideograph? (name : String) : Option Nat := do
  let digits ← behind? "CJK UNIFIED IDEOGRAPH-".toList name.toList
  let n ← hexNumber? digits
  if (digits.length = 4 || digits.length = 5) && ideographs.any fun r => r.1 ≤ n && n ≤ r.2 then
    some n
  else none

/-- The code point of a name. -/
def codePoint? (name : String) : Option Nat :=
  syllable? name <|> ideograph? name <|>
    let upper := String.ofList (name.toList.map Char.toUpper)
    nameLines.findSome? (·.codePoint? upper)

end BraceScript.Text.CharacterName
