import BraceScript.Text.Printable

/-!
# Quoted text

Texts inside lists, in error messages and in notices are shown in quotes. The quote is an
apostrophe unless the text holds an apostrophe and no double quote. The quote, the backslash and
everything unprintable is escaped.
-/

namespace BraceScript.Text

/-- One hexadecimal digit in lower case. -/
def hexDigit (n : Nat) : Char := (Nat.digitChar (n % 16))

/-- `width` hexadecimal digits of a number. -/
def hexDigits (width n : Nat) : List Char :=
  ((List.range width).map fun i => hexDigit (n / Nat.pow 16 i)).reverse

/-- One character of a quoted text, for the quote in use. -/
def quotedChar (quote c : Char) : List Char :=
  if c = quote || c = '\\' then ['\\', c]
  else if c = '\n' then ['\\', 'n']
  else if c = '\r' then ['\\', 'r']
  else if c = '\t' then ['\\', 't']
  else if isPrintable c then [c]
  else if c.toNat < 0x100 then ['\\', 'x'] ++ hexDigits 2 c.toNat
  else if c.toNat < 0x10000 then ['\\', 'u'] ++ hexDigits 4 c.toNat
  else ['\\', 'U'] ++ hexDigits 8 c.toNat

/-- The quote that a text is shown with. -/
def quoteFor (cs : List Char) : Char :=
  if cs.contains '\'' && !cs.contains '"' then '"' else '\''

/-- A text in quotes. -/
def quoted (s : String) : String :=
  let cs := s.toList
  let q := quoteFor cs
  String.ofList (q :: cs.flatMap (quotedChar q) ++ [q])

/-- A list of texts, each in quotes, between square brackets. -/
def quotedList (ss : List String) : String :=
  "[" ++ ", ".intercalate (ss.map quoted) ++ "]"

end BraceScript.Text
