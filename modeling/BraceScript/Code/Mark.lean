import BraceScript.Code.Faults
import BraceScript.Code.Literal
import BraceScript.Number.Decimal
import BraceScript.Text.NameChar

/-!
# Pieces of written expressions

A text that somebody may write as an expression of the generated language is cut into words,
literals, signs and ends of lines by `marks?`. A literal is only a piece if it is right: a number
with its digits, a text with its quotes and its escapes.
-/

namespace BraceScript.Code

/-- A piece of a written expression. -/
inductive Mark
  | word (name : String)
  | number
  | text
  /-- The text of bytes. -/
  | bytes
  | sign (s : String)
  /-- The end of a line outside of brackets. -/
  | line
  deriving DecidableEq, Repr

/-- The signs, longer ones in front of those they begin with. -/
def signs : List String := [
  "...", "**", "//", "<<", ">>", "<=", ">=", "==", "!=", ":=", "->", "+", "-", "*", "/", "%", "@",
  "&", "|", "^", "~", "<", ">", "=", "(", ")", "[", "]", "\x7b", "\x7d", ",", ":", "."]

/-! ## Texts -/

/-- The characters of a text literal and what follows it, from behind its opening quotes; lines end
only literals with one quote on each side. -/
def cutText (close : List Char) : List Char → Option (List Char × List Char)
  | [] => none
  | '\\' :: c :: cs => (cutText close cs).map fun (inner, rest) => ('\\' :: c :: inner, rest)
  | c :: cs =>
    if close.isPrefixOf (c :: cs) then some ([], cs.drop (close.length - 1))
    else if c = '\n' && close.length = 1 then none
    else (cutText close cs).map fun (inner, rest) => (c :: inner, rest)

/-- The characters of a text literal and what follows it, from its opening quotes on. -/
def cutQuoted (cs : List Char) : Option (List Char × List Char) :=
  match cs with
  | q :: rest =>
    if q = '"' || q = '\'' then
      if [q, q, q].isPrefixOf cs then cutText [q, q, q] (cs.drop 3) else cutText [q] rest
    else none
  | [] => none

/-- Letters that can stand in front of a text literal. -/
def textMarks : List String := ["", "r", "b", "u", "f", "rb", "br", "fr", "rf"]

/-- Whether the escapes of the text of bytes are right: two digits follow each `\x`. -/
def bytesEscapes : List Char → Bool
  | '\\' :: 'x' :: cs => (takeHex 2 cs).1 = 2 && bytesEscapes cs
  | '\\' :: _ :: cs => bytesEscapes cs
  | _ :: cs => bytesEscapes cs
  | [] => true

/-- The piece that a text literal is, by the letters in front of it and its characters. -/
def textMark? (letters : String) (inner : List Char) : Option Mark :=
  let isRaw := letters.toList.contains 'r'
  if letters.toList.contains 'b' then
    if (inner.all fun c => c.toNat < 128) && (isRaw || bytesEscapes inner) then some .bytes
    else none
  else if isRaw || (decodeInner inner).toOption.isSome then some .text
  else none

/-- The piece at the front that is a text literal behind such letters, and what follows it. -/
def takeText (letters : String) (cs : List Char) : Option (Mark × List Char) := do
  let (inner, rest) ← cutQuoted cs
  return (← textMark? letters inner, rest)

/-! ## Numbers -/

/-- What follows a whole number in a base, from behind the letter of the base. -/
def afterDigitsIn (base : Nat) (cs : List Char) : Option (List Char) :=
  match Number.digitRunIn base (if cs.head? == some '_' then cs.drop 1 else cs) with
  | ([], _) => none
  | (_, rest) => some rest

/-- What follows a number in decimal notation. A whole number has no zeros in front. -/
def afterDecimal (cs : List Char) : Option (List Char) :=
  let (whole, behind) := Number.digitRun cs
  let fraction := match behind with
    | '.' :: after => (Number.digitRun after).2
    | rest => rest
  let rest := ((Number.readExponent? fraction).map Prod.snd).getD fraction
  match rest with
  | 'j' :: rest | 'J' :: rest => some rest
  | rest =>
    let isPadded := whole.head? == some '0' && whole.any (· != '0')
    if isPadded && behind.length = rest.length then none else some rest

/-- What follows a number in a text of ASCII characters. -/
def afterNumeral (cs : List Char) : Option (List Char) :=
  match cs with
  | '0' :: c :: ds =>
    if c.toLower = 'x' then afterDigitsIn 16 ds
    else if c.toLower = 'o' then afterDigitsIn 8 ds
    else if c.toLower = 'b' then afterDigitsIn 2 ds
    else afterDecimal cs
  | cs => afterDecimal cs

/-- What follows a number. Words can follow it without a blank if they are operators. -/
def afterNumber (cs : List Char) : Option (List Char) :=
  let (numeral, others) := cs.span fun c => c.toNat < 128
  ((afterNumeral numeral).map (· ++ others)).filter fun rest =>
    if rest.head?.any fun c => 127 < c.toNat then false
    else
      let name := rest.takeWhile Text.continuesName
      name.isEmpty || mayFollowNumber name

/-! ## Cutting -/

/-- Whether a character is blank space within a line. -/
def isGap (c : Char) : Bool := c = ' ' || c = '\t' || c = '\x0c'

/-- How many brackets can be open at once. -/
def maxBrackets : Nat := 200

/-- The pieces of a text inside so many brackets; the first argument bounds the steps. -/
def marksFrom : Nat → Nat → List Char → Option (List Mark)
  | 0, _, _ => none
  | _ + 1, _, [] => some []
  | n + 1, depth, c :: cs =>
    if c = '\n' then
      if depth = 0 then (marksFrom n depth cs).map (.line :: ·) else marksFrom n depth cs
    else if isGap c then marksFrom n depth cs
    else if c = '#' then marksFrom n depth (cs.dropWhile (· != '\n'))
    else if c = '\\' then
      if cs.head? == some '\n' && 1 < cs.length then marksFrom n depth (cs.drop 1) else none
    else if Text.beginsName c then
      let name := String.ofList (c :: cs.takeWhile Text.continuesName)
      let rest := cs.dropWhile Text.continuesName
      if textMarks.contains name.toLower && (rest.head?.any fun q => q = '"' || q = '\'') then
        (takeText name.toLower rest).bind fun (m, rest) => (marksFrom n depth rest).map (m :: ·)
      else (marksFrom n depth rest).map (.word name :: ·)
    else if c.isDigit || (c = '.' && cs.head?.any Char.isDigit) then
      (afterNumber (c :: cs)).bind fun rest => (marksFrom n depth rest).map (.number :: ·)
    else if c = '"' || c = '\'' then
      (takeText "" (c :: cs)).bind fun (m, rest) => (marksFrom n depth rest).map (m :: ·)
    else
      (signs.find? fun s => s.toList.isPrefixOf (c :: cs)).bind fun s =>
        let depth := if ["(", "[", "\x7b"].contains s then depth + 1
          else if [")", "]", "\x7d"].contains s then depth - 1 else depth
        if maxBrackets < depth then none
        else (marksFrom n depth ((c :: cs).drop s.length)).map (.sign s :: ·)

/-- The characters of a text from its first line on that has more than blank space and a comment;
the first argument bounds the number of lines. -/
def fromFirstLine : Nat → List Char → List Char
  | 0, cs => cs
  | n + 1, cs =>
    match cs.dropWhile isGap with
    | '\n' :: rest => fromFirstLine n rest
    | '#' :: rest => fromFirstLine n ((rest.dropWhile (· != '\n')).drop 1)
    | _ => cs

/-- The pieces of a text, if its first line is not indented. -/
def marks? (cs : List Char) : Option (List Mark) :=
  let cs := fromFirstLine cs.length cs
  let indent := cs.takeWhile isGap
  if indent.getLast?.any (· != '\x0c') then none else marksFrom (cs.length + 1) 0 cs

end BraceScript.Code
