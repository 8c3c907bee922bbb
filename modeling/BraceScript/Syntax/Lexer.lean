import BraceScript.Syntax.Token
import BraceScript.Text.Digit

/-!
# From text to tokens

`pieceAt` decides what stands at the front of a text: ignored text (layout and comments), a
token, or nothing that the language knows. `scan` cuts a whole text into tokens. It goes on until
the text ends or a character begins no token; the reader of the tokens decides whether that
character is ever reached.
-/

namespace BraceScript.Syntax

/-! ## Character classes -/

/-- Layout between tokens. -/
def isLayout (c : Char) : Bool := [' ', '\t', '\x0c', '\r', '\n'].contains c

/-- A character that may begin a name. -/
def isNameStart (c : Char) : Bool := c.isAlpha || c == '_'

/-- A character that may go on with a name. -/
def isNameRest (c : Char) : Bool := c.isAlphanum || c == '_'

/-! ## Lengths of pieces

Each function looks at the text after the first character of a piece and gives the number of
further characters that belong to it. -/

/-- The rest of a number: digits, and a fraction if a digit follows the point. -/
def numberRest (cs : List Char) : Nat :=
  let whole := (cs.takeWhile Text.isDigit).length
  match cs.drop whole with
  | '.' :: d :: rest =>
    if Text.isDigit d then whole + 2 + (rest.takeWhile Text.isDigit).length else whole
  | _ => whole

/-- The rest of a string after its opening quote, if the string is closed on its line. -/
def stringRest : List Char → Option Nat
  | [] => none
  | '"' :: _ => some 1
  | '\n' :: _ => none
  | '\\' :: '\n' :: _ => none
  | '\\' :: _ :: cs => (stringRest cs).map (· + 2)
  | '\\' :: [] => none
  | _ :: cs => (stringRest cs).map (· + 1)

/-- The rest of a character after its opening apostrophe. -/
def charRest : List Char → Option Nat
  | '\\' :: c :: '\'' :: _ => if c = '\n' then none else some 3
  | c :: '\'' :: _ => if c = '\'' || c = '\\' || c = '\n' then none else some 2
  | _ => none

/-- The rest of a comment after its opening, up to the first closing mark. -/
def commentRest : List Char → Option Nat
  | [] => none
  | '*' :: '/' :: _ => some 2
  | _ :: cs => (commentRest cs).map (· + 1)

/-- The first sign of a list that a text begins with. -/
def signAt (cs : List Char) : Option (List Char × Sign) :=
  signs.find? fun s => s.1.isPrefixOf cs

/-! ## Pieces -/

/-- What stands at the front of a text. -/
inductive Piece
  /-- Ignored text: its first character and `rest` more. -/
  | ignored (rest : Nat)
  /-- A token: its first character and `rest` more. -/
  | token (kind : Kind) (rest : Nat)
  /-- A character that begins nothing. -/
  | unknown
  deriving Repr

/-- A sign in front of `c :: cs`, if there is one. -/
def signPiece (c : Char) (cs : List Char) : Piece :=
  match signAt (c :: cs) with
  | some (text, s) => .token (.sign s) (text.length - 1)
  | none => .unknown

/-- What stands at the front of the text `c :: cs`. -/
def pieceAt (c : Char) (cs : List Char) : Piece :=
  if isLayout c then .ignored (cs.takeWhile isLayout).length
  else if isNameStart c then
    let tail := cs.takeWhile isNameRest
    .token (wordKind (String.ofList (c :: tail))) tail.length
  else if Text.isDigit c then .token .number (numberRest cs)
  else match c, cs with
    | '"', cs => match stringRest cs with
      | some n => .token .string n
      | none => .unknown
    | '\'', cs => match charRest cs with
      | some n => .token .char n
      | none => .unknown
    | '/', '/' :: cs => .ignored (1 + (cs.takeWhile (· != '\n')).length)
    | '/', '*' :: cs => match commentRest cs with
      | some n => .ignored (1 + n)
      | none => signPiece '/' ('*' :: cs)
    | c, cs => signPiece c cs

/-! ## Whole texts -/

/-- Where the tokens of a text end. -/
inductive Ending
  /-- The whole text is tokens. -/
  | complete
  /-- A character that begins no token. -/
  | unknown (c : Char) (position : Position)
  deriving DecidableEq, Repr

/-- The tokens of a text and how they end. -/
structure Scan where
  tokens : List Token
  ending : Ending
  deriving Repr

/-- The tokens of a text that begins at a given place. -/
def scanFrom (p : Position) : List Char → Scan
  | [] => ⟨[], .complete⟩
  | c :: cs =>
    match pieceAt c cs with
    | .ignored n => scanFrom (p.advance (c :: cs.take n)) (cs.drop n)
    | .token k n =>
      let r := scanFrom (p.advance (c :: cs.take n)) (cs.drop n)
      ⟨⟨k, String.ofList (c :: cs.take n), p⟩ :: r.tokens, r.ending⟩
    | .unknown => ⟨[], .unknown c p⟩
termination_by cs => cs.length
decreasing_by all_goals (simp only [List.length_cons, List.length_drop]; omega)

/-- The tokens of a text. -/
def scan (cs : List Char) : Scan := scanFrom .start cs

end BraceScript.Syntax
