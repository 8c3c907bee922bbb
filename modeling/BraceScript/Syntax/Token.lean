/-!
# Tokens

A source text is a sequence of tokens: names, numbers, strings, characters, keywords and signs.
A token remembers its text and where it stands. `keywords` and `signs` list the fixed tokens with
their spelling; a sign is read before every shorter one that it begins with.
-/

namespace BraceScript.Syntax

/-- A word that cannot be a name. -/
inductive Keyword
  | kwUsing | kwClass | kwPublic | kwPrivate | kwProtected | kwInternal | kwStatic
  | kwIf | kwElse | kwWhile | kwFor | kwForeach | kwIn
  | kwReturn | kwBreak | kwContinue | kwThrow | kwTry | kwCatch | kwFinally
  | kwTrue | kwFalse | kwNull | kwThis | kwNew
  deriving DecidableEq, Repr

/-- Every keyword with its spelling. -/
def keywords : List (String × Keyword) := [
  ("using", .kwUsing), ("class", .kwClass), ("public", .kwPublic), ("private", .kwPrivate),
  ("protected", .kwProtected), ("internal", .kwInternal), ("static", .kwStatic), ("if", .kwIf),
  ("else", .kwElse), ("while", .kwWhile), ("for", .kwFor), ("foreach", .kwForeach),
  ("in", .kwIn), ("return", .kwReturn), ("break", .kwBreak), ("continue", .kwContinue),
  ("throw", .kwThrow), ("try", .kwTry), ("catch", .kwCatch), ("finally", .kwFinally),
  ("true", .kwTrue), ("false", .kwFalse), ("null", .kwNull), ("this", .kwThis), ("new", .kwNew)]

/-- An operator or a mark of punctuation. -/
inductive Sign
  | plusAssign | minusAssign | timesAssign | overAssign | modAssign | increment | decrement
  | orElse | andAlso | equal | unequal | atMost | atLeast
  | assign | plus | minus | times | over | mod | bang | less | greater
  | question | colon | semicolon | comma | dot
  | openParen | closeParen | openBracket | closeBracket | openBrace | closeBrace
  deriving DecidableEq, Repr

/-- Every sign with its spelling, longer ones first. -/
def signs : List (List Char × Sign) := [
  (['+', '='], .plusAssign), (['-', '='], .minusAssign), (['*', '='], .timesAssign),
  (['/', '='], .overAssign), (['%', '='], .modAssign), (['+', '+'], .increment),
  (['-', '-'], .decrement), (['|', '|'], .orElse), (['&', '&'], .andAlso),
  (['=', '='], .equal), (['!', '='], .unequal), (['<', '='], .atMost), (['>', '='], .atLeast),
  (['='], .assign), (['+'], .plus), (['-'], .minus), (['*'], .times), (['/'], .over),
  (['%'], .mod), (['!'], .bang), (['<'], .less), (['>'], .greater), (['?'], .question),
  ([':'], .colon), ([';'], .semicolon), ([','], .comma), (['.'], .dot), (['('], .openParen),
  ([')'], .closeParen), (['['], .openBracket), ([']'], .closeBracket), (['\x7b'], .openBrace),
  (['\x7d'], .closeBrace)]

/-- The kinds of tokens. -/
inductive Kind
  | name
  | number
  | string
  | char
  | word (keyword : Keyword)
  | sign (sign : Sign)
  deriving DecidableEq, Repr

/-- A place in a text: lines and columns count from one. -/
structure Position where
  line : Nat
  column : Nat
  deriving DecidableEq, Repr

namespace Position

/-- The place of the first character of a text. -/
def start : Position := ⟨1, 1⟩

/-- The place after one more character; only a line feed ends a line. -/
def next (p : Position) (c : Char) : Position :=
  if c = '\n' then ⟨p.line + 1, 1⟩ else ⟨p.line, p.column + 1⟩

/-- The place after a piece of text. -/
def advance (p : Position) (cs : List Char) : Position := cs.foldl next p

end Position

/-- A piece of the source text that counts as one symbol. -/
structure Token where
  kind : Kind
  text : String
  position : Position
  deriving DecidableEq, Repr

/-- The kind of a word: a keyword when it is spelled like one. -/
def wordKind (text : String) : Kind :=
  match keywords.find? fun k => k.1 = text with
  | some (_, k) => .word k
  | none => .name

end BraceScript.Syntax
