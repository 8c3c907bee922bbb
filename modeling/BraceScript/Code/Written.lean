import BraceScript.Code.Ident
import BraceScript.Code.Mark

/-!
# Written expressions

Whether a text is an expression of the generated language, as somebody may write it: with all its
operators, displays and comprehensions, and in one logical line. A `Pattern` says what pieces it
takes off the front of others, and `grammar` has the pattern of each kind of phrase. Of several
patterns the first that fits is taken.
-/

namespace BraceScript.Code

/-- A kind of phrase. -/
inductive Phrase
  | expression | disjunction | conjunction | inversion | comparison | arithmetic | operand
  | function | atom | trailer | named | item | entry | clause | target | targetTail
  | arguments | keyword | place

/-- What can be taken off the front of pieces. -/
inductive Pattern
  | nothing
  | never
  | word (w : String)
  | sign (s : String)
  /-- A word that is not reserved. -/
  | name
  /-- A name that can be given a value. -/
  | binder
  | mark (m : Mark)
  | both (first second : Pattern)
  | either (first second : Pattern)
  | many (p : Pattern)
  /-- Takes nothing, but only where the pattern does not fit. -/
  | absent (p : Pattern)
  | phrase (p : Phrase)

namespace Pattern

/-- Patterns one behind the other. -/
def row : List Pattern → Pattern
  | [] => nothing
  | p :: ps => both p (row ps)

/-- The first of several patterns that fits. -/
def oneOf : List Pattern → Pattern
  | [] => never
  | p :: ps => either p (oneOf ps)

/-- A pattern or nothing. -/
def maybe (p : Pattern) : Pattern := either p nothing

/-- Takes nothing, but only where the pattern fits. -/
def ahead (p : Pattern) : Pattern := absent (absent p)

/-- One of several signs. -/
def oneSign (ss : List String) : Pattern := oneOf (ss.map sign)

/-- Phrases with a sign in front of each. -/
def behind (s : String) (p : Pattern) : Pattern := many (both (sign s) p)

/-- Patterns with commas between them. -/
def listed (p : Pattern) : Pattern := both p (behind "," p)

/-- What is left of a list behind its first item, up to the closing bracket. -/
def upTo (close : String) (p : Pattern) : Pattern :=
  row [behind "," p, maybe (sign ","), sign close]

end Pattern

open Pattern (row oneOf maybe ahead oneSign behind listed upTo)

instance : Coe Phrase Pattern := ⟨.phrase⟩
instance : Coe String Pattern := ⟨.sign⟩

/-! ## The grammar -/

/-- The operators between the operands of a comparison. -/
def comparer : Pattern :=
  oneOf [oneSign ["==", "!=", "<=", "<", ">=", ">"], .word "in", row [.word "not", .word "in"],
    row [.word "is", .word "not"], .word "is"]

/-- A name with a value behind such a sign. -/
def given (s : String) : Pattern := row [.binder, .sign s, .phrase .expression]

/-- What closes a parameter: a comma, or the colon behind the last one. -/
def parameterEnd (p : Pattern) : Pattern := row [p, oneOf [",", ahead ":"]]

/-- Parameters. Those with a default come behind those without one, unless a star comes first. -/
def parameters : Pattern :=
  let plain := parameterEnd .binder
  let preset := parameterEnd (given "=")
  let any := oneOf [preset, plain]
  let rest := parameterEnd (row ["**", .binder])
  let starred := oneOf [
    row ["*", plain, .many any, maybe rest], row ["*", ",", any, .many any, maybe rest], rest]
  let slash := parameterEnd "/"
  oneOf [
    row [plain, .many plain, slash, .many plain, .many preset, maybe starred],
    row [.many plain, preset, .many preset, slash, .many preset, maybe starred],
    row [.many plain, .many preset, maybe starred]]

/-- The clauses of a comprehension and the closing bracket. -/
def clausesUpTo (close : String) : Pattern :=
  row [.phrase .clause, .many (.phrase .clause), .sign close]

/-- What follows the first item of a display, up to the closing bracket. -/
def itemsUpTo (close : String) : Pattern :=
  oneOf [clausesUpTo close, upTo close (.phrase .item)]

/-- Places in square brackets, behind the opening one. -/
def places : Pattern := row [listed (.phrase .place), maybe ",", "]"]

/-- The part of a place from its first colon on. -/
def span : Pattern :=
  let bound := maybe (.phrase .expression)
  row [":", bound, maybe (row [":", bound])]

/-- Spreads a value. -/
def spread (s : String) : Pattern := row [.sign s, .phrase .arithmetic]

/-- What can be bound in a `for` clause. -/
def targets : Pattern :=
  let starred := row [maybe "*", .phrase .target]
  oneOf [
    row [.phrase .target, behind "," starred, maybe ","],
    row ["*", .phrase .target, ",", maybe (row [listed starred, maybe ","])]]

/-- Arguments by position from the second one on, then those by name. -/
def moreArguments : Pattern :=
  let positional := oneOf [
    row ["*", .phrase .expression], row [.phrase .named, .absent "="]]
  row [behind "," positional, maybe (row [",", .phrase .keyword]), maybe ",", ")"]

/-- The pattern of each kind of phrase. -/
def grammar : Phrase → Pattern
  | .expression => oneOf [
      .phrase .function,
      row [.phrase .disjunction, maybe (row [
        .word "if", .phrase .disjunction, .word "else", .phrase .expression])]]
  | .function => row [.word "lambda", parameters, ":", .phrase .expression]
  | .disjunction => row [
      .phrase .conjunction, .many (row [.word "or", .phrase .conjunction])]
  | .conjunction => row [.phrase .inversion, .many (row [.word "and", .phrase .inversion])]
  | .inversion => oneOf [row [.word "not", .phrase .inversion], .phrase .comparison]
  | .comparison => row [.phrase .arithmetic, .many (row [comparer, .phrase .arithmetic])]
  | .arithmetic => row [
      .phrase .operand,
      .many (row [
        oneSign ["+", "-", "*", "/", "//", "%", "@", "&", "|", "^", "<<", ">>", "**"],
        .phrase .operand])]
  | .operand => row [
      .many (oneSign ["+", "-", "~"]), .phrase .atom, .many (.phrase .trailer)]
  | .atom => oneOf [
      .name, .word "True", .word "False", .word "None", .mark .number,
      row [.mark .text, .many (.mark .text)], row [.mark .bytes, .many (.mark .bytes)], "...",
      row ["(", oneOf [
        ")", row [.phrase .named, itemsUpTo ")"],
        row [spread "*", ahead ",", upTo ")" (.phrase .item)]]],
      row ["[", oneOf [
        "]", row [.phrase .named, itemsUpTo "]"], row [spread "*", upTo "]" (.phrase .item)]]],
      row ["\x7b", oneOf [
        "\x7d",
        row [spread "**", upTo "\x7d" (.phrase .entry)],
        row [spread "*", upTo "\x7d" (.phrase .item)],
        row [given ":=", itemsUpTo "\x7d"],
        row [.phrase .expression, oneOf [
          row [":", .phrase .expression,
            oneOf [clausesUpTo "\x7d", upTo "\x7d" (.phrase .entry)]],
          itemsUpTo "\x7d"]]]]]
  | .trailer => oneOf [
      row [".", .name], row ["(", .phrase .arguments], row ["[", places]]
  | .named => oneOf [given ":=", .phrase .expression]
  | .item => oneOf [spread "*", .phrase .named]
  | .entry => oneOf [
      spread "**", row [.phrase .expression, ":", .phrase .expression]]
  | .clause => row [
      .word "for", targets, .word "in", .phrase .disjunction,
      .many (row [.word "if", .phrase .disjunction])]
  | .target => oneOf [
      row [.phrase .atom, .phrase .targetTail], .binder, row ["(", maybe targets, ")"],
      row ["[", maybe (row [listed (row [maybe "*", .phrase .target]), maybe ","]), "]"]]
  | .targetTail => oneOf [
      row [.phrase .trailer, .phrase .targetTail],
      row [oneOf [row [".", .name], row ["[", places]], .absent (oneSign [".", "[", "("])]]
  | .arguments => oneOf [
      ")",
      row [.phrase .named, .absent "=", oneOf [clausesUpTo ")", moreArguments]],
      row ["*", .phrase .expression, moreArguments],
      row [.phrase .keyword, maybe ",", ")"]]
  | .keyword =>
    let late := oneOf [given "=", row ["**", .phrase .expression]]
    oneOf [
      row [listed (oneOf [given "=", row ["*", .phrase .expression]]), behind "," late],
      listed late]
  | .place => oneOf [
      row ["*", .phrase .expression], given ":=", row [.phrase .expression, maybe span], span]

/-! ## Taking -/

/-- Whether a word can be a name. -/
def isFree (w : String) : Bool := !reservedWords.contains w

/-- Takes a pattern off the front of pieces; the first argument bounds how deep patterns nest. -/
def Pattern.take : Nat → Pattern → List Mark → Option (List Mark)
  | 0, _, _ => none
  | n + 1, p, ms =>
    match p, ms with
    | .nothing, ms => some ms
    | .never, _ => none
    | .word w, .word v :: ms => if w = v then some ms else none
    | .sign s, .sign t :: ms => if s = t then some ms else none
    | .name, .word w :: ms => if isFree w then some ms else none
    | .binder, .word w :: ms => if isFree w && w != "__debug__" then some ms else none
    | .mark m, m' :: ms => if m = m' then some ms else none
    | .both p q, ms => (take n p ms).bind (take n q)
    | .either p q, ms => (take n p ms).orElse fun _ => take n q ms
    | .many p, ms =>
      match take n p ms with
      | some rest => take n (.many p) rest
      | none => some ms
    | .absent p, ms => if (take n p ms).isSome then none else some ms
    | .phrase r, ms => take n (grammar r) ms
    | _, _ => none

/-- Whether characters are an expression, up to line breaks around it. -/
def isExpression (cs : List Char) : Bool :=
  match marks? (cs.map fun c => if c = '\r' then '\n' else c) with
  | none => false
  | some ms =>
    let whole := row [listed (.phrase .expression), maybe ",", .many (.mark .line)]
    whole.take (64 * (ms.length + 2)) ms == some []

end BraceScript.Code
