import BraceScript.Code.Literal
import BraceScript.Json.Basic
import BraceScript.Number.Limit

/-!
# Reading structured data

A reader takes a value off the front of a text and gives it with the rest of the text, or a fault
with the rest from where it lies. `JsonValue.parse` reads a whole text; its faults have a line and a
column, which follow from the length of the rest.

Three names are read as numbers without a value, and of several members with one key the last one
counts.
-/

namespace BraceScript.JsonValue

/-- What can be wrong with a text. -/
inductive Fault
  | value | key | colon | comma | extra | mark
  | unterminated | control | escape | codeEscape
  | digits (count : Nat)
  deriving DecidableEq, Repr

/-- The wording of a fault. -/
def Fault.text : Fault → String
  | .value => "Expecting value"
  | .key => "Expecting property name enclosed in double quotes"
  | .colon => "Expecting ':' delimiter"
  | .comma => "Expecting ',' delimiter"
  | .extra => "Extra data"
  | .mark => "Unexpected UTF-8 BOM (decode using utf-8-sig)"
  | .unterminated => "Unterminated string starting at"
  | .control => "Invalid control character at"
  | .escape => "Invalid \\escape"
  | .codeEscape => "Invalid \\uXXXX escape"
  | .digits n => Number.tooLongToRead n

/-- What a reader gives: something, or a fault and the rest of the text from where it lies. -/
abbrev Reading := Except (Fault × List Char)

/-! ## Blanks and texts -/

/-- Whether a character separates tokens. -/
def isSpace (c : Char) : Bool := c = ' ' || c = '\t' || c = '\n' || c = '\r'

/-- A text without the blanks in front. -/
def skipSpace (cs : List Char) : List Char := cs.dropWhile isSpace

/-- The character that a letter behind a backslash stands for. -/
def simpleEscapes : List (Char × Char) := [
  ('"', '"'), ('\\', '\\'), ('/', '/'), ('b', '\x08'), ('f', '\x0c'), ('n', '\n'), ('r', '\r'),
  ('t', '\t')]

/-- Reads the four digits of a code behind its letter. They cannot end the text. -/
def readCode (cs : List Char) : Reading Nat :=
  let (n, v) := Code.takeHex 4 (cs.drop 1)
  if 5 < cs.length && n = 4 then .ok v else .error (.codeEscape, cs)

/-- Whether a code is the first half of a pair. -/
def isHighHalf (n : Nat) : Bool := 0xD800 ≤ n && n < 0xDC00

/-- Whether a code is the second half of a pair. -/
def isLowHalf (n : Nat) : Bool := 0xDC00 ≤ n && n < 0xE000

/-- The code that two halves make up. -/
def joinHalves (high low : Nat) : Nat := 0x10000 + (high - 0xD800) * 0x400 + (low - 0xDC00)

/-- Reads a code escape from its letter on: its code point, and how many characters it takes up. Two
halves of a pair in a row are one code point. -/
def readCodeEscape (cs : List Char) : Reading (Nat × Nat) := do
  let high ← readCode cs
  let rest := cs.drop 5
  match rest with
  | '\\' :: 'u' :: _ =>
    if isHighHalf high && 6 < rest.length then
      let low ← readCode (rest.drop 1)
      if isLowHalf low then return (joinHalves high low, 11)
      else return (high, 5)
    else return (high, 5)
  | _ => return (high, 5)

/-- Reads a text behind its opening quote. `start` is the text from that quote on, and the first
argument bounds the number of steps. -/
def readText (start : List Char) : Nat → List Char → Reading (List Nat × List Char)
  | 0, _ | _, [] => .error (.unterminated, start)
  | n + 1, c :: cs =>
    if c = '"' then .ok ([], cs)
    else if c = '\\' then
      match cs with
      | [] => .error (.unterminated, start)
      | 'u' :: _ => do
        let (d, taken) ← readCodeEscape cs
        let (ds, rest) ← readText start n (cs.drop taken)
        return (d :: ds, rest)
      | e :: after =>
        match simpleEscapes.lookup e with
        | none => .error (.escape, c :: cs)
        | some d => do
          let (ds, rest) ← readText start n after
          return (d.toNat :: ds, rest)
    else if c.toNat < 32 then .error (.control, c :: cs)
    else do
      let (ds, rest) ← readText start n cs
      return (c.toNat :: ds, rest)

/-! ## Numbers and constants -/

/-- The digits at the start of a text. -/
def digits (cs : List Char) : List Char := cs.takeWhile Char.isDigit

/-- The digits in front of the point of a number: a zero alone, or digits without a zero in
front. -/
def wholeDigits : List Char → List Char
  | '0' :: _ => ['0']
  | cs => digits cs

/-- The digits of a fraction with its point, if there is one. -/
def fractionDigits : List Char → List Char
  | '.' :: cs => digits cs
  | _ => []

/-- The characters of an exponent, if there is one: its letter, its sign and its digits. -/
def exponentPart : List Char → List Char
  | c :: cs =>
    if c = 'e' || c = 'E' then
      let sign := match cs with
        | '+' :: _ => ['+']
        | '-' :: _ => ['-']
        | _ => []
      let ds := digits (cs.drop sign.length)
      if ds.isEmpty then [] else c :: sign ++ ds
    else []
  | [] => []

/-- Reads a number. -/
def readNumber (cs : List Char) : Reading (JsonValue × List Char) :=
  let sign := if cs.head? = some '-' then ['-'] else []
  let behind := cs.drop sign.length
  let whole := wholeDigits behind
  if whole.isEmpty then .error (.value, cs)
  else
    let rest := behind.drop whole.length
    let fraction := fractionDigits rest
    let point := if fraction.isEmpty then [] else '.' :: fraction
    let rest := rest.drop point.length
    let exponent := exponentPart rest
    let rest := rest.drop exponent.length
    if point.isEmpty && exponent.isEmpty then
      if Number.digitLimit < whole.length then .error (.digits whole.length, cs)
      else .ok (.int (Number.Double.signed (!sign.isEmpty) (Text.digitsValue whole)), rest)
    else
      let text := String.ofList (sign ++ whole ++ point ++ exponent)
      .ok (.float ((Number.readDouble? text).getD 0), rest)

/-- The words that stand for a value. -/
def constants : List (String × JsonValue) := [
  ("null", .null), ("true", .bool true), ("false", .bool false), ("NaN", .float (0.0 / 0.0)),
  ("Infinity", .float (1.0 / 0.0)), ("-Infinity", .float (-1.0 / 0.0))]

/-- Reads a word or a number. -/
def readPlain (cs : List Char) : Reading (JsonValue × List Char) :=
  match constants.find? fun e => e.1.toList.isPrefixOf cs with
  | some (w, j) => .ok (j, cs.drop w.length)
  | none => readNumber cs

/-! ## Values -/

/-- The members of an object. -/
abbrev Members := Bindings JsonValue Text.Points

mutual

/-- Reads a value; the first argument bounds the number of steps. -/
def readValue : Nat → List Char → Reading (JsonValue × List Char)
  | 0, cs => .error (.value, cs)
  | _, [] => .error (.value, [])
  | n + 1, c :: cs =>
    if c = '"' then do
      let (t, rest) ← readText (c :: cs) (cs.length + 1) cs
      return (.text ⟨t⟩, rest)
    else if c = '\x7b' then
      match skipSpace cs with
      | '\x7d' :: rest => .ok (.object [], rest)
      | cs => do
        let (ms, rest) ← readMembers n [] cs
        return (.object ms, rest)
    else if c = '[' then
      match skipSpace cs with
      | ']' :: rest => .ok (.list [], rest)
      | cs => do
        let (js, rest) ← readItems n cs
        return (.list js, rest)
    else readPlain (c :: cs)

/-- Reads the items of a list up to its end. -/
def readItems : Nat → List Char → Reading (List JsonValue × List Char)
  | 0, cs => .error (.value, cs)
  | n + 1, cs => do
    let (j, rest) ← readValue n cs
    match skipSpace rest with
    | ']' :: rest => return ([j], rest)
    | ',' :: rest => do
      let (js, rest) ← readItems n (skipSpace rest)
      return (j :: js, rest)
    | rest => .error (.comma, rest)

/-- Reads the members of an object up to its end, behind those that were read before. -/
def readMembers : Nat → Members → List Char → Reading (Members × List Char)
  | 0, _, cs => .error (.value, cs)
  | n + 1, before, cs =>
    match cs with
    | '"' :: after => do
      let (key, rest) ← readText cs (after.length + 1) after
      match skipSpace rest with
      | ':' :: rest => do
        let (j, rest) ← readValue n (skipSpace rest)
        let members := before.put ⟨key⟩ j
        match skipSpace rest with
        | '\x7d' :: rest => return (members, rest)
        | ',' :: rest => readMembers n members (skipSpace rest)
        | rest => .error (.comma, rest)
      | rest => .error (.colon, rest)
    | cs => .error (.key, cs)

end

/-! ## Whole texts -/

/-- A fault with its place in a text. -/
structure Error where
  fault : Fault
  line : Nat
  column : Nat
  offset : Nat
  deriving DecidableEq, Repr

/-- The wording of a fault with its place. -/
def Error.message (e : Error) : String :=
  e.fault.text ++ ": line " ++ toString e.line ++ " column " ++ toString e.column
    ++ " (char " ++ toString e.offset ++ ")"

/-- A fault that lies where the rest of a text begins. -/
def errorAt (cs : List Char) (f : Fault) (rest : List Char) : Error :=
  let offset := cs.length - rest.length
  let before := cs.take offset
  ⟨f, before.count '\n' + 1, (before.reverse.takeWhile (· != '\n')).length + 1, offset⟩

/-- Reads a whole text. -/
def parse (cs : List Char) : Except Error JsonValue :=
  if cs.head? = some (Char.ofNat 0xFEFF) then .error (errorAt cs .mark cs)
  else
    match readValue (2 * cs.length + 1) (skipSpace cs) with
    | .error (f, rest) => .error (errorAt cs f rest)
    | .ok (j, rest) =>
      match skipSpace rest with
      | [] => .ok j
      | rest => .error (errorAt cs .extra rest)

end BraceScript.JsonValue
