import BraceScript.Text.Quoted

/-!
# Code points

A text of a script is a sequence of code points. Unlike a string it can hold surrogates, which are
halves of characters and no characters themselves: escapes can name them. A string is the same
thing as a sequence without surrogates.
-/

namespace BraceScript.Text

/-- A sequence of code points. -/
structure Points where
  codes : List Nat
  deriving DecidableEq, Repr, Inhabited

/-- The character of a code point; a surrogate has none and is replaced. -/
def charOf (code : Nat) : Char :=
  if h : code.isValidChar then Char.ofNatAux code h else '�'

namespace Points

/-- The code points of characters. -/
def ofChars (cs : List Char) : Points := ⟨cs.map Char.toNat⟩

/-- The code points of a string. -/
def ofString (s : String) : Points := ofChars s.toList

instance : Coe String Points := ⟨ofString⟩

/-- The characters of a sequence, with replacements for surrogates. -/
def chars (t : Points) : List Char := t.codes.map charOf

/-- The string of a sequence, with replacements for surrogates. -/
def string (t : Points) : String := String.ofList t.chars

/-- The sequence of no code points. -/
def empty : Points := ⟨[]⟩

/-- Whether a sequence holds no code points. -/
def isEmpty (t : Points) : Bool := t.codes.isEmpty

/-- How many code points a sequence holds. -/
def length (t : Points) : Nat := t.codes.length

instance : Append Points := ⟨fun t u => ⟨t.codes ++ u.codes⟩⟩

/-- The sequences of single code points. -/
def singles (t : Points) : List Points := t.codes.map fun c => ⟨[c]⟩

/-- Sequences one behind the other. -/
def join (ts : List Points) : Points := ⟨ts.flatMap codes⟩

/-- Sequences one behind the other with a separator between them. -/
def intercalate (separator : Points) (ts : List Points) : Points :=
  ⟨separator.codes.intercalate (ts.map codes)⟩

/-- How two sequences compare: by the first code points that differ. -/
def compare (t u : Points) : Ordering := Ord.compare t.codes u.codes

/-- Whether a code point is a surrogate. -/
def isSurrogate (code : Nat) : Bool := 0xD800 ≤ code && code < 0xE000

/-- Whether a sequence holds a surrogate. -/
def hasSurrogate (t : Points) : Bool := t.codes.any isSurrogate

/-- The places of the first surrogate and behind those that follow it, if there is one. -/
def surrogates? (t : Points) : Option (Nat × Nat) :=
  let before := t.codes.takeWhile fun c => !isSurrogate c
  let found := (t.codes.drop before.length).takeWhile isSurrogate
  if found.isEmpty then none else some (before.length, before.length + found.length)

/-- One code point of a quoted text, for the quote in use. -/
def quotedCode (quote : Char) (code : Nat) : List Char :=
  if code.isValidChar then quotedChar quote (charOf code)
  else ['\\', 'u'] ++ hexDigits 4 code

/-- A sequence in quotes. -/
def quoted (t : Points) : String :=
  let q := quoteFor t.chars
  String.ofList (q :: t.codes.flatMap (quotedCode q) ++ [q])

@[simp]
theorem codes_append (t u : Points) : (t ++ u).codes = t.codes ++ u.codes := rfl

@[simp]
theorem codes_join (ts : List Points) : (join ts).codes = ts.flatMap codes := rfl

end Points

end BraceScript.Text
