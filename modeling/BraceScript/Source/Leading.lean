import BraceScript.Text.Blank

/-!
# The leading section of a source file

A source file may begin with a metadata block, which is no source text: a line that begins with
the opening mark, lines of any kind, a line that begins with the closing mark, and one separator
line. Then come empty lines, comments and directives, in any order, up to the first code.
`Leading.read` takes the lines of a file apart that way. It looks at whole lines: a directive has
to stand at the beginning of a line, or right behind a comment that ends there.
-/

namespace BraceScript.Source

/-! ## Marks -/

/-- The mark that opens a metadata block. -/
def blockOpen : List Char := [':', ':', '\x7b']

/-- The mark that closes a metadata block. -/
def blockClose : List Char := ['\x7d', ':', ':']

/-- What a directive refers to. -/
inductive Tag
  /-- Another script. -/
  | include
  /-- A library. -/
  | import
  deriving DecidableEq, Repr

/-- The text that a directive begins with. -/
def Tag.text : Tag → String
  | .include => "//#include"
  | .import => "//#import"

/-- A directive with its target. -/
structure Directive where
  tag : Tag
  target : String
  deriving DecidableEq, Repr

/-! ## Faults -/

/-- What can be wrong in a leading section. -/
inductive LeadingFault
  /-- A comment that is never closed. -/
  | openComment
  /-- A directive without a target. -/
  | emptyDirective (tag : Tag)
  deriving DecidableEq, Repr

/-- The number of a fault. -/
def LeadingFault.code : LeadingFault → String
  | .openComment => "CR1035"
  | .emptyDirective _ => "CR1037"

/-- The wording of a fault. -/
def LeadingFault.message : LeadingFault → String
  | .openComment => "End-of-file found, '*/' expected"
  | .emptyDirective t => "Directive '" ++ t.text ++ "' requires a target"

/-- A fault at a line and a column. -/
structure LeadingError where
  fault : LeadingFault
  line : Nat
  column : Nat
  deriving DecidableEq, Repr

/-! ## One line -/

/-- What follows the first closing mark of a comment. -/
def afterComment : List Char → Option (List Char)
  | [] => none
  | '*' :: '/' :: cs => some cs
  | _ :: cs => afterComment cs

/-- What follows a comment is shorter. -/
theorem afterComment_length {cs rest : List Char} (h : afterComment cs = some rest) :
    rest.length < cs.length := by
  fun_induction afterComment cs with
  | case1 => simp at h
  | case2 cs =>
    obtain rfl : cs = rest := by simpa using h
    exact Nat.lt_succ_of_lt (Nat.lt_succ_self cs.length)
  | case3 c cs _ ih => exact Nat.lt_succ_of_lt (ih h)

/-- The target behind a tag, when a blank follows the tag. -/
def targetAfter (tag : Tag) (line : List Char) : Option String :=
  if tag.text.toList.isPrefixOf line then
    match line.drop tag.text.length with
    | [] => none
    | c :: cs => if Text.isBlank c then some (String.ofList (Text.trim cs)) else none
  else none

/-- The directive that a line is, if it is one. -/
def directiveOf? (line : List Char) : Option Directive :=
  match targetAfter .import line with
  | some t => some ⟨.import, t⟩
  | none => (targetAfter .include line).map (⟨.include, ·⟩)

/-- What a line of the leading section turns out to be. -/
inductive LineKind
  /-- Empty, a comment or a directive. -/
  | passed (directive : Option Directive)
  /-- A comment begins at a column and goes on below. -/
  | opened (column : Nat)
  /-- Code begins. -/
  | code (text : List Char)
  deriving Repr

/-- The kind of a line. Behind a comment that ends on the line the rest of it is looked at like a
line of its own. -/
def lineKind (line : List Char) : LineKind :=
  match h : Text.trimFront line with
  | [] => .passed none
  | '/' :: '*' :: cs =>
    match hr : afterComment cs with
    | none => .opened (line.length - (cs.length + 2) + 1)
    | some rest => lineKind rest
  | cs =>
    match directiveOf? line with
    | some d => .passed (some d)
    | none => if ['/', '/'].isPrefixOf cs then .passed none else .code line
termination_by line.length
decreasing_by
  have h1 := afterComment_length hr
  have h2 : (Text.trimFront line).length ≤ line.length := by
    unfold Text.trimFront; exact (List.dropWhile_suffix _).length_le
  rw [h] at h2
  simp only [List.length_cons] at h2
  omega

/-! ## Whole sections -/

/-- A leading section. -/
structure Leading where
  /-- Whether there is a metadata block. -/
  hasBlock : Bool
  /-- How many lines come before the line where code begins. -/
  offset : Nat
  /-- The directives in order. -/
  directives : List Directive
  /-- The text from the first code on, line by line; empty when there is no code. -/
  body : List (List Char)
  deriving Repr

/-- The lines behind a metadata block whose opening line is already taken, and how many lines
were left out. -/
def skipBlock : List (List Char) → Nat × List (List Char)
  | [] => (0, [])
  | l :: ls =>
    if blockClose.isPrefixOf l then
      match ls with
      | [] => (1, [])
      | _ :: ls => (2, ls)
    else
      let r := skipBlock ls
      (r.1 + 1, r.2)

/-- The line to look at inside an open comment, or any other line as it is. -/
def visible (comment : Option (Nat × Nat)) (line : List Char) : Option (List Char) :=
  match comment with
  | none => some line
  | some _ => afterComment line

/-- Reads the section from the line after `offset` lines on. `comment` is the place of the comment
that is open there. -/
def readSection (offset : Nat) (comment : Option (Nat × Nat)) :
    List (List Char) → Except LeadingError Leading
  | [] =>
    match comment with
    | none => .ok ⟨false, offset, [], []⟩
    | some (line, column) => .error ⟨.openComment, line, column⟩
  | l :: ls =>
    match visible comment l with
    | none => readSection (offset + 1) comment ls
    | some text =>
      match lineKind text with
      | .code cs => .ok ⟨false, offset, [], cs :: ls⟩
      | .opened column => readSection (offset + 1) (some (offset + 1, column)) ls
      | .passed none => readSection (offset + 1) none ls
      | .passed (some d) =>
        if d.target.isEmpty then .error ⟨.emptyDirective d.tag, offset + 1, 1⟩
        else (readSection (offset + 1) none ls).map fun s =>
          { s with directives := d :: s.directives }

/-- Reads the leading section of a file given by its lines. -/
def Leading.read : List (List Char) → Except LeadingError Leading
  | [] => .ok ⟨false, 0, [], []⟩
  | l :: ls =>
    if blockOpen.isPrefixOf l then
      let r := skipBlock ls
      (readSection (r.1 + 1) none r.2).map fun s => { s with hasBlock := true }
    else readSection 0 none (l :: ls)

end BraceScript.Source
