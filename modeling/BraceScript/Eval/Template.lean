import BraceScript.Eval.Convert

/-!
# Templates

A template is a text with placeholders, each of which is the place of an argument in braces.
`fill` puts the texts of the arguments in; what they hold is never read as a placeholder.
-/

namespace BraceScript.Eval

open Text (Points)

/-- A piece of a template. -/
inductive Piece
  | code (c : Nat)
  | argument (digits : List Nat)
  deriving DecidableEq, Repr

/-- Whether a code point is a decimal digit. -/
def isDigitCode (c : Nat) : Bool := Text.isDigit (Text.charOf c)

/-- The digits of the placeholder whose opening brace stands in front of a text, and what follows
the placeholder. -/
def placeholder? (cs : List Nat) : Option (List Nat × List Nat) :=
  match cs.takeWhile isDigitCode, cs.dropWhile isDigitCode with
  | d :: ds, c :: rest => if c = '\x7d'.toNat then some (d :: ds, rest) else none
  | _, _ => none

theorem length_of_placeholder? {cs ds rest : List Nat} (h : placeholder? cs = some (ds, rest)) :
    rest.length < cs.length := by
  have hlen : (cs.dropWhile isDigitCode).length ≤ cs.length := by
    have := congrArg List.length (List.takeWhile_append_dropWhile (p := isDigitCode) (l := cs))
    simp only [List.length_append] at this
    omega
  unfold placeholder? at h
  split at h
  · rename_i heq
    split at h
    · obtain ⟨-, rfl⟩ : _ ∧ _ = rest := by simpa using h
      have := congrArg List.length heq
      simp only [List.length_cons] at this
      omega
    · simp at h
  · simp at h

/-- The pieces of a template. -/
def pieces (cs : List Nat) : List Piece :=
  match cs with
  | [] => []
  | c :: cs =>
    if c = '\x7b'.toNat then
      match h : placeholder? cs with
      | some (ds, rest) =>
        have := length_of_placeholder? h
        .argument ds :: pieces rest
      | none => .code c :: pieces cs
    else .code c :: pieces cs
termination_by cs.length

/-- The number that digits write, if it may be read. -/
def readNumber (digits : List Nat) : Except Fault Nat :=
  if Number.digitLimit < digits.length then .error (.tooManyDigitsRead digits.length)
  else .ok (Text.digitsValue (digits.map Text.charOf))

/-- A template with what a function makes of the digits of its placeholders. The code points
between two placeholders stay together, and null leaves a placeholder empty. -/
def substituted (replace : List Nat → Calling Value) : List Nat → List Piece → Calling (List Value)
  | before, [] => pure (literal before)
  | before, .code c :: ps => substituted replace (c :: before) ps
  | before, .argument ds :: ps => do
    let v ← replace ds
    let rest ← substituted replace [] ps
    return literal before ++ (match v with
      | .null => []
      | v => [v]) ++ rest
where
  /-- The text of code points in reverse, if there are any. -/
  literal : List Nat → List Value
    | [] => []
    | cs => [.text ⟨cs.reverse⟩]

end BraceScript.Eval
