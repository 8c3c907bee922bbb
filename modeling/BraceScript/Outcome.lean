import BraceScript.Text.Quoted

/-!
# Outcomes

What a stage of a run gives to the next one: something, or the lines that say why there is
nothing.
-/

namespace BraceScript

/-- Something, or the lines that say why there is nothing. -/
abbrev Outcome (α : Type) := Except (List String) α

namespace Outcome

variable {α : Type}

/-- The text that shows an outcome, from the text that shows what it holds. -/
def shown (showing : α → String) : Outcome α → String
  | .ok a => "Ok(" ++ showing a ++ ")"
  | .error lines => "Err(" ++ Text.quotedList lines ++ ")"

/-- The lines of an outcome as one text, if it holds nothing else. -/
def text? : Outcome α → Option String
  | .ok _ => none
  | .error lines => some ("\n".intercalate lines)

/-- What an outcome holds, for those who rely on it, or the text of the exception for them. -/
def demand : Outcome α → Except String α
  | .ok a => .ok a
  | .error lines => .error ("Called unwrap() on Err: " ++ "; ".intercalate lines)

end Outcome

end BraceScript
