/-!
# Lines of a text

A file may end its lines with a line feed, a carriage return, or both. `unifyBreaks` turns every
line end into a line feed, `breakLines` takes a text apart at the line feeds, and `lines` leaves
out the empty piece after a final line feed, so that it lists exactly the lines of a file.
-/

namespace BraceScript.Text

/-- Every line end written as one line feed. -/
def unifyBreaks : List Char → List Char
  | [] => []
  | '\r' :: '\n' :: cs => '\n' :: unifyBreaks cs
  | '\r' :: cs => '\n' :: unifyBreaks cs
  | c :: cs => c :: unifyBreaks cs

/-- The pieces of a text between its line feeds; never empty. -/
def breakLines : List Char → List (List Char)
  | [] => [[]]
  | c :: cs =>
    if c = '\n' then [] :: breakLines cs
    else match breakLines cs with
      | [] => [[c]]
      | l :: ls => (c :: l) :: ls

/-- The lines of a text, each without its line feed. -/
def lines (cs : List Char) : List (List Char) :=
  match breakLines cs with
  | [] => []
  | l :: ls => if (l :: ls).getLastD [] = [] then (l :: ls).dropLast else l :: ls

/-- The text that has the given lines, each ended by a line feed. -/
def unlines (ls : List (List Char)) : List Char := ls.flatMap (· ++ ['\n'])

theorem breakLines_ne_nil (cs : List Char) : breakLines cs ≠ [] := by
  cases cs with
  | nil => simp [breakLines]
  | cons c cs =>
    unfold breakLines
    split
    · simp
    · split <;> simp

end BraceScript.Text
