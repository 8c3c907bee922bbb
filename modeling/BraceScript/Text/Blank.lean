import BraceScript.Text.Ranges

/-!
# Blank characters

A character is blank when it separates words of text: the ASCII layout and separator controls,
the space, and the space, line and paragraph separators of Unicode. Directive targets, leading
lines and numbers in text are trimmed of blank characters.
-/

namespace BraceScript.Text

/-- The blank characters. -/
def blankRanges : Ranges :=
  [(9, 13), (28, 32), (133, 133), (160, 160), (5760, 5760), (8192, 8202), (8232, 8233), (8239, 8239), (8287, 8287), (12288, 12288)]

/-- Whether a character is blank. -/
def isBlank (c : Char) : Bool := blankRanges.contains c.toNat

/-- The characters without the blanks in front. -/
def trimFront (cs : List Char) : List Char := cs.dropWhile isBlank

/-- The characters without the blanks at the end. -/
def trimBack (cs : List Char) : List Char := (cs.reverse.dropWhile isBlank).reverse

/-- The characters without the blanks at both ends. -/
def trim (cs : List Char) : List Char := trimBack (trimFront cs)

/-- A text without the blanks at both ends. -/
def trimmed (s : String) : String := String.ofList (trim s.toList)

end BraceScript.Text
