import BraceScript.Eval.Attribute
import BraceScript.Eval.Operator

/-!
# Reports of exceptions

What is printed about an exception that ends a program: its class and its text, and in front of a
syntax error the place that it names.
-/

namespace BraceScript.Eval

open Text (Points)

/-- Lines, each with a line break at its end. -/
def lineOf (t : Points) : Points := t ++ ("\n" : Points)

/-- The text of an exception, or what stands for it if the exception does not give one. -/
def safeText (e : Value) : Calling Points :=
  ending (text e) fun
    | .error (.raised _) => pure "<exception str() failed>"
    | r => resume r

/-- A line of code without line breaks at its end. -/
def unbroken (cs : List Nat) : List Nat := (cs.reverse.dropWhile (· == '\n'.toNat)).reverse

/-- Whether a code point in front of a line of code is no part of it. -/
def isMargin (c : Nat) : Bool := [' ', '\n', '\x0c'].any fun m => m.toNat == c

/-- The marks under a part of a line, from a place up to another one. Blanks of the line are kept
in front of them. -/
def marks (line : List Nat) (start stop : Nat) : Points :=
  ⟨(line.take start).map (fun c => if Text.isBlank (Text.charOf c) then c else ' '.toNat)
    ++ List.replicate (stop - start) '^'.toNat⟩

/-- The marks of a syntax error under a line without its margin, if it says where they are. -/
def placeMarks? (line : List Nat) (margin : Nat) (offset stop : Value) :
    Calling (Option Points) := do
  match offset with
  | .null => return none
  | offset =>
    let start ← asInteger offset
    let stop ← match stop with
      | .null => pure start
      | v => asInteger v
    let stop := if stop = 0 then start else stop
    let stop := if start = stop || stop = -1 then start + 1 else stop
    let first := start - 1 - margin
    if first < 0 then return none
    else return some (marks line first.toNat (stop - 1 - margin).toNat)

/-- The line of code of a syntax error with its marks. -/
def codeLines (e : Value) : Calling Points := do
  let v ← attrOf e "text"
  match v, (← get).bare v with
  | .null, _ => return Points.empty
  | _, .text t =>
    let whole := unbroken t.codes
    let line := whole.dropWhile isMargin
    let margin := whole.length - line.length
    let marked ← placeMarks? line margin (← attrOf e "offset") (← attrOf e "end_offset")
    return indented ⟨line⟩ ++ (marked.map indented).getD Points.empty
  | v, _ => failAttribute v "rstrip"
where
  /-- A line that is set in. -/
  indented (t : Points) : Points := lineOf (("    " : Points) ++ t)

/-- The lines of a syntax error. -/
def syntaxLines (type : String) (e : Value) : Calling Points := do
  let file ← attrOf e "filename"
  let line ← attrOf e "lineno"
  let (front, back) ← match line, file with
    | .null, .null => pure (Points.empty, Points.empty)
    | .null, f => do pure (Points.empty, between " (" (← text f) ")")
    | l, f => do
      let name : Points ← if ← truth f then text f else pure "<string>"
      pure (lineOf (between "  File \"" name "\", line " ++ (← text l)), Points.empty)
  let code ← codeLines e
  let message ← attrOf e "msg"
  let message : Points ← if ← truth message then text message else pure "<no detail available>"
  return front ++ code ++ lineOf (between (type ++ ": ") message "" ++ back)

/-- The lines that report an exception. -/
def report (e : Value) : Calling Points := do
  let s ← get
  let type := s.fullName (s.classOf e)
  if s.isOneOf e ["SyntaxError"] then syntaxLines type e
  else
    let t ← safeText e
    return lineOf (if t.isEmpty then type else between (type ++ ": ") t "")

end BraceScript.Eval
