import BraceScript.Eval.Meaning
import BraceScript.Eval.Signature
import BraceScript.Number.Decimal

/-!
# Values as text

A value has a plain text, and a text that shows what kind of value it is, which is used inside
lists. A loaded class can give its objects either. Scripts see a third text, in which null is
empty and whole numbers have no point.
-/

namespace BraceScript.Eval

open Text (Points)

/-- The text of an integer. -/
def intText (n : Int) : Except Fault String :=
  if Number.exceedsLimit n then .error .tooManyDigits else .ok (toString n)

/-- The name of the module that loaded classes belong to. -/
def programName : String := "__csrun__"

/-- Where a class is defined, with a point behind it; built-in classes are defined nowhere. -/
def ClassRef.place : ClassRef → String
  | .core .any => "typing."
  | .core _ => ""
  | .loaded _ => programName ++ "."

/-- The full name of a class. -/
def Store.fullName (s : Store) (c : ClassRef) : String := c.place ++ s.className c

/-! ## Collections -/

/-- A text with commas between its parts. -/
def commas (parts : List Points) : Points := Points.intercalate ", " parts

/-- A text between two others. -/
def between (front : String) (t : Points) (back : String) : Points := (front : Points) ++ t ++ back

/-- The text of a tuple from the texts of its items. -/
def tupleText : List Points → Points
  | [t] => between "(" t ",)"
  | ts => between "(" (commas ts) ")"

/-- The text of a set of a class from the texts of its members. The class of plain sets needs no
name. -/
def setText (type : String) (plain : Bool) : List Points → Points
  | [] => type ++ "()"
  | ts => if plain then between "\x7b" (commas ts) "\x7d"
      else between (type ++ "(\x7b") (commas ts) "\x7d)"

/-- A range from its parts. -/
def rangeText (start stop step : Int) : String :=
  "range(" ++ toString start ++ ", " ++ toString stop
    ++ (if step = 1 then "" else ", " ++ toString step) ++ ")"

/-! ## Exceptions -/

/-- The attribute of an exception. -/
def Instance.field (o : Instance) (name : String) : Value := (o.fields.get? name).getD .null

/-- The last part of a path. -/
def lastPart (path : Points) : Points :=
  ⟨(path.codes.reverse.takeWhile (· != '/'.toNat)).reverse⟩

/-- The text of a syntax error: its message, and where it is as far as that is known. A line
number that is too large is not known. -/
def placedText (message : Points) (file line : Value) : Points :=
  match file, line with
  | .text f, .int n => message ++ between " (" (lastPart f) (", " ++ lineText n ++ ")")
  | .text f, _ => message ++ between " (" (lastPart f) ")"
  | _, .int n => message ++ (" (" ++ lineText n ++ ")" : String)
  | _, _ => message
where
  /-- The number of a line in words. -/
  lineText (n : Int) : String := "line " ++ toString (if fitsIndex n then n else -1)

/-- A code point as an escape. -/
def escapedCode (code : Nat) : String :=
  if code < 0x100 then "\\x" ++ String.ofList (Text.hexDigits 2 code)
  else if code < 0x10000 then "\\u" ++ String.ofList (Text.hexDigits 4 code)
  else "\\U" ++ String.ofList (Text.hexDigits 8 code)

/-- The part of a text that an error about characters is about. -/
def badPart (t : Points) (start stop : Int) : String :=
  match t.codes[start.toNat]? with
  | some c =>
    if 0 ≤ start && stop = start + 1 then
      " character '" ++ escapedCode c ++ "' in position " ++ toString start
    else several
  | none => several
where
  /-- Several characters by their places. -/
  several : String :=
    " characters in position " ++ toString start ++ "-" ++ toString (stop - 1)

/-- The plain text of an exception, from ways to give plain texts and to show values. -/
def exceptionText (core : Core) (o : Instance) (text shown : Value → Calling Points) :
    Calling Points :=
  let is (name : String) : Bool := core.isSubclass (.exception name)
  let plain : Calling Points := do
    match o.arguments with
    | [] => return ""
    | [v] => if is "KeyError" then shown v else text v
    | vs => return tupleText (← vs.mapM shown)
  if is "SyntaxError" then do
    return placedText (← text (o.field "msg")) ((← get).bare (o.field "filename")) (o.field "lineno")
  else if is "OSError" then
    match o.fields.get? "filename", o.fields.get? "filename2" with
    | some f, some g => do
      return (← numbered (o.field "errno") (o.field "strerror")) ++ between ": " (← shown f) " -> "
        ++ (← shown g)
    | some f, none => do
      return (← numbered (o.field "errno") (o.field "strerror")) ++ between ": " (← shown f) ""
    | none, _ =>
      match o.fields.get? "errno", o.fields.get? "strerror" with
      | some n, some r => numbered n r
      | _, _ => plain
  else if is "UnicodeEncodeError" || is "UnicodeTranslateError" then do
    match o.fields.get? "object", o.field "start", o.field "end" with
    | some object, .int a, .int b =>
      if a < 0 && b = a + 1 then fail .brokenText
      let reason ← text (o.field "reason")
      let subject : Points ← if is "UnicodeTranslateError" then pure "can't translate"
        else do pure (between "'" (← text (o.field "encoding")) "' codec can't encode")
      let t := match object with
        | .text t => t
        | _ => Points.empty
      return subject ++ badPart t a b ++ between ": " reason ""
    | _, _, _ => return ""
  else if is "ImportError" then
    match o.field "msg" with
    | .text t => pure t
    | _ => plain
  else if is "BaseExceptionGroup" then do
    match o.field "exceptions" with
    | .tuple vs => return (← text (o.field "message")) ++ between " (" (plural "sub-exception" vs.length) ")"
    | _ => plain
  else plain
where
  /-- A system error with its number in front. -/
  numbered (number reason : Value) : Calling Points := do
    return between "[Errno " (← text number) "] " ++ (← text reason)

/-! ## All values -/

/-- What a member that has to give a text gives, and its text. -/
def givenText (name : String) (f : Value) : Calling (Value × Points) := do
  let r ← call f []
  match (← get).bare r with
  | .text t => return (r, t)
  | _ => fail (.returned name "non-string" ((← get).typeName r))

/-- The text of a member that has to give one. -/
def textFrom (name : String) (f : Value) : Calling Points := return (← givenText name f).2

/-- A type as it is named in hints. -/
def hintPart (s : Store) (shown : Value → Calling Points) : Value → Calling Points
  | .cls c => pure (s.fullName c : Points)
  | .special "Ellipsis" _ => pure "..."
  | .native f => if f.core = .function then pure f.signature.name else shown (.native f)
  | .function p => pure (((s.function p).name.splitOn ".").getLastD "")
  | v => shown v

mutual

/-- The text that shows a value, for values that lie in each other up to a depth. A collection
that lies in itself is cut short; `inside` are the collections around the value. -/
def shownUpTo : Nat → List Value → Value → Calling Points
  | 0, _, _ => pure "..."
  | n + 1, inside, v => do
    let s ← get
    let here := shownUpTo n inside
    match v with
    | .null => return "None"
    | .bool b => return if b then "True" else "False"
    | .int k => return (← check (intText k) : String)
    | .float x _ => return Number.doubleText x
    | .text t => return t.quoted
    | .tuple vs => return tupleText (← vs.mapM here)
    | .range a b c => return rangeText a b c
    | .list p =>
      if (Value.list p).isIn inside then return "[...]"
      let ts ← (s.items p).toList.mapM (shownUpTo n (.list p :: inside))
      return between "[" (commas ts) "]"
    | .dict p =>
      if (Value.dict p).isIn inside then return "\x7b...\x7d"
      let ts ← (s.entries p).toList.mapM fun (k, v) => do
        return (← shownUpTo n (.dict p :: inside) k) ++ between ": "
          (← shownUpTo n (.dict p :: inside) v) ""
      return between "\x7b" (commas ts) "\x7d"
    | .set p => return setText "set" true (← (s.members p).toList.mapM here)
    | .frozenSet p => return setText "frozenset" false (← (s.members p).toList.mapM here)
    | .object p => shownObject n inside p
    | .module p => return "<module '" ++ (s.module p).name ++ "'" ++ (s.module p).source ++ ">"
    | .cls (.core .any) => return "typing.Any"
    | .cls c => return "<class '" ++ s.fullName c ++ "'>"
    | .function p => return "<function " ++ (s.function p).name ++ ">"
    | .native f =>
      return (if f.core = .function then "<function " else "<built-in function ")
        ++ f.signature.name ++ ">"
    | .method w _ => return between "<bound method of " (← here w) ">"
    | .staticMethod f => return between "<staticmethod(" (← here f) ")>"
    | .super c w =>
      return "<super: <class '" ++ s.className c ++ "'>, <" ++ s.className (s.lineStart w)
        ++ " object>>"
    | .listHint => return "typing.List"
    | .hint w => return between "typing.List[" (← hintPart s here w) "]"
    | .nameHint t => return "ForwardRef(" ++ t.quoted ++ ")"
    | .generic c vs =>
      return between (s.fullName c ++ "[") (commas (← vs.mapM (hintPart s here))) "]"
    | .stream _ => return "<_io.StringIO object>"
    | .special name _ => return name

/-- The text that shows an object. -/
def shownObject : Nat → List Value → Nat → Calling Points
  | 0, _, _ => pure "..."
  | n + 1, inside, p => do
    let s ← get
    let o := s.object p
    match s.meaning? (.object p) "__repr__" with
    | some f => textFrom "__repr__" f
    | none =>
      match o.inner with
      | some (.set q) | some (.frozenSet q) =>
        return setText (s.className o.cls) false
          (← (s.members q).toList.mapM (shownUpTo n inside))
      | some v => shownUpTo n inside v
      | none =>
        if s.isException o.cls then
          return between (s.className o.cls ++ "(")
            (commas (← o.arguments.mapM (shownUpTo n inside))) ")"
        else return "<" ++ s.fullName o.cls ++ " object>"

end

/-- How deep values are shown. -/
def Store.shownDepth (s : Store) : Nat :=
  4 * (s.lists.size + s.dicts.size + s.sets.size + s.objects.size) + 100

/-- The text that shows a value. -/
def shown (v : Value) : Calling Points := do shownUpTo (← get).shownDepth [] v

/-- The member that gives the plain text of an object. Texts and exceptions are not shown like other
objects, so it does not matter to them how they are shown. -/
def Store.textMember? (s : Store) (p : Nat) : Option Value :=
  match s.meaning? (.object p) "__str__", (s.object p).inner with
  | some f, _ => some f
  | none, some (.text _) => none
  | none, _ =>
    if s.isException (s.object p).cls then none else s.meaning? (.object p) "__repr__"

/-- The plain text of a value, for exceptions whose arguments are exceptions up to a depth. -/
def textUpTo : Nat → Value → Calling Points
  | _, .text t => pure t
  | n + 1, .object p => do
    let s ← get
    let o := s.object p
    match s.textMember? p, o.inner with
    | some f, _ => textFrom "__str__" f
    | none, some (.text t) => return t
    | none, _ =>
      if s.isException o.cls then exceptionText (s.coreOf o.cls) o (textUpTo n) shown
      else shown (.object p)
  | _, v => shown v

/-- The plain text of a value. -/
def text (v : Value) : Calling Points := do textUpTo (← get).shownDepth v

/-- The plain text of a value, as a value: what a member gives may be an object that holds a text. -/
def toText (v : Value) : Calling Value := do
  match v with
  | .object p =>
    match (← get).textMember? p with
    | some f => return (← givenText "__str__" f).1
    | none => return .text (← text v)
  | v => return .text (← text v)

/-- The text in scripts of a value that is no object. -/
def plainScriptText (v : Value) : Calling Points :=
  match v with
  | .null => pure ""
  | .float x _ =>
    match Number.Double.toInt? x with
    | some n => do return (← check (intText n) : String)
    | none => text v
  | v => text v

end BraceScript.Eval
