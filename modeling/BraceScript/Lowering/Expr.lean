import BraceScript.Text.Digit
import BraceScript.Lowering.Scope
import BraceScript.Lowering.Types

/-!
# Expressions to code

Each operator becomes an operation in brackets or a call of a helper: `+`, `/` and `%` depend on
the values they meet, so they are left to helpers at run time. A length is asked of a value by
`len`, and the text of a value is made by a helper.
-/

namespace BraceScript.Lowering

open Syntax

/-- The members that ask for a length. -/
def lengthMembers : List String := ["Length", "Count"]

/-- The text of a number: as it is written if it has a point, else without needless zeros. -/
def numberText (text : String) : String :=
  if text.toList.contains '.' then text else toString (Text.digitsValue text.toList)

/-- The code of a binary operator on the codes of its operands. -/
def binaryCode (op : BinaryOp) (l r : Code.Expr) : Code.Expr :=
  match op with
  | .or => .grouped .or l r
  | .and => .grouped .and l r
  | .eq => .grouped .eq l r
  | .ne => .grouped .ne l r
  | .lt => .grouped .lt l r
  | .le => .grouped .le l r
  | .gt => .grouped .gt l r
  | .ge => .grouped .ge l r
  | .add => .apply "_cs_add" [l, r]
  | .sub => .grouped .sub l r
  | .mul => .group (l.times r)
  | .div => .apply "_cs_div" [l, r]
  | .mod => .apply "_cs_mod" [l, r]

/-- The code of a unary operator on the code of its operand. -/
def unaryCode (op : UnaryOp) (e : Code.Expr) : Code.Expr :=
  match op with
  | .not => .group (.unary .not e)
  | .neg => .group e.negated

/-- The code of a member of an expression. -/
def memberCode (e : Code.Expr) (x : String) : Code.Expr :=
  if lengthMembers.contains x then .apply "len" [e] else e.trail (.withAttr (Code.ident x))

/-- The code of a call, where `text` is the value whose text the callee would make. -/
def callCode (text : Option Code.Expr) (callee : Code.Expr) (arguments : List Code.Expr) :
    Code.Expr :=
  match text, arguments with
  | some e, [] => .apply "_cs_str" [e]
  | _, as => callee.trail (.call · as)

mutual

/-- The code of an expression. -/
def codeOf (s : Scope) : Expr → Code.Expr
  | .number t => .number (numberText t.text)
  | .string t => .text t.text
  | .char t => .text t.text
  | .true => .true
  | .false => .false
  | .null => .none
  | .this => .name Code.selfName
  | .name t => s.codeOf t.text
  | .group e => codeOf s e
  | .member e x => memberCode (codeOf s e) x.text
  | .call f as => callCode (textCode s f) (codeOf s f) (codesOf s as)
  | .index e i => (codeOf s e).trail (.index · (codeOf s i))
  | .unary op e => unaryCode op (codeOf s e)
  | .binary op l r => binaryCode op (codeOf s l) (codeOf s r)
  | .choice c a b => .group (.choose (codeOf s a) (codeOf s c) (codeOf s b))
  | .newObject t as => .apply (Code.ident t.text) (codesOf s as)
  | .newArray t n => .binary .mul (.list [defaultValue t.text 0]) (.group (codeOf s n))
  | .elements _ es => .list (codesOf s es)

/-- The codes of several expressions. -/
def codesOf (s : Scope) : List Expr → List Code.Expr
  | [] => []
  | e :: es => codeOf s e :: codesOf s es

/-- The code of the value whose text a callee stands for, if it is a request for a text. -/
def textCode (s : Scope) : Expr → Option Code.Expr
  | .group e => textCode s e
  | .member e x => if x.text == "ToString" then some (codeOf s e) else none
  | _ => none

end

end BraceScript.Lowering
