import BraceScript.Code.Basic

/-!
# The text of generated code

Code is printed one statement a line, with four blanks for each level of indentation. The parts
of a class, its functions and the group of its fields, are set apart by empty lines, and a class
without parts has the single statement `pass`.
-/

namespace BraceScript.Code

/-- The text of a binary operator. -/
def BinaryOp.text : BinaryOp → String
  | .or => "or"
  | .and => "and"
  | .eq => "=="
  | .ne => "!="
  | .lt => "<"
  | .le => "<="
  | .gt => ">"
  | .ge => ">="
  | .sub => "-"
  | .mul => "*"

/-- The text of a unary operator, up to its operand. -/
def UnaryOp.text : UnaryOp → String
  | .not => "not "
  | .neg => "-"

/-- The text of an augmented assignment. -/
def AugmentOp.text : AugmentOp → String
  | .add => "+="
  | .sub => "-="
  | .mul => "*="

mutual

/-- The text of an expression. -/
def Expr.print : Expr → String
  | .name x => x
  | .number n => n
  | .text t => t
  | .true => "True"
  | .false => "False"
  | .none => "None"
  | .group e => "(" ++ e.print ++ ")"
  | .list es => "[" ++ ", ".intercalate (Expr.printAll es) ++ "]"
  | .attr e x => e.print ++ "." ++ x
  | .call f es => f.print ++ "(" ++ ", ".intercalate (Expr.printAll es) ++ ")"
  | .index e i => e.print ++ "[" ++ i.print ++ "]"
  | .unary op e => op.text ++ e.print
  | .binary op l r => l.print ++ " " ++ op.text ++ " " ++ r.print
  | .choose v c o => v.print ++ " if " ++ c.print ++ " else " ++ o.print

/-- The texts of several expressions. -/
def Expr.printAll : List Expr → List String
  | [] => []
  | e :: es => e.print :: Expr.printAll es

end

/-- One more level of indentation; empty lines stay empty. -/
def indent (lines : List String) : List String :=
  lines.map fun l => if l.isEmpty then l else "    " ++ l

/-- A keyword with an optional value behind it. -/
def withValue (keyword : String) : Option Expr → String
  | none => keyword
  | some e => keyword ++ " " ++ e.print

/-- The head of a handler. -/
def handlerHead (type : String) : Option String → String
  | none => "except " ++ type ++ ":"
  | some x => "except " ++ type ++ " as " ++ x ++ ":"

mutual

/-- The lines of a statement. -/
def Stmt.lines : Stmt → List String
  | .pass => ["pass"]
  | .expr e => [e.print]
  | .assign t e => [t.print ++ " = " ++ e.print]
  | .augment t op e => [t.print ++ " " ++ op.text ++ " " ++ e.print]
  | .ret e => [withValue "return" e]
  | .raise e => [withValue "raise" e]
  | .brk => ["break"]
  | .cont => ["continue"]
  | .ite c b t => ("if " ++ c.print ++ ":") :: indent (Stmt.allLines b) ++ t.lines
  | .while c b => ("while " ++ c.print ++ ":") :: indent (Stmt.allLines b)
  | .forIn x e b => ("for " ++ x ++ " in " ++ e.print ++ ":") :: indent (Stmt.allLines b)
  | .attempt b hs none => "try:" :: indent (Stmt.allLines b) ++ Handler.allLines hs
  | .attempt b hs (some f) =>
    "try:" :: indent (Stmt.allLines b) ++ Handler.allLines hs
      ++ "finally:" :: indent (Stmt.allLines f)

/-- The lines of several statements. -/
def Stmt.allLines : List Stmt → List String
  | [] => []
  | s :: ss => s.lines ++ Stmt.allLines ss

/-- The lines of the rest of a conditional. -/
def Tail.lines : Tail → List String
  | .none => []
  | .otherwise b => "else:" :: indent (Stmt.allLines b)
  | .elif c b t => ("elif " ++ c.print ++ ":") :: indent (Stmt.allLines b) ++ t.lines

/-- The lines of handlers. -/
def Handler.allLines : List Handler → List String
  | [] => []
  | .mk t x b :: hs => handlerHead t x :: indent (Stmt.allLines b) ++ Handler.allLines hs

end

/-- The text of a parameter. -/
def Param.print (p : Param) : String :=
  match p.hint with
  | none => p.name
  | some a => p.name ++ ": " ++ a.print

/-- The lines of a function. -/
def Function.lines (f : Function) : List String :=
  let head := "def " ++ f.name ++ "(" ++ ", ".intercalate (f.params.map Param.print) ++ "):"
  (if f.isStatic then ["@staticmethod", head] else [head]) ++ indent (Stmt.allLines f.body)

/-- The parts of a class: one for each function, and one for all fields. -/
def Class.parts (c : Class) : List (List String) :=
  c.functions.map Function.lines
    ++ if c.fields.isEmpty then [] else [c.fields.map fun f => f.1 ++ " = " ++ f.2.print]

/-- The lines of the body of a class. -/
def Class.bodyLines (c : Class) : List String :=
  if c.parts.isEmpty then ["pass"] else ([""] : List String).intercalate c.parts

/-- The head of a class. -/
def Class.header (c : Class) : String :=
  match c.base with
  | none => "class " ++ c.name ++ ":"
  | some b => "class " ++ c.name ++ "(" ++ b ++ "):"

/-- The text of a class. -/
def Class.print (c : Class) : String :=
  "\n".intercalate (c.header :: indent c.bodyLines) ++ "\n"

end BraceScript.Code
