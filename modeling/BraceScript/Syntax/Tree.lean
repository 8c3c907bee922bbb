import BraceScript.Syntax.Token

/-!
# Syntax trees

The tree of a source file: `using` lines and classes, a class with its members, statements and
expressions. A tree keeps the tokens that carry a text or a place. Parentheses are kept too, as
`Expr.group`, so that a tree says exactly how its source was written.
-/

namespace BraceScript.Syntax

/-! ## Expressions -/

/-- An operator between two operands. -/
inductive BinaryOp
  | or | and | eq | ne | lt | le | gt | ge | add | sub | mul | div | mod
  deriving DecidableEq, Repr

/-- How tightly an operator binds. -/
def BinaryOp.level : BinaryOp → Nat
  | .or => 1
  | .and => 2
  | .eq | .ne => 3
  | .lt | .le | .gt | .ge => 4
  | .add | .sub => 5
  | .mul | .div | .mod => 6

/-- An operator in front of its operand. -/
inductive UnaryOp
  | not | neg
  deriving DecidableEq, Repr

/-- An expression. -/
inductive Expr
  | number (token : Token)
  | string (token : Token)
  | char (token : Token)
  | true
  | false
  | null
  | this
  | name (token : Token)
  | group (inner : Expr)
  | member (target : Expr) (name : Token)
  | call (callee : Expr) (arguments : List Expr)
  | index (target : Expr) (place : Expr)
  | unary (op : UnaryOp) (operand : Expr)
  | binary (op : BinaryOp) (left right : Expr)
  | choice (condition whenTrue whenFalse : Expr)
  | newObject (type : Token) (arguments : List Expr)
  | newArray (type : Token) (size : Expr)
  | elements (type : Token) (items : List Expr)
  deriving Repr

/-! ## Statements -/

/-- A type: a name and a number of array ranks. -/
structure TypeRef where
  name : Token
  rank : Nat
  deriving DecidableEq, Repr

/-- The declaration of a variable. -/
structure Declaration where
  type : TypeRef
  name : Token
  value : Option Expr
  deriving Repr

/-- A place that can be assigned to. -/
inductive Target
  | name (token : Token)
  | member (target : Expr) (name : Token)
  | index (target : Expr) (place : Expr)
  deriving Repr

/-- What an assignment does with the old value. -/
inductive AssignOp
  | set | add | sub | mul | div | mod
  deriving DecidableEq, Repr

/-- A step up or down by one. -/
inductive StepOp
  | increment | decrement
  deriving DecidableEq, Repr

/-- What comes first in the head of a `for` loop. -/
inductive ForInit
  | declare (declaration : Declaration)
  | assign (target : Target) (op : AssignOp) (value : Expr)
  deriving Repr

/-- What comes last in the head of a `for` loop. -/
inductive ForStep
  | assign (target : Target) (op : AssignOp) (value : Expr)
  | step (target : Target) (op : StepOp)
  | expr (value : Expr)
  deriving Repr

/-- The filter of a handler: the type it catches and a name for what is caught. -/
structure CatchFilter where
  type : Token
  name : Option Token
  deriving Repr

mutual

/-- A statement. -/
inductive Stmt
  | declare (declaration : Declaration)
  | assign (target : Target) (op : AssignOp) (value : Expr)
  | step (target : Target) (op : StepOp)
  | ite (condition : Expr) (body : List Stmt) (otherwise : Else)
  | while (condition : Expr) (body : List Stmt)
  | for (init : Option ForInit) (condition : Option Expr) (step : Option ForStep)
      (body : List Stmt)
  | foreach (type : TypeRef) (name : Token) (items : Expr) (body : List Stmt)
  | ret (value : Option Expr)
  | brk
  | cont
  | throw (value : Option Expr)
  | attempt (body : List Stmt) (handlers : List Handler) (cleanup : Option (List Stmt))
  | expr (value : Expr)
  | block (body : List Stmt)

/-- What follows the first branch of a conditional. -/
inductive Else
  | none
  | block (body : List Stmt)
  | elseIf (condition : Expr) (body : List Stmt) (otherwise : Else)

/-- A handler of a guarded block. -/
inductive Handler
  | mk (filter : Option CatchFilter) (body : List Stmt)

end

/-! ## Classes -/

/-- A parameter. -/
structure Param where
  type : TypeRef
  name : Token
  deriving Repr

/-- A member of a class. -/
inductive Member
  | field (modifiers : List Token) (declaration : Declaration)
  | method (modifiers : List Token) (type : TypeRef) (name : Token) (params : List Param)
      (body : List Stmt)
  | constructor (modifiers : List Token) (name : Token) (params : List Param) (body : List Stmt)

/-- The head of a class. -/
structure ClassHead where
  modifiers : List Token
  name : Token
  base : Option Token
  deriving Repr

/-- A class. -/
structure ClassDecl extends ClassHead where
  members : List Member

/-- A source file: the names on its `using` lines, and its classes. -/
structure SourceFile where
  usings : List (List Token)
  classes : List ClassDecl

end BraceScript.Syntax
