/-!
# Generated code

A script class is lowered to a class in an indented language. `Expr`, `Stmt`, `Function` and
`Class` are its syntax as the reader of the generated text sees it: operators carry no hidden
brackets, so a bracket that is needed is an `Expr.group`.

`Expr.trail`, `Expr.times` and `Expr.negated` put a trailer, a factor or a sign on an expression
that may be a product without brackets, and give the expression that the joined text denotes.
-/

namespace BraceScript.Code

/-- An operator between two operands. -/
inductive BinaryOp
  | or | and | eq | ne | lt | le | gt | ge | sub | mul
  deriving DecidableEq, Repr

/-- An operator in front of its operand. -/
inductive UnaryOp
  | not | neg
  deriving DecidableEq, Repr

/-- An expression. -/
inductive Expr
  | name (ident : String)
  | number (text : String)
  | text (literal : String)
  | true
  | false
  | none
  | group (inner : Expr)
  | list (items : List Expr)
  | attr (target : Expr) (name : String)
  | call (callee : Expr) (arguments : List Expr)
  | index (target place : Expr)
  | unary (op : UnaryOp) (operand : Expr)
  | binary (op : BinaryOp) (left right : Expr)
  /-- `value` if `condition` holds, else `other`. -/
  | choose (value condition other : Expr)
  deriving Repr

/-- What an augmented assignment does with the old value. -/
inductive AugmentOp
  | add | sub | mul
  deriving DecidableEq, Repr

mutual

/-- A statement. -/
inductive Stmt
  | pass
  | expr (value : Expr)
  | assign (target value : Expr)
  | augment (target : Expr) (op : AugmentOp) (value : Expr)
  | ret (value : Option Expr)
  | raise (value : Option Expr)
  | brk
  | cont
  | ite (condition : Expr) (body : List Stmt) (tail : Tail)
  | while (condition : Expr) (body : List Stmt)
  | forIn (name : String) (items : Expr) (body : List Stmt)
  | attempt (body : List Stmt) (handlers : List Handler) (cleanup : Option (List Stmt))

/-- What follows the first branch of a conditional. -/
inductive Tail
  | none
  | otherwise (body : List Stmt)
  | elif (condition : Expr) (body : List Stmt) (tail : Tail)

/-- A handler for the exceptions of a class, with a name for what is caught. -/
inductive Handler
  | mk (type : String) (name : Option String) (body : List Stmt)

end

/-- A parameter with the hint of its type. -/
structure Param where
  name : String
  hint : Option Expr
  deriving Repr

/-- A function of a class. -/
structure Function where
  name : String
  params : List Param
  isStatic : Bool
  body : List Stmt

/-- A class: its functions in order, then the values of its own fields. -/
structure Class where
  name : String
  base : Option String
  functions : List Function
  fields : List (String × Expr)

/-! ## Composing expressions -/

namespace Expr

/-- A call of a function by its name. -/
def apply (f : String) (arguments : List Expr) : Expr := .call (.name f) arguments

/-- A binary operation in brackets. -/
def grouped (op : BinaryOp) (l r : Expr) : Expr := .group (.binary op l r)

/-- Adds a trailer behind an expression: it belongs to the last factor of a bare product. -/
def trail (f : Expr → Expr) : Expr → Expr
  | .binary .mul l r => .binary .mul l (r.trail f)
  | e => f e

/-- The product of two expressions, each of which may be a bare product. -/
def times (l : Expr) : Expr → Expr
  | .binary .mul a b => .binary .mul (times l a) b
  | r => .binary .mul l r

/-- An expression with a minus sign in front, which belongs to the first factor of a bare
product. -/
def negated : Expr → Expr
  | .binary .mul a b => .binary .mul (negated a) b
  | e => .unary .neg e

/-- An attribute of an expression. A name behind a whole number and a point is read as the
fraction of the number where it can be: an exponent, an imaginary unit, or both. -/
def withAttr (name : String) : Expr → Expr
  | .number n =>
    if n.toList.all Char.isDigit && isFraction name.toList then .number (n ++ "." ++ name)
    else .attr (.number n) name
  | e => .attr e name
where
  /-- Whether the characters are an exponent, an imaginary unit or both. -/
  isFraction : List Char → Bool
    | [c] => c == 'j' || c == 'J'
    | c :: d :: cs => (c == 'e' || c == 'E') && d.isDigit && exponentRest cs
    | [] => Bool.false
  /-- Whether the characters go on with an exponent to its end. -/
  exponentRest : List Char → Bool
    | [] => Bool.true
    | ['j'] | ['J'] => Bool.true
    | '_' :: d :: cs => d.isDigit && exponentRest cs
    | d :: cs => d.isDigit && exponentRest cs

end Expr

end BraceScript.Code
