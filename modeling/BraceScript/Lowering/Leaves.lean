import BraceScript.Syntax.Tree

/-!
# Names and numbers of a member

The bare names and the numbers of a statement, at any depth, in the order in which they are
written. The checks of a member walk along this list.
-/

namespace BraceScript.Lowering

open Syntax

/-- A bare name or a number. -/
inductive Leaf
  | name (token : Token)
  | number (token : Token)

mutual

/-- The leaves of an expression. -/
def leaves : Expr → List Leaf
  | .number t => [.number t]
  | .name t => [.name t]
  | .group e => leaves e
  | .member e _ => leaves e
  | .call f as => leaves f ++ allLeaves as
  | .index e i => leaves e ++ leaves i
  | .unary _ e => leaves e
  | .binary _ l r => leaves l ++ leaves r
  | .choice c a b => leaves c ++ leaves a ++ leaves b
  | .newObject _ as => allLeaves as
  | .newArray _ n => leaves n
  | .elements _ es => allLeaves es
  | .string _ | .char _ | .true | .false | .null | .this => []

/-- The leaves of several expressions. -/
def allLeaves : List Expr → List Leaf
  | [] => []
  | e :: es => leaves e ++ allLeaves es

end

/-- The leaves of an optional expression. -/
def optionLeaves : Option Expr → List Leaf
  | none => []
  | some e => leaves e

/-- The leaves of a target. -/
def targetLeaves : Target → List Leaf
  | .name t => [.name t]
  | .member e _ => leaves e
  | .index e i => leaves e ++ leaves i

/-- The leaves of the first part of a `for` head. -/
def forInitLeaves : Option ForInit → List Leaf
  | none => []
  | some (.declare d) => optionLeaves d.value
  | some (.assign t _ e) => targetLeaves t ++ leaves e

/-- The leaves of the last part of a `for` head. -/
def forStepLeaves : Option ForStep → List Leaf
  | none => []
  | some (.assign t _ e) => targetLeaves t ++ leaves e
  | some (.step t _) => targetLeaves t
  | some (.expr e) => leaves e

mutual

/-- The leaves of a statement. -/
def stmtLeaves : Stmt → List Leaf
  | .declare d => optionLeaves d.value
  | .assign t _ e => targetLeaves t ++ leaves e
  | .step t _ => targetLeaves t
  | .ite c b r => leaves c ++ bodyLeaves b ++ elseLeaves r
  | .while c b => leaves c ++ bodyLeaves b
  | .for i c s b => forInitLeaves i ++ optionLeaves c ++ forStepLeaves s ++ bodyLeaves b
  | .foreach _ _ e b => leaves e ++ bodyLeaves b
  | .ret e => optionLeaves e
  | .brk | .cont => []
  | .throw e => optionLeaves e
  | .attempt b hs none => bodyLeaves b ++ handlerLeaves hs
  | .attempt b hs (some f) => bodyLeaves b ++ handlerLeaves hs ++ bodyLeaves f
  | .expr e => leaves e
  | .block b => bodyLeaves b

/-- The leaves of statements. -/
def bodyLeaves : List Stmt → List Leaf
  | [] => []
  | s :: ss => stmtLeaves s ++ bodyLeaves ss

/-- The leaves of the rest of a conditional. -/
def elseLeaves : Else → List Leaf
  | .none => []
  | .block b => bodyLeaves b
  | .elseIf c b r => leaves c ++ bodyLeaves b ++ elseLeaves r

/-- The leaves of handlers. -/
def handlerLeaves : List Handler → List Leaf
  | [] => []
  | .mk _ b :: hs => bodyLeaves b ++ handlerLeaves hs

end

end BraceScript.Lowering
