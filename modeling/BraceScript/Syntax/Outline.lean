import BraceScript.Syntax.Tree

/-!
# Labelled outlines

An outline is a tree of labelled nodes whose leaves are tokens, with an explicit gap wherever an
optional part is absent. It is the form in which a syntax tree is shown. Parentheses, keywords
and signs leave no trace in it.
-/

namespace BraceScript.Syntax

/-- A labelled tree over tokens. -/
inductive Outline
  | node (label : String) (children : List Outline)
  | leaf (token : Token)
  | gap

namespace Outline

/-- An optional part. -/
def ofOption {α : Type} (f : α → Outline) : Option α → Outline
  | none => .gap
  | some a => f a

/-- A list that is a node of its own, or a gap when it is empty. -/
def ofList {α : Type} (label : String) (f : α → Outline) (as : List α) : Outline :=
  if as.isEmpty then .gap else .node label (as.map f)

/-- The label of a binary operator. -/
def binaryLabel : BinaryOp → String
  | .or => "or_op"
  | .and => "and_op"
  | .eq => "eq"
  | .ne => "ne"
  | .lt => "lt"
  | .le => "le"
  | .gt => "gt"
  | .ge => "ge"
  | .add => "add"
  | .sub => "sub"
  | .mul => "mul"
  | .div => "div"
  | .mod => "mod"

/-- The label of a unary operator. -/
def unaryLabel : UnaryOp → String
  | .not => "not_op"
  | .neg => "neg"

/-- The label of an assignment. -/
def assignLabel : AssignOp → String
  | .set => "assign"
  | .add => "add_assign"
  | .sub => "sub_assign"
  | .mul => "mul_assign"
  | .div => "div_assign"
  | .mod => "mod_assign"

/-- The label of a step. -/
def stepLabel : StepOp → String
  | .increment => "increment"
  | .decrement => "decrement"

mutual

/-- The outline of an expression. -/
def ofExpr : Expr → Outline
  | .number t => .node "number" [.leaf t]
  | .string t => .node "string" [.leaf t]
  | .char t => .node "char" [.leaf t]
  | .true => .node "true" []
  | .false => .node "false" []
  | .null => .node "null" []
  | .this => .node "this" []
  | .name t => .node "name" [.leaf t]
  | .group e => ofExpr e
  | .member e n => .node "member" [ofExpr e, .leaf n]
  | .call f [] => .node "call" [ofExpr f, .gap]
  | .call f (a :: as) => .node "call" [ofExpr f, .node "arguments" (ofExprs (a :: as))]
  | .index e i => .node "index" [ofExpr e, ofExpr i]
  | .unary op e => .node (unaryLabel op) [ofExpr e]
  | .binary op l r => .node (binaryLabel op) [ofExpr l, ofExpr r]
  | .choice c a b => .node "ternary" [ofExpr c, ofExpr a, ofExpr b]
  | .newObject t [] => .node "new_object" [.leaf t, .gap]
  | .newObject t (a :: as) => .node "new_object" [.leaf t, .node "arguments" (ofExprs (a :: as))]
  | .newArray t n => .node "new_array" [.leaf t, ofExpr n]
  | .elements t [] => .node "array_literal" [.leaf t, .node "array_rank" [], .gap]
  | .elements t (a :: as) =>
    .node "array_literal" [.leaf t, .node "array_rank" [], .node "arguments" (ofExprs (a :: as))]

/-- The outlines of several expressions. -/
def ofExprs : List Expr → List Outline
  | [] => []
  | e :: es => ofExpr e :: ofExprs es

end

/-- The outline of a type. -/
def ofType (t : TypeRef) : Outline :=
  .node "type_ref" (.leaf t.name :: List.replicate t.rank (.node "array_rank" []))

/-- The outline of a declaration. -/
def ofDeclaration (d : Declaration) : Outline :=
  .node "declaration" [ofType d.type, .leaf d.name, ofOption ofExpr d.value]

/-- The outline of a target. -/
def ofTarget : Target → Outline
  | .name t => .node "name" [.leaf t]
  | .member e n => .node "member" [ofExpr e, .leaf n]
  | .index e i => .node "index" [ofExpr e, ofExpr i]

/-- The outline of an assignment. -/
def ofAssign (t : Target) (op : AssignOp) (e : Expr) : Outline :=
  .node (assignLabel op) [ofTarget t, ofExpr e]

/-- The outline of a step by one. -/
def ofStep (t : Target) (op : StepOp) : Outline := .node (stepLabel op) [ofTarget t]

/-- The outline of the first part of a `for` head. -/
def ofForInit : ForInit → Outline
  | .declare d => ofDeclaration d
  | .assign t op e => ofAssign t op e

/-- The outline of the last part of a `for` head. -/
def ofForStep : ForStep → Outline
  | .assign t op e => ofAssign t op e
  | .step t op => ofStep t op
  | .expr e => ofExpr e

/-- The outline of a filter. -/
def ofFilter (f : CatchFilter) : Outline :=
  .node "catch_filter" [.leaf f.type, ofOption .leaf f.name]

mutual

/-- The outline of a statement. -/
def ofStmt : Stmt → Outline
  | .declare d => .node "local_decl" [ofDeclaration d]
  | .assign t op e => .node "assign_stmt" [ofAssign t op e]
  | .step t op => .node "incdec_stmt" [ofStep t op]
  | .ite c b r => .node "if_stmt" [ofExpr c, .node "block" (ofStmts b), ofElse r]
  | .while c b => .node "while_stmt" [ofExpr c, .node "block" (ofStmts b)]
  | .for i c s b => .node "for_stmt"
      [ofOption ofForInit i, ofOption ofExpr c, ofOption ofForStep s, .node "block" (ofStmts b)]
  | .foreach t n e b => .node "foreach_stmt"
      [ofType t, .leaf n, ofExpr e, .node "block" (ofStmts b)]
  | .ret e => .node "return_stmt" [ofOption ofExpr e]
  | .brk => .node "break_stmt" []
  | .cont => .node "continue_stmt" []
  | .throw e => .node "throw_stmt" [ofOption ofExpr e]
  | .attempt b [] none => .node "try_stmt" [.node "block" (ofStmts b)]
  | .attempt b [] (some f) => .node "try_stmt"
      [.node "block" (ofStmts b), .node "finally_clause" [.node "block" (ofStmts f)]]
  | .attempt b (h :: hs) none => .node "try_stmt"
      (.node "block" (ofStmts b) :: ofHandlers (h :: hs) ++ [.gap])
  | .attempt b (h :: hs) (some f) => .node "try_stmt"
      (.node "block" (ofStmts b) :: ofHandlers (h :: hs)
        ++ [.node "finally_clause" [.node "block" (ofStmts f)]])
  | .expr e => .node "expr_stmt" [ofExpr e]
  | .block b => .node "block" (ofStmts b)

/-- The outlines of several statements. -/
def ofStmts : List Stmt → List Outline
  | [] => []
  | s :: ss => ofStmt s :: ofStmts ss

/-- The outline of the rest of a conditional. -/
def ofElse : Else → Outline
  | .none => .gap
  | .block b => .node "else_block" [.node "block" (ofStmts b)]
  | .elseIf c b r =>
    .node "else_if" [.node "if_stmt" [ofExpr c, .node "block" (ofStmts b), ofElse r]]

/-- The outlines of the handlers of a guarded block. -/
def ofHandlers : List Handler → List Outline
  | [] => []
  | .mk f b :: hs =>
    .node "catch_clause" [ofOption ofFilter f, .node "block" (ofStmts b)] :: ofHandlers hs

end

/-- The outline of a parameter. -/
def ofParam (p : Param) : Outline := .node "param" [ofType p.type, .leaf p.name]

/-- The outline of a list of modifiers. -/
def ofModifiers (ms : List Token) : Outline := .node "modifiers" (ms.map .leaf)

/-- The outline of a member. -/
def ofMember : Member → Outline
  | .field ms d => .node "field_decl"
      [ofModifiers ms, ofType d.type, .leaf d.name, ofOption ofExpr d.value]
  | .method ms t n ps b => .node "method_decl"
      [ofModifiers ms, ofType t, .leaf n, ofList "params" ofParam ps, .node "block" (ofStmts b)]
  | .constructor ms n ps b => .node "ctor_decl"
      [ofModifiers ms, .leaf n, ofList "params" ofParam ps, .node "block" (ofStmts b)]

/-- The outline of a class. -/
def ofClass (c : ClassDecl) : Outline :=
  .node "type_decl" (ofModifiers c.modifiers :: .leaf c.name
    :: ofOption (fun b => .node "base_clause" [.leaf b]) c.base :: c.members.map ofMember)

/-- The outline of a file. -/
def ofFile (f : SourceFile) : Outline :=
  .node "start" (f.usings.map (fun ns => .node "using_directive"
    [.node "qualified_name" (ns.map .leaf)]) ++ f.classes.map ofClass)

end Outline

end BraceScript.Syntax
