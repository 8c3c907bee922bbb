import BraceScript.Proofs.Lowering.Rewriting
import BraceScript.Proofs.Syntax.Subtrees

/-!
# Names and numbers by outline

The bare names and the numbers of a member, and the variables that it declares, are found in its
outline by the labels of the nodes they stand in (`collect_ofMember`, `memberVariables_ofMember`).
-/

namespace BraceScript.Lowering

open Syntax
open Outline (collect collectAll)

/-- The token of a node that has no other part. -/
def onlyToken : List Outline → Option Token
  | [.leaf t] => some t
  | _ => none

/-- The token that is the second part of a node. -/
def secondToken : List Outline → Option Token
  | _ :: .leaf t :: _ => some t
  | _ => none

/-- The bare name or the number that a node is. -/
def leafAt (label : String) (os : List Outline) : Option Leaf :=
  if label = "name" then (onlyToken os).map .name
  else if label = "number" then (onlyToken os).map .number
  else none

/-- The nodes that declare a variable, which is their second part. -/
def declaringLabels : List String := ["declaration", "foreach_stmt", "catch_filter", "param"]

/-- The variable that a node declares. -/
def variableAt (label : String) (os : List Outline) : Option Token :=
  if label ∈ declaringLabels then secondToken os else none

/-- The token of a leaf. -/
def Leaf.token : Leaf → Token
  | .name t | .number t => t

theorem eq_of_leafAt {l : String} {os : List Outline} {a : Leaf} (h : leafAt l os = some a) :
    os = [.leaf a.token] := by
  have honly {t : Token} (ht : onlyToken os = some t) : os = [.leaf t] := by
    unfold onlyToken at ht
    split at ht <;> cases ht
    rfl
  unfold leafAt at h
  split at h
  · obtain ⟨t, ht, rfl⟩ := Option.map_eq_some_iff.mp h
    exact honly ht
  · split at h
    · obtain ⟨t, ht, rfl⟩ := Option.map_eq_some_iff.mp h
      exact honly ht
    · cases h

/-! ## Leaves -/

@[simp]
theorem leafAt_binary (op : BinaryOp) (os : List Outline) :
    leafAt (Outline.binaryLabel op) os = none := by
  cases op <;> rfl

@[simp]
theorem leafAt_unary (op : UnaryOp) (os : List Outline) :
    leafAt (Outline.unaryLabel op) os = none := by
  cases op <;> rfl

@[simp]
theorem leafAt_assign (op : AssignOp) (os : List Outline) :
    leafAt (Outline.assignLabel op) os = none := by
  cases op <;> rfl

@[simp]
theorem leafAt_step (op : StepOp) (os : List Outline) :
    leafAt (Outline.stepLabel op) os = none := by
  cases op <;> rfl

mutual

theorem collect_ofExpr : ∀ e : Expr, collect leafAt (Outline.ofExpr e) = leaves e
  | .number t | .name t => rfl
  | .string _ | .char _ | .true | .false | .null | .this => rfl
  | .group e => collect_ofExpr e
  | .member e n => by
    simp [Outline.ofExpr, collect, collectAll, leafAt, leaves, collect_ofExpr e]
  | .call f [] => by
    simp [Outline.ofExpr, collect, collectAll, leafAt, leaves, allLeaves, collect_ofExpr f]
  | .call f (a :: as) => by
    simp [Outline.ofExpr, collect, collectAll, leafAt, leaves, collect_ofExpr f,
      collect_ofExprs (a :: as)]
  | .index e i => by
    simp [Outline.ofExpr, collect, collectAll, leafAt, leaves, collect_ofExpr e, collect_ofExpr i]
  | .unary op e => by
    simp [Outline.ofExpr, collect, collectAll, leaves, collect_ofExpr e]
  | .binary op l r => by
    simp [Outline.ofExpr, collect, collectAll, leaves, collect_ofExpr l, collect_ofExpr r]
  | .choice c a b => by
    simp [Outline.ofExpr, collect, collectAll, leafAt, leaves, collect_ofExpr c, collect_ofExpr a,
      collect_ofExpr b]
  | .newObject t [] => rfl
  | .newObject t (a :: as) => by
    simp [Outline.ofExpr, collect, collectAll, leafAt, leaves, collect_ofExprs (a :: as)]
  | .newArray t n => by
    simp [Outline.ofExpr, collect, collectAll, leafAt, leaves, collect_ofExpr n]
  | .elements t [] => rfl
  | .elements t (a :: as) => by
    simp [Outline.ofExpr, collect, collectAll, leafAt, leaves, collect_ofExprs (a :: as)]

theorem collect_ofExprs : ∀ es : List Expr,
    collectAll leafAt (Outline.ofExprs es) = allLeaves es
  | [] => rfl
  | e :: es => by rw [Outline.ofExprs, collectAll, collect_ofExpr e, collect_ofExprs es, allLeaves]

end

theorem collect_ofType {α : Type} {pick : String → List Outline → Option α} (t : TypeRef)
    (hpick : ∀ os, pick "type_ref" os = none) (hrank : pick "array_rank" [] = none) :
    collect pick (Outline.ofType t) = [] := by
  have hranks : collectAll pick (List.replicate t.rank (.node "array_rank" [])) = [] := by
    rw [Outline.collectAll_eq_flatMap, List.flatMap_eq_nil_iff]
    intro o ho
    rw [List.eq_of_mem_replicate ho]
    simp [collect, collectAll, hrank]
  simp [Outline.ofType, collect, collectAll, hpick, hranks]

@[simp]
theorem leaves_ofType (t : TypeRef) : collect leafAt (Outline.ofType t) = [] :=
  collect_ofType t (fun _ => rfl) rfl

@[simp]
theorem leaves_ofOption (e : Option Expr) :
    collect leafAt (Outline.ofOption Outline.ofExpr e) = optionLeaves e := by
  cases e with
  | none => rfl
  | some e => exact collect_ofExpr e

@[simp]
theorem leaves_ofDeclaration (d : Declaration) :
    collect leafAt (Outline.ofDeclaration d) = optionLeaves d.value := by
  simp [Outline.ofDeclaration, collect, collectAll, leafAt]

@[simp]
theorem leaves_ofTarget (t : Target) :
    collect leafAt (Outline.ofTarget t) = targetLeaves t := by
  cases t with
  | name t => rfl
  | member e x =>
    simp [Outline.ofTarget, collect, collectAll, leafAt, targetLeaves, collect_ofExpr e]
  | index e i =>
    simp [Outline.ofTarget, collect, collectAll, leafAt, targetLeaves, collect_ofExpr e,
      collect_ofExpr i]

@[simp]
theorem leaves_ofAssign (t : Target) (op : AssignOp) (e : Expr) :
    collect leafAt (Outline.ofAssign t op e) = targetLeaves t ++ leaves e := by
  simp [Outline.ofAssign, collect, collectAll, collect_ofExpr e]

@[simp]
theorem leaves_ofStep (t : Target) (op : StepOp) :
    collect leafAt (Outline.ofStep t op) = targetLeaves t := by
  simp [Outline.ofStep, collect, collectAll]

@[simp]
theorem leaves_ofForInit (i : Option ForInit) :
    collect leafAt (Outline.ofOption Outline.ofForInit i) = forInitLeaves i := by
  match i with
  | none => rfl
  | some (.declare d) => exact leaves_ofDeclaration d
  | some (.assign t op e) => exact leaves_ofAssign t op e

@[simp]
theorem leaves_ofForStep (st : Option ForStep) :
    collect leafAt (Outline.ofOption Outline.ofForStep st) = forStepLeaves st := by
  match st with
  | none => rfl
  | some (.assign t op e) => exact leaves_ofAssign t op e
  | some (.step t op) => exact leaves_ofStep t op
  | some (.expr e) => exact collect_ofExpr e

@[simp]
theorem leaves_ofFilter (f : Option CatchFilter) :
    collect leafAt (Outline.ofOption Outline.ofFilter f) = [] := by
  match f with
  | none | some ⟨t, none⟩ | some ⟨t, some x⟩ => rfl

/-- What is picked from a guarded block. -/
theorem collect_attempt {α : Type} {pick : String → List Outline → Option α}
    (htry : ∀ os, pick "try_stmt" os = none) (hblock : ∀ os, pick "block" os = none)
    (hfinally : ∀ os, pick "finally_clause" os = none) (b : List Stmt) (hs : List Handler)
    (f : Option (List Stmt)) :
    collect pick (Outline.ofStmt (.attempt b hs f)) = collectAll pick (Outline.ofStmts b)
      ++ collectAll pick (Outline.ofHandlers hs)
      ++ (f.map fun f => collectAll pick (Outline.ofStmts f)).getD [] := by
  cases hs <;> cases f <;>
    simp [Outline.ofStmt, Outline.ofHandlers, collect, collectAll, htry, hblock, hfinally]

mutual

theorem collect_ofStmt : ∀ s : Stmt, collect leafAt (Outline.ofStmt s) = stmtLeaves s
  | .declare _ | .assign .. | .step .. | .ret _ | .throw _ => by
    simp [Outline.ofStmt, collect, collectAll, leafAt, stmtLeaves]
  | .brk | .cont => rfl
  | .expr e => by simp [Outline.ofStmt, collect, collectAll, leafAt, stmtLeaves, collect_ofExpr e]
  | .ite c b r => by
    simp [Outline.ofStmt, collect, collectAll, leafAt, stmtLeaves, collect_ofExpr c,
      collect_ofStmts b, collect_ofElse r]
  | .while c b => by
    simp [Outline.ofStmt, collect, collectAll, leafAt, stmtLeaves, collect_ofExpr c,
      collect_ofStmts b]
  | .for i c st b => by
    simp [Outline.ofStmt, collect, collectAll, leafAt, stmtLeaves, collect_ofStmts b]
  | .foreach t x e b => by
    simp [Outline.ofStmt, collect, collectAll, leafAt, stmtLeaves, collect_ofExpr e,
      collect_ofStmts b]
  | .attempt b hs none => by
    rw [collect_attempt (fun _ => rfl) (fun _ => rfl) (fun _ => rfl), collect_ofStmts b,
      collect_ofHandlers hs, stmtLeaves]
    simp
  | .attempt b hs (some f) => by
    rw [collect_attempt (fun _ => rfl) (fun _ => rfl) (fun _ => rfl), collect_ofStmts b,
      collect_ofHandlers hs, Option.map_some, Option.getD_some, collect_ofStmts f, stmtLeaves]
  | .block b => by
    simp [Outline.ofStmt, collect, leafAt, stmtLeaves, collect_ofStmts b]

/-- The bare names and the numbers of statements are the ones in their outlines. -/
theorem collect_ofStmts : ∀ ss : List Stmt, collectAll leafAt (Outline.ofStmts ss) = bodyLeaves ss
  | [] => rfl
  | s :: ss => by rw [Outline.ofStmts, collectAll, collect_ofStmt s, collect_ofStmts ss, bodyLeaves]

theorem collect_ofElse : ∀ r : Else, collect leafAt (Outline.ofElse r) = elseLeaves r
  | .none => rfl
  | .block b => by
    simp [Outline.ofElse, collect, collectAll, leafAt, elseLeaves, collect_ofStmts b]
  | .elseIf c b r => by
    simp [Outline.ofElse, collect, collectAll, leafAt, elseLeaves, collect_ofExpr c,
      collect_ofStmts b, collect_ofElse r]

theorem collect_ofHandlers : ∀ hs : List Handler,
    collectAll leafAt (Outline.ofHandlers hs) = handlerLeaves hs
  | [] => rfl
  | .mk f b :: hs => by
    simp [Outline.ofHandlers, collect, collectAll, leafAt, handlerLeaves, collect_ofStmts b,
      collect_ofHandlers hs]

end

/-! ## Members -/

/-- The bare names and the numbers of a member. -/
def memberLeaves : Member → List Leaf
  | .field _ d => optionLeaves d.value
  | .method _ _ _ _ b | .constructor _ _ _ b => bodyLeaves b

theorem collect_ofModifiers {α : Type} {pick : String → List Outline → Option α} (ms : List Token)
    (hpick : ∀ os, pick "modifiers" os = none) :
    collect pick (Outline.ofModifiers ms) = [] := by
  have hleaves : collectAll pick (ms.map .leaf) = [] := by
    rw [Outline.collectAll_eq_flatMap, List.flatMap_eq_nil_iff]
    intro o ho
    obtain ⟨t, -, rfl⟩ := List.mem_map.mp ho
    rw [collect]
  rw [Outline.ofModifiers, collect, hpick, hleaves]
  rfl

theorem leaves_ofParams (ps : List Param) :
    collect leafAt (Outline.ofList "params" Outline.ofParam ps) = [] := by
  have hparams : collectAll leafAt (ps.map Outline.ofParam) = [] := by
    rw [Outline.collectAll_eq_flatMap, List.flatMap_eq_nil_iff]
    intro o ho
    obtain ⟨p, -, rfl⟩ := List.mem_map.mp ho
    simp [Outline.ofParam, collect, collectAll, leafAt]
  unfold Outline.ofList
  split
  · rfl
  · simp [collect, leafAt, hparams]

/-- The bare names and the numbers of a member are the ones in its outline. -/
theorem collect_ofMember (m : Member) : collect leafAt (Outline.ofMember m) = memberLeaves m := by
  have hmodifiers (ms : List Token) : collect leafAt (Outline.ofModifiers ms) = [] :=
    collect_ofModifiers ms fun _ => rfl
  cases m with
  | field ms d => simp [Outline.ofMember, collect, collectAll, leafAt, memberLeaves, hmodifiers]
  | method ms t n ps b =>
    simp [Outline.ofMember, collect, collectAll, leafAt, memberLeaves, hmodifiers, leaves_ofParams,
      collect_ofStmts]
  | constructor ms n ps b =>
    simp [Outline.ofMember, collect, collectAll, leafAt, memberLeaves, hmodifiers, leaves_ofParams,
      collect_ofStmts]

/-! ## Variables -/

@[simp]
theorem variableAt_binary (op : BinaryOp) (os : List Outline) :
    variableAt (Outline.binaryLabel op) os = none := by
  cases op <;> rfl

@[simp]
theorem variableAt_unary (op : UnaryOp) (os : List Outline) :
    variableAt (Outline.unaryLabel op) os = none := by
  cases op <;> rfl

@[simp]
theorem variableAt_assign (op : AssignOp) (os : List Outline) :
    variableAt (Outline.assignLabel op) os = none := by
  cases op <;> rfl

@[simp]
theorem variableAt_step (op : StepOp) (os : List Outline) :
    variableAt (Outline.stepLabel op) os = none := by
  cases op <;> rfl

mutual

/-- No variable is declared in an expression. -/
theorem variables_ofExpr : ∀ e : Expr, collect variableAt (Outline.ofExpr e) = []
  | .number _ | .name _ | .string _ | .char _ | .true | .false | .null | .this => rfl
  | .group e => variables_ofExpr e
  | .member e n => by
    simp [Outline.ofExpr, collect, collectAll, variableAt, declaringLabels, variables_ofExpr e]
  | .call f [] => by
    simp [Outline.ofExpr, collect, collectAll, variableAt, declaringLabels, variables_ofExpr f]
  | .call f (a :: as) => by
    simp [Outline.ofExpr, collect, collectAll, variableAt, declaringLabels, variables_ofExpr f,
      variables_ofExprs (a :: as)]
  | .index e i => by
    simp [Outline.ofExpr, collect, collectAll, variableAt, declaringLabels, variables_ofExpr e,
      variables_ofExpr i]
  | .unary op e => by
    simp [Outline.ofExpr, collect, collectAll, variables_ofExpr e]
  | .binary op l r => by
    simp [Outline.ofExpr, collect, collectAll, variables_ofExpr l, variables_ofExpr r]
  | .choice c a b => by
    simp [Outline.ofExpr, collect, collectAll, variableAt, declaringLabels, variables_ofExpr c,
      variables_ofExpr a, variables_ofExpr b]
  | .newObject t [] => rfl
  | .newObject t (a :: as) => by
    simp [Outline.ofExpr, collect, collectAll, variableAt, declaringLabels,
      variables_ofExprs (a :: as)]
  | .newArray t n => by
    simp [Outline.ofExpr, collect, collectAll, variableAt, declaringLabels, variables_ofExpr n]
  | .elements t [] => rfl
  | .elements t (a :: as) => by
    simp [Outline.ofExpr, collect, collectAll, variableAt, declaringLabels,
      variables_ofExprs (a :: as)]

theorem variables_ofExprs : ∀ es : List Expr, collectAll variableAt (Outline.ofExprs es) = []
  | [] => rfl
  | e :: es => by rw [Outline.ofExprs, collectAll, variables_ofExpr e, variables_ofExprs es]; rfl

end

@[simp]
theorem variables_ofType (t : TypeRef) : collect variableAt (Outline.ofType t) = [] :=
  collect_ofType t (fun _ => rfl) rfl

@[simp]
theorem variables_ofOption (e : Option Expr) :
    collect variableAt (Outline.ofOption Outline.ofExpr e) = [] := by
  cases e with
  | none => rfl
  | some e => exact variables_ofExpr e

@[simp]
theorem variables_ofDeclaration (d : Declaration) :
    collect variableAt (Outline.ofDeclaration d) = [d.name] := by
  simp [Outline.ofDeclaration, collect, collectAll, variableAt, declaringLabels, secondToken]

@[simp]
theorem variables_ofTarget (t : Target) : collect variableAt (Outline.ofTarget t) = [] := by
  cases t <;> simp [Outline.ofTarget, collect, collectAll, variableAt, declaringLabels,
    variables_ofExpr]

@[simp]
theorem variables_ofAssign (t : Target) (op : AssignOp) (e : Expr) :
    collect variableAt (Outline.ofAssign t op e) = [] := by
  simp [Outline.ofAssign, collect, collectAll, variables_ofExpr]

@[simp]
theorem variables_ofStep (t : Target) (op : StepOp) :
    collect variableAt (Outline.ofStep t op) = [] := by
  simp [Outline.ofStep, collect, collectAll]

@[simp]
theorem variables_ofForInit (i : Option ForInit) :
    (collect variableAt (Outline.ofOption Outline.ofForInit i)).map (·.text)
      = forInitVariables i := by
  match i with
  | none => rfl
  | some (.declare d) => exact congrArg (List.map _) (variables_ofDeclaration d)
  | some (.assign t op e) => exact congrArg (List.map _) (variables_ofAssign t op e)

@[simp]
theorem variables_ofForStep (st : Option ForStep) :
    collect variableAt (Outline.ofOption Outline.ofForStep st) = [] := by
  match st with
  | none => rfl
  | some (.assign t op e) => exact variables_ofAssign t op e
  | some (.step t op) => exact variables_ofStep t op
  | some (.expr e) => exact variables_ofExpr e

@[simp]
theorem variables_ofFilter (f : Option CatchFilter) :
    (collect variableAt (Outline.ofOption Outline.ofFilter f)).map (·.text)
      = filterVariables f := by
  match f with
  | none | some ⟨t, none⟩ | some ⟨t, some x⟩ => rfl

mutual

theorem variables_ofStmt : ∀ s : Stmt,
    (collect variableAt (Outline.ofStmt s)).map (·.text) = declared s
  | .declare _ | .assign .. | .step .. | .ret _ | .throw _ => by
    simp [Outline.ofStmt, collect, collectAll, variableAt, declaringLabels, declared]
  | .brk | .cont => rfl
  | .expr e => by
    simp [Outline.ofStmt, collect, collectAll, variableAt, declaringLabels, declared,
      variables_ofExpr e]
  | .ite c b r => by
    simp [Outline.ofStmt, collect, collectAll, variableAt, declaringLabels, declared,
      variables_ofExpr c, variables_ofStmts b, variables_ofElse r]
  | .while c b => by
    simp [Outline.ofStmt, collect, collectAll, variableAt, declaringLabels, declared,
      variables_ofExpr c, variables_ofStmts b]
  | .for i c st b => by
    simp [Outline.ofStmt, collect, collectAll, variableAt, declaringLabels, declared,
      variables_ofStmts b]
  | .foreach t x e b => by
    simp [Outline.ofStmt, collect, collectAll, variableAt, declaringLabels, secondToken, declared,
      variables_ofExpr e, variables_ofStmts b]
  | .attempt b hs none => by
    rw [collect_attempt (fun _ => rfl) (fun _ => rfl) (fun _ => rfl), declared]
    simp [variables_ofStmts b, variables_ofHandlers hs]
  | .attempt b hs (some f) => by
    rw [collect_attempt (fun _ => rfl) (fun _ => rfl) (fun _ => rfl), declared]
    simp [variables_ofStmts b, variables_ofHandlers hs, variables_ofStmts f]
  | .block b => by
    simp [Outline.ofStmt, collect, variableAt, declaringLabels, declared, variables_ofStmts b]

/-- The variables that statements declare are the ones in their outlines. -/
theorem variables_ofStmts : ∀ ss : List Stmt,
    (collectAll variableAt (Outline.ofStmts ss)).map (·.text) = allDeclared ss
  | [] => rfl
  | s :: ss => by
    rw [Outline.ofStmts, collectAll, List.map_append, variables_ofStmt s, variables_ofStmts ss,
      allDeclared]

theorem variables_ofElse : ∀ r : Else,
    (collect variableAt (Outline.ofElse r)).map (·.text) = elseDeclared r
  | .none => rfl
  | .block b => by
    simp [Outline.ofElse, collect, collectAll, variableAt, declaringLabels, elseDeclared,
      variables_ofStmts b]
  | .elseIf c b r => by
    simp [Outline.ofElse, collect, collectAll, variableAt, declaringLabels, elseDeclared,
      variables_ofExpr c, variables_ofStmts b, variables_ofElse r]

theorem variables_ofHandlers : ∀ hs : List Handler,
    (collectAll variableAt (Outline.ofHandlers hs)).map (·.text) = handlersDeclared hs
  | [] => rfl
  | .mk f b :: hs => by
    simp [Outline.ofHandlers, collect, collectAll, variableAt, declaringLabels, handlersDeclared,
      variables_ofStmts b, variables_ofHandlers hs]

end

theorem variables_ofParams (ps : List Param) :
    (collect variableAt (Outline.ofList "params" Outline.ofParam ps)).map (·.text)
      = ps.map (·.name.text) := by
  have hparams : (collectAll variableAt (ps.map Outline.ofParam)).map (·.text)
      = ps.map (·.name.text) := by
    induction ps with
    | nil => rfl
    | cons p ps ih =>
      simp [collectAll, Outline.ofParam, collect, variableAt, declaringLabels, secondToken, ih]
  cases ps with
  | nil => rfl
  | cons p ps => simpa [Outline.ofList, collect, variableAt, declaringLabels] using hparams

/-- The variables of a member, its parameters and what its body declares, are the ones in its
outline. -/
theorem variables_ofMember (names : ClassNames) (m : Member) :
    (collect variableAt (Outline.ofMember m)).map (·.text) = (memberScope names m).locals := by
  have hmodifiers (ms : List Token) : collect variableAt (Outline.ofModifiers ms) = [] :=
    collect_ofModifiers ms fun _ => rfl
  cases m with
  | field ms d =>
    simp [Outline.ofMember, collect, collectAll, variableAt, declaringLabels, hmodifiers,
      memberScope, fieldScope]
  | method ms t n ps b | constructor ms n ps b =>
    simp [Outline.ofMember, collect, collectAll, variableAt, declaringLabels, hmodifiers,
      variables_ofParams, variables_ofStmts, memberScope, bodyScope, memberVariables]

end BraceScript.Lowering
