import BraceScript.Proofs.Syntax.Operands
import Mathlib

/-!
# What is accepted

Every spelling of a file is accepted, and read as this file (`accepts_ofFile`). Statements are read
by induction over the statements in their blocks: a statement leads from any nest of blocks to the
nest with the statement added.
-/

namespace BraceScript.Syntax

open Spelling

/-! ## Values and targets -/

theorem Use.isTarget_of_complete {u : Use} {e : Expr} {s : State} (h : u.complete e = some s) :
    u.isTarget = false := by
  cases u with
  | forTarget n => cases h
  | _ => rfl

/-- An expression and the sign that ends it. -/
theorem leads_value {u : Use} {e : Expr} {s : State} (h : u.complete e = some s) :
    Leads (.operand u []) (ofExpr e * sign u.closer) s := by
  refine e.isRead.closed rfl ?_ (by cases u <;> rfl) ((if_pos rfl).trans h)
  rw [Use.isTarget_of_complete h]
  exact fun hfalse => nomatch hfalse

/-- The expression that a target is written as. -/
def Target.expr : Target → Expr
  | .name t => .name t
  | .member e n => .member e n
  | .index e i => .index e i

theorem Target.eight_le_level (x : Target) : 8 ≤ x.expr.level := by
  cases x <;> simp [expr, Expr.level]

theorem Target.ofExpr_expr (x : Target) : ofExpr x.expr = ofTarget x := by cases x <;> rfl

theorem leads_target (u : Use) (x : Target) :
    Leads (.operand u []) (ofTarget x) (.after u [] x.expr) :=
  (x.expr.isRead.tight x.eight_le_level u []).of_eq x.ofExpr_expr

/-- A target with the sign of an assignment. -/
theorem leads_assignTo {u v : Use} {x : Target} {op : AssignOp} (h : u.assignTo x op = some v) :
    Leads (.operand u []) (ofTarget x * sign op.sign) (.operand v []) := by
  refine (leads_target u x).trans (.fixed fun y p => ?_)
  have hstep : (State.after u [] x.expr).shift ⟨.sign op.sign, y, p⟩
      = (u.assignTo x op).map (.operand · []) := by cases x <;> cases op <;> rfl
  rw [hstep, h, Option.map_some]

theorem leads_assign {u v : Use} {x : Target} {op : AssignOp} {e : Expr} {s : State}
    (h : u.assignTo x op = some v) (hs : v.complete e = some s) :
    Leads (.operand u []) (ofAssign x op e * sign v.closer) s :=
  ((leads_assignTo h).trans (leads_value hs)).of_eq (mul_assoc _ _ _).symm

theorem leads_step {u : Use} {x : Target} {op : StepOp} {s : State} (h : u.stepOf x op = some s) :
    Leads (.operand u []) (ofStep x op) s := by
  refine (leads_target u x).trans (.fixed fun y p => ?_)
  have hstep : (State.after u [] x.expr).shift ⟨.sign op.sign, y, p⟩ = u.stepOf x op := by
    cases x <;> cases op <;> rfl
  rw [hstep, h]

/-! ## Types and declarations -/

theorem leads_ranks (u : TypeUse) (n : Token) (k r : Nat) :
    Leads (.typed u ⟨n, k⟩) (brackets 1 ^ r) (.typed u ⟨n, k + r⟩) := by
  induction r with
  | zero => exact .refl
  | succ r ih =>
    have hopen : Leads (.typed u ⟨n, k + r⟩) (sign .openBracket) (.rank u ⟨n, k + r⟩) :=
      .fixed fun _ _ => rfl
    have hclose : Leads (.rank u ⟨n, k + r⟩) (sign .closeBracket) (.typed u ⟨n, k + (r + 1)⟩) :=
      .fixed fun _ _ => rfl
    refine (ih.trans (hopen.trans hclose)).of_eq ?_
    rw [pow_succ, brackets, mul_one]

/-- The ranks of a type and a name, where a name or brackets can follow the name of the type. -/
theorem leads_named {s : State} {u : TypeUse} {n : Token}
    (hname : ∀ x p, s.shift ⟨.name, x, p⟩ = some (u.named ⟨n, 0⟩ ⟨.name, x, p⟩))
    (hrank : Leads s (brackets 1) (.typed u ⟨n, 1⟩)) (r : Nat) (x : Token) :
    Leads s (brackets 1 ^ r * name x) (u.named ⟨n, r⟩ x) := by
  cases r with
  | zero =>
    rw [pow_zero, one_mul]
    exact .single (u.named ⟨n, 0⟩) x hname
  | succ r =>
    have hranks := leads_ranks u n 1 r
    have hlast : Leads (.typed u ⟨n, 1 + r⟩) (name x) (u.named ⟨n, 1 + r⟩ x) :=
      .single (u.named ⟨n, 1 + r⟩) x fun _ _ => rfl
    rw [Nat.add_comm 1 r] at hranks hlast
    refine (hrank.trans (hranks.trans hlast)).of_eq ?_
    rw [pow_succ', mul_assoc]

theorem leads_typed (u : TypeUse) (n : Token) (r : Nat) (x : Token) :
    Leads (.typed u ⟨n, 0⟩) (brackets 1 ^ r * name x) (u.named ⟨n, r⟩ x) := by
  refine leads_named (fun _ _ => rfl) ?_ r x
  exact (leads_ranks u n 0 1).of_eq (pow_one _)

theorem leads_declared (s : Start) (ty : TypeRef) (x : Token) :
    Leads s.state (ofType ty * name x) (.declared s ty x) := by
  have hfirst : Leads s.state (name ty.name) (.startName s ty.name) :=
    .single (.startName s) ty.name fun _ _ => by cases s <;> rfl
  have hopen : Leads (.startName s ty.name) (sign .openBracket) (.startBracket s ty.name) :=
    .fixed fun _ _ => rfl
  have hclose : Leads (.startBracket s ty.name) (sign .closeBracket)
      (.typed s.typeUse ⟨ty.name, 1⟩) := .fixed fun _ _ => rfl
  have hranks : Leads (.startName s ty.name) (brackets 1) (.typed s.typeUse ⟨ty.name, 1⟩) :=
    (hopen.trans hclose).of_eq (by rw [brackets, mul_one])
  have hnamed : s.typeUse.named ty x = .declared s ty x := by cases s <;> rfl
  have hrest := leads_named (fun _ _ => rfl) hranks ty.rank x
  rw [hnamed] at hrest
  exact (hfirst.trans hrest).of_eq (by rw [ofType, mul_assoc])

/-- The state after a declaration and its semicolon. -/
def Start.declare (d : Declaration) : Start → State
  | .statement n => .statement (n.add (.declare d))
  | .forHead n => .forCondition n (some (.declare d))

theorem leads_declaration (s : Start) (d : Declaration) :
    Leads s.state (ofDeclaration d * sign .semicolon) (s.declare d) := by
  obtain ⟨ty, x, v⟩ := d
  have hdeclared := leads_declared s ty x
  cases v with
  | none =>
    have hend : Leads (.declared s ty x) (sign .semicolon) (s.declare ⟨ty, x, none⟩) :=
      .fixed fun _ _ => by cases s <;> rfl
    refine (hdeclared.trans hend).of_eq ?_
    simp [ofDeclaration, ofValue, Spelling.ofOption]
  | some e =>
    have hassign : Leads (.declared s ty x) (sign .assign) (.operand (s.valueUse ty x) []) :=
      .fixed fun _ _ => rfl
    have hvalue : Leads (.operand (s.valueUse ty x) []) (ofExpr e * sign .semicolon)
        (s.declare ⟨ty, x, some e⟩) := by
      cases s
      · exact leads_value rfl
      · exact leads_value rfl
    refine (hdeclared.trans (hassign.trans hvalue)).of_eq ?_
    simp [ofDeclaration, ofValue, Spelling.ofOption, mul_assoc]

/-! ## Statements -/

/-- Between statements, every spelling of the statement is read as this statement. -/
def Stmt.IsRead (s : Stmt) : Prop :=
  ∀ n : Nest, Leads (.statement n) (ofStmt s) (.statement (n.add s))

/-- The state after a block with a role. -/
def Nest.closed (n : Nest) (r : Role) (b : List Stmt) : State :=
  Nest.close ⟨n.cls, n.head, n.params, b.reverse, (r, n.done) :: n.outer⟩

theorem leads_stmts {ss : List Stmt} (n : Nest) (h : ∀ s ∈ ss, s.IsRead) :
    Leads (.statement n) (ofStmts ss)
      (.statement ⟨n.cls, n.head, n.params, ss.reverse ++ n.done, n.outer⟩) := by
  induction ss generalizing n with
  | nil => exact .refl
  | cons s ss ih =>
    have hfirst := h s List.mem_cons_self n
    have hrest := ih (n.add s) fun p hp => h p (List.mem_cons_of_mem s hp)
    rw [List.reverse_cons, List.append_assoc]
    exact hfirst.trans hrest

/-- A block, where its opening brace can stand. -/
theorem leads_block {s : State} {n : Nest} {r : Role} {b : List Stmt}
    (hopen : ∀ x p, s.shift ⟨.sign .openBrace, x, p⟩ = some (.statement (n.open r)))
    (hb : ∀ s ∈ b, s.IsRead) : Leads s (braces (ofStmts b)) (n.closed r b) := by
  have hbrace : Leads s (sign .openBrace) (.statement (n.open r)) := .fixed hopen
  have hstmts := leads_stmts (n.open r) hb
  rw [show (n.open r).done = [] from rfl, List.append_nil] at hstmts
  exact (hbrace.trans hstmts).trans (.fixed fun _ _ => rfl)

/-- A block behind the head of a statement. -/
theorem leads_blockOpen (n : Nest) (r : Role) {b : List Stmt} (hb : ∀ s ∈ b, s.IsRead) :
    Leads (.blockOpen n r) (braces (ofStmts b)) (n.closed r b) :=
  leads_block (fun _ _ => rfl) hb

theorem Nest.closed_plain (n : Nest) (b : List Stmt) :
    n.closed .plain b = .statement (n.add (.block b)) := by
  simp [closed, close, add]

theorem Nest.closed_branch (n : Nest) (bs : Branches) (c : Expr) (b : List Stmt) :
    n.closed (.branch bs c) b = .afterBranch n ((c, b) :: bs) := by
  simp [closed, close]

theorem Nest.closed_otherwise (n : Nest) {bs : Branches} {b : List Stmt} {s : Stmt}
    (h : Branches.complete bs (.block b) = some s) :
    n.closed (.otherwise bs) b = .statement (n.add s) := by
  simp [closed, close, add, h]

theorem Nest.closed_whileBody (n : Nest) (c : Expr) (b : List Stmt) :
    n.closed (.whileBody c) b = .statement (n.add (.while c b)) := by
  simp [closed, close, add]

theorem Nest.closed_forBody (n : Nest) (i : Option ForInit) (c : Option Expr)
    (s : Option ForStep) (b : List Stmt) :
    n.closed (.forBody i c s) b = .statement (n.add (.for i c s b)) := by
  simp [closed, close, add]

theorem Nest.closed_foreachBody (n : Nest) (ty : TypeRef) (x : Token) (e : Expr)
    (b : List Stmt) :
    n.closed (.foreachBody ty x e) b = .statement (n.add (.foreach ty x e b)) := by
  simp [closed, close, add]

theorem Nest.closed_tryBody (n : Nest) (b : List Stmt) :
    n.closed .tryBody b = .afterTry n b [] := by
  simp [closed, close]

theorem Nest.closed_catchBody (n : Nest) (b : List Stmt) (hs : List Handler)
    (f : Option CatchFilter) (c : List Stmt) :
    n.closed (.catchBody b hs f) c = .afterTry n b (hs ++ [.mk f c]) := by
  simp [closed, close]

theorem Nest.closed_finallyBody (n : Nest) (b : List Stmt) (hs : List Handler) (f : List Stmt) :
    n.closed (.finallyBody b hs) f = .statement (n.add (.attempt b hs (some f))) := by
  simp [closed, close, add]

/-- A condition and its block. -/
theorem leads_branch (n : Nest) (bs : Branches) (c : Expr) {b : List Stmt}
    (hb : ∀ s ∈ b, s.IsRead) :
    Leads (.conditionOpen n bs) (parens (ofExpr c) * braces (ofStmts b))
      (.afterBranch n ((c, b) :: bs)) := by
  have hopen : Leads (.conditionOpen n bs) (sign .openParen) (.operand (.condition n bs) []) :=
    .fixed fun _ _ => rfl
  have hcondition : Leads (.operand (.condition n bs) []) (ofExpr c * sign .closeParen)
      (.blockOpen n (.branch bs c)) := leads_value rfl
  have hblock := leads_blockOpen n (.branch bs c) hb
  rw [Nest.closed_branch] at hblock
  refine ((hopen.trans hcondition).trans hblock).of_eq ?_
  simp [parens, mul_assoc]

/-- What follows the branches of a conditional completes it. -/
theorem leads_else : ∀ {n : Nest} {bs : Branches} {r : Else} {s : Stmt},
    (∀ p ∈ r.parts, p.IsRead) → Branches.complete bs r = some s →
    Leads (.afterBranch n bs) (ofElse r) (.statement (n.add s))
  | n, bs, .none, s, _, hs => leads_afterBranch hs
  | n, bs, .block b, s, h, hs => by
    have helse : Leads (.afterBranch n bs) (word .kwElse) (.afterElse n bs) := .fixed fun _ _ => rfl
    have hblock : Leads (.afterElse n bs) (braces (ofStmts b)) (n.closed (.otherwise bs) b) :=
      leads_block (fun _ _ => rfl) h
    rw [Nest.closed_otherwise n hs] at hblock
    exact helse.trans hblock
  | n, bs, .elseIf c b r, s, h, hs => by
    have helse : Leads (.afterBranch n bs) (word .kwElse) (.afterElse n bs) := .fixed fun _ _ => rfl
    have hif : Leads (.afterElse n bs) (word .kwIf) (.conditionOpen n bs) := .fixed fun _ _ => rfl
    have hbranch := leads_branch n bs c fun p hp => h p (List.mem_append_left _ hp)
    -- the branch joins the open conditional, which the rest completes as before
    have hcomplete : Branches.complete ((c, b) :: bs) r = some s := by
      cases bs with
      | nil => cases hs
      | cons x bs => exact hs
    have hrest := leads_else (n := n) (fun p hp => h p (List.mem_append_right b hp)) hcomplete
    refine (helse.trans ((hif.trans hbranch).trans hrest)).of_eq ?_
    simp [ofElse, mul_assoc]

theorem leads_filter (n : Nest) (b : List Stmt) (hs : List Handler) (f : CatchFilter) :
    Leads (.catchOpen n b hs) (ofFilter f) (.blockOpen n (.catchBody b hs (some f))) := by
  obtain ⟨ty, x⟩ := f
  have hopen : Leads (.catchOpen n b hs) (sign .openParen) (.catchType n b hs) :=
    .fixed fun _ _ => rfl
  have htype : Leads (.catchType n b hs) (name ty) (.catchName n b hs ty) :=
    .single (.catchName n b hs) ty fun _ _ => rfl
  cases x with
  | none =>
    have hclose : Leads (.catchName n b hs ty) (sign .closeParen)
        (.blockOpen n (.catchBody b hs (some ⟨ty, none⟩))) := .fixed fun _ _ => rfl
    refine (hopen.trans (htype.trans hclose)).of_eq ?_
    simp [ofFilter, parens, Spelling.ofOption, mul_assoc]
  | some x =>
    have hname : Leads (.catchName n b hs ty) (name x) (.catchClose n b hs ⟨ty, some x⟩) :=
      .single (fun x => .catchClose n b hs ⟨ty, some x⟩) x fun _ _ => rfl
    have hclose : Leads (.catchClose n b hs ⟨ty, some x⟩) (sign .closeParen)
        (.blockOpen n (.catchBody b hs (some ⟨ty, some x⟩))) := .fixed fun _ _ => rfl
    refine (hopen.trans (htype.trans (hname.trans hclose))).of_eq ?_
    simp [ofFilter, parens, Spelling.ofOption, mul_assoc]

theorem leads_handler (n : Nest) (b : List Stmt) (hs : List Handler) (f : Option CatchFilter)
    {c : List Stmt} (hc : ∀ s ∈ c, s.IsRead) :
    Leads (.afterTry n b hs) (ofHandler (.mk f c)) (.afterTry n b (hs ++ [.mk f c])) := by
  have hcatch : Leads (.afterTry n b hs) (word .kwCatch) (.catchOpen n b hs) :=
    .fixed fun _ _ => by cases hs <;> rfl
  rw [← Nest.closed_catchBody]
  cases f with
  | none =>
    have hblock : Leads (.catchOpen n b hs) (braces (ofStmts c))
        (n.closed (.catchBody b hs none) c) := leads_block (fun _ _ => rfl) hc
    refine (hcatch.trans hblock).of_eq ?_
    simp [ofHandler, Spelling.ofOption]
  | some f =>
    refine (hcatch.trans ((leads_filter n b hs f).trans (leads_blockOpen n _ hc))).of_eq ?_
    simp [ofHandler, Spelling.ofOption, mul_assoc]

theorem leads_handlers {n : Nest} {b : List Stmt} {cs : List Handler} :
    ∀ hs : List Handler, (∀ s ∈ Handler.parts cs, s.IsRead) →
      Leads (.afterTry n b hs) (ofHandlers cs) (.afterTry n b (hs ++ cs)) := by
  induction cs with
  | nil =>
    intro hs _
    rw [List.append_nil]
    exact .refl
  | cons x cs ih =>
    obtain ⟨f, c⟩ := x
    intro hs h
    have hfirst := leads_handler n b hs f fun s hs => h s (List.mem_append_left _ hs)
    have hrest := ih (hs ++ [.mk f c]) fun s hs => h s (List.mem_append_right c hs)
    rw [List.append_assoc] at hrest
    exact hfirst.trans hrest

theorem leads_forInit (n : Nest) (i : Option ForInit) :
    Leads (.forInit n) (Spelling.ofOption ofForInit i * sign .semicolon) (.forCondition n i) := by
  cases i with
  | none => exact .of_eq (.fixed fun _ _ => rfl) (one_mul _).symm
  | some i =>
    cases i with
    | declare d => exact leads_declaration (.forHead n) d
    | assign x op e =>
      exact (Start.forHead n).leads_operand.via (leads_assign (v := .forAssign n x op) rfl rfl)

theorem leads_forCondition (n : Nest) (i : Option ForInit) (c : Option Expr) :
    Leads (.forCondition n i) (Spelling.ofOption ofExpr c * sign .semicolon) (.forStep n i c) := by
  cases c with
  | none => exact .of_eq (.fixed fun _ _ => rfl) (one_mul _).symm
  | some c => exact (MayOmit.forCondition n i).leads.via (leads_value rfl)

theorem leads_forStep (n : Nest) (i : Option ForInit) (c : Option Expr) (s : Option ForStep) :
    Leads (.forStep n i c) (Spelling.ofOption ofForStep s * sign .closeParen)
      (.blockOpen n (.forBody i c s)) := by
  have hoperand := (MayOmit.forStep n i c).leads
  cases s with
  | none => exact .of_eq (.fixed fun _ _ => rfl) (one_mul _).symm
  | some s =>
    cases s with
    | assign x op e => exact hoperand.via (leads_assign (v := .stepAssign n i c x op) rfl rfl)
    | step x op => exact hoperand.via ((leads_step rfl).trans (.fixed fun _ _ => rfl))
    | expr e => exact hoperand.via (leads_value rfl)

theorem leads_attempt {n : Nest} {b : List Stmt} {hs : List Handler} {f : Option (List Stmt)}
    (hb : ∀ s ∈ b, s.IsRead) (hhs : ∀ s ∈ Handler.parts hs, s.IsRead)
    (hf : ∀ s ∈ f.getD [], s.IsRead) :
    Leads (.statement n) (ofStmt (.attempt b hs f)) (.statement (n.add (.attempt b hs f))) := by
  have htry : Leads (.statement n) (word .kwTry) (.blockOpen n .tryBody) := .fixed fun _ _ => rfl
  have hbody := leads_blockOpen n .tryBody hb
  rw [Nest.closed_tryBody] at hbody
  have hhandlers : Leads (.afterTry n b []) (ofHandlers hs) (.afterTry n b hs) :=
    leads_handlers [] hhs
  have hguarded := htry.trans (hbody.trans hhandlers)
  cases f with
  | none =>
    have hall (hne : hs ≠ []) := hguarded.trans (leads_afterTry hne)
    refine .of_eq (.given hall) ?_
    simp [ofStmt, mul_assoc]
  | some f =>
    have hfinally : Leads (.afterTry n b hs) (word .kwFinally) (.blockOpen n (.finallyBody b hs)) :=
      .fixed fun _ _ => by cases hs <;> rfl
    have hcleanup := leads_blockOpen n (.finallyBody b hs) (b := f) hf
    rw [Nest.closed_finallyBody] at hcleanup
    refine (hguarded.trans (hfinally.trans hcleanup)).of_eq ?_
    simp [ofStmt, mul_assoc]

/-- Every statement is read. -/
theorem Stmt.isRead (s : Stmt) : s.IsRead := by
  induction s using Stmt.byParts with
  | h s ih =>
  intro n
  -- declarations, assignments, steps and expressions all begin like expressions
  have hoperand : Leads (.statement n) 1 (.operand (.statement n) []) :=
    (Start.statement n).leads_operand
  cases s with
  | declare d => exact leads_declaration (.statement n) d
  | assign x op e => exact hoperand.via (leads_assign (v := .assign n x op) rfl rfl)
  | step x op => exact hoperand.via ((leads_step rfl).trans (.fixed fun _ _ => rfl))
  | expr e => exact hoperand.via (leads_value rfl)
  | ite c b r =>
    have hif : Leads (.statement n) (word .kwIf) (.conditionOpen n []) := .fixed fun _ _ => rfl
    have hbranch := leads_branch n [] c fun p hp => ih p (List.mem_append_left r.parts hp)
    have hrest := leads_else (n := n) (fun p hp => ih p (List.mem_append_right b hp))
      (show Branches.complete [(c, b)] r = some (.ite c b r) from rfl)
    refine ((hif.trans hbranch).trans hrest).of_eq ?_
    simp [ofStmt, mul_assoc]
  | «while» c b =>
    have hwhile : Leads (.statement n) (word .kwWhile) (.whileOpen n) := .fixed fun _ _ => rfl
    have hopen : Leads (.whileOpen n) (sign .openParen) (.operand (.whileCondition n) []) :=
      .fixed fun _ _ => rfl
    have hcondition : Leads (.operand (.whileCondition n) []) (ofExpr c * sign .closeParen)
        (.blockOpen n (.whileBody c)) := leads_value rfl
    have hblock := leads_blockOpen n (.whileBody c) ih
    rw [Nest.closed_whileBody] at hblock
    refine (hwhile.trans (hopen.trans (hcondition.trans hblock))).of_eq ?_
    simp [ofStmt, parens, parts, mul_assoc]
  | «for» i c s b =>
    have hfor : Leads (.statement n) (word .kwFor) (.forOpen n) := .fixed fun _ _ => rfl
    have hopen : Leads (.forOpen n) (sign .openParen) (.forInit n) := .fixed fun _ _ => rfl
    have hhead := (leads_forInit n i).trans ((leads_forCondition n i c).trans
      (leads_forStep n i c s))
    have hblock := leads_blockOpen n (.forBody i c s) ih
    rw [Nest.closed_forBody] at hblock
    refine (hfor.trans (hopen.trans (hhead.trans hblock))).of_eq ?_
    simp [ofStmt, parens, parts, mul_assoc]
  | foreach ty x e b =>
    have hforeach : Leads (.statement n) (word .kwForeach) (.foreachOpen n) :=
      .fixed fun _ _ => rfl
    have hopen : Leads (.foreachOpen n) (sign .openParen) (.foreachType n) := .fixed fun _ _ => rfl
    have htype : Leads (.foreachType n) (name ty.name) (.typed (.foreach n) ⟨ty.name, 0⟩) :=
      .single (fun t => .typed (.foreach n) ⟨t, 0⟩) ty.name fun _ _ => rfl
    have hname := leads_typed (.foreach n) ty.name ty.rank x
    have hin : Leads (.foreachIn n ty x) (word .kwIn) (.operand (.items n ty x) []) :=
      .fixed fun _ _ => rfl
    have hitems : Leads (.operand (.items n ty x) []) (ofExpr e * sign .closeParen)
        (.blockOpen n (.foreachBody ty x e)) := leads_value rfl
    have hblock := leads_blockOpen n (.foreachBody ty x e) ih
    rw [Nest.closed_foreachBody] at hblock
    refine (hforeach.trans (hopen.trans ((htype.trans hname).trans (hin.trans
      (hitems.trans hblock))))).of_eq ?_
    simp [ofStmt, ofType, parens, parts, mul_assoc]
  | ret e =>
    have hret : Leads (.statement n) (word .kwReturn) (.ret n) := .fixed fun _ _ => rfl
    cases e with
    | none =>
      have hend : Leads (.ret n) (sign .semicolon) (.statement (n.add (.ret none))) :=
        .fixed fun _ _ => rfl
      exact (hret.trans hend).of_eq (by simp [ofStmt, Spelling.ofOption])
    | some e =>
      have hvalue : Leads (.ret n) (ofExpr e * sign .semicolon)
          (.statement (n.add (.ret (some e)))) := (MayOmit.ret n).leads.via (leads_value rfl)
      exact (hret.trans hvalue).of_eq (mul_assoc _ _ _).symm
  | throw e =>
    have hthrow : Leads (.statement n) (word .kwThrow) (.throw n) := .fixed fun _ _ => rfl
    cases e with
    | none =>
      have hend : Leads (.throw n) (sign .semicolon) (.statement (n.add (.throw none))) :=
        .fixed fun _ _ => rfl
      exact (hthrow.trans hend).of_eq (by simp [ofStmt, Spelling.ofOption])
    | some e =>
      have hvalue : Leads (.throw n) (ofExpr e * sign .semicolon)
          (.statement (n.add (.throw (some e)))) := (MayOmit.throw n).leads.via (leads_value rfl)
      exact (hthrow.trans hvalue).of_eq (mul_assoc _ _ _).symm
  | brk =>
    have hbreak : Leads (.statement n) (word .kwBreak) (.semicolon n .brk) := .fixed fun _ _ => rfl
    exact hbreak.trans (.fixed fun _ _ => rfl)
  | cont =>
    have hcontinue : Leads (.statement n) (word .kwContinue) (.semicolon n .cont) :=
      .fixed fun _ _ => rfl
    exact hcontinue.trans (.fixed fun _ _ => rfl)
  | attempt b hs f =>
    refine leads_attempt ?_ ?_ ?_
    · exact fun s h => ih s (by simp [parts, h])
    · exact fun s h => ih s (by simp [parts, h])
    · exact fun s h => ih s (by simp [parts, h])
  | block b =>
    have hblock : Leads (.statement n) (braces (ofStmts b)) (n.closed .plain b) :=
      leads_block (fun _ _ => rfl) ih
    rwa [Nest.closed_plain] at hblock

/-! ## Members -/

theorem leads_params_rest {c : OpenClass} {h : MemberHead} {ps : List Param} :
    ∀ {s : State} {done : List Param} {p : Param},
      (∀ x q, s.shift ⟨.name, x, q⟩ = some (.typed (.param c h done) ⟨⟨.name, x, q⟩, 0⟩)) →
      Leads s (listed ((p :: ps).map ofParam) * sign .closeParen)
        (.body c h (done.reverse ++ p :: ps)) := by
  induction ps with
  | nil =>
    intro s done p hs
    obtain ⟨ty, x⟩ := p
    have htype : Leads s (name ty.name) (.typed (.param c h done) ⟨ty.name, 0⟩) :=
      .single (fun t => .typed (.param c h done) ⟨t, 0⟩) ty.name hs
    have hname := leads_typed (.param c h done) ty.name ty.rank x
    have hclose : Leads (.paramRest c h (⟨ty, x⟩ :: done)) (sign .closeParen)
        (.body c h (⟨ty, x⟩ :: done).reverse) := .fixed fun _ _ => rfl
    rw [List.reverse_cons] at hclose
    refine ((htype.trans hname).trans hclose).of_eq ?_
    simp [listed, separated, ofParam, ofType, mul_assoc]
  | cons q ps ih =>
    intro s done p hs
    obtain ⟨ty, x⟩ := p
    have htype : Leads s (name ty.name) (.typed (.param c h done) ⟨ty.name, 0⟩) :=
      .single (fun t => .typed (.param c h done) ⟨t, 0⟩) ty.name hs
    have hname := leads_typed (.param c h done) ty.name ty.rank x
    have hcomma : Leads (.paramRest c h (⟨ty, x⟩ :: done)) (sign .comma)
        (.nextParam c h (⟨ty, x⟩ :: done)) := .fixed fun _ _ => rfl
    have hrest : Leads (.nextParam c h (⟨ty, x⟩ :: done))
        (listed ((q :: ps).map ofParam) * sign .closeParen)
        (.body c h ((⟨ty, x⟩ :: done).reverse ++ q :: ps)) := ih fun _ _ => rfl
    rw [List.reverse_cons, List.append_assoc] at hrest
    refine ((htype.trans hname).trans (hcomma.trans hrest)).of_eq ?_
    simp [listed, separated, ofParam, ofType, mul_assoc]

theorem leads_params (c : OpenClass) (h : MemberHead) (ps : List Param) :
    Leads (.params c h) (listed (ps.map ofParam) * sign .closeParen) (.body c h ps) := by
  cases ps with
  | nil => exact .of_eq (.fixed fun _ _ => rfl) (one_mul _).symm
  | cons p ps =>
    have hall : Leads (.params c h) (listed ((p :: ps).map ofParam) * sign .closeParen)
        (.body c h (List.reverse [] ++ p :: ps)) := leads_params_rest fun _ _ => rfl
    exact hall

/-- The body of a member completes it. -/
theorem leads_body (c : OpenClass) (h : MemberHead) (ps : List Param) (b : List Stmt) :
    Leads (.body c h ps) (braces (ofStmts b)) (.members (c.add (h.complete ps b)) []) := by
  have hopen : Leads (.body c h ps) (sign .openBrace) (.statement ⟨c, h, ps, [], []⟩) :=
    .fixed fun _ _ => rfl
  have hstmts := leads_stmts (n := ⟨c, h, ps, [], []⟩) fun s (_ : s ∈ b) => s.isRead
  have hclose : Leads (.statement ⟨c, h, ps, b.reverse ++ [], []⟩) (sign .closeBrace)
      (.members (c.add (h.complete ps b)) []) := by
    refine .fixed fun x p => ?_
    show some (Nest.close _) = _
    simp [Nest.close]
  exact (hopen.trans hstmts).trans hclose

/-- Modifiers, where each of them is kept. -/
theorem leads_modifiers {z : List Token → State}
    (h : ∀ done, ∀ k ∈ Grammar.modifierKinds, ∀ x p,
      (z done).shift ⟨k, x, p⟩ = some (z (done ++ [⟨k, x, p⟩]))) (ms : List Token) :
    ∀ done : List Token, Leads (z done) (ofModifiers ms) (z (done ++ ms)) := by
  induction ms with
  | nil =>
    intro done
    rw [List.append_nil]
    exact .refl
  | cons m ms ih =>
    intro done
    have hfirst : Leads (z done) (kept Grammar.modifierKinds m) (z (done ++ [m])) :=
      .kept (fun t => z (done ++ [t])) m (h done)
    have hrest := ih (done ++ [m])
    rw [List.append_assoc] at hrest
    exact hfirst.trans hrest

theorem leads_memberModifiers (c : OpenClass) (ms : List Token) :
    Leads (.members c []) (ofModifiers ms) (.members c ms) := by
  refine leads_modifiers (z := .members c) (fun done k hk x p => ?_) ms []
  simp only [Grammar.modifierKinds, List.mem_cons, List.not_mem_nil, or_false] at hk
  rcases hk with rfl | rfl | rfl | rfl | rfl <;> cases done <;> rfl

/-- The type and the name of a field or method. -/
theorem leads_memberRest (c : OpenClass) (ms : List Token) (ty : TypeRef) (x : Token) :
    Leads (.members c ms) (ofType ty * name x) (.memberRest c ms ty x) := by
  have hfirst : Leads (.members c ms) (name ty.name) (.memberName c ms ty.name) :=
    .single (.memberName c ms) ty.name fun _ _ => by cases ms <;> rfl
  have hopen : Leads (.memberName c ms ty.name) (sign .openBracket)
      (.rank (.member c ms) ⟨ty.name, 0⟩) := .fixed fun _ _ => rfl
  have hclose : Leads (.rank (.member c ms) ⟨ty.name, 0⟩) (sign .closeBracket)
      (.typed (.member c ms) ⟨ty.name, 1⟩) := .fixed fun _ _ => rfl
  have hranks : Leads (.memberName c ms ty.name) (brackets 1)
      (.typed (.member c ms) ⟨ty.name, 1⟩) := (hopen.trans hclose).of_eq (by rw [brackets, mul_one])
  have hrest : Leads (.memberName c ms ty.name) (brackets 1 ^ ty.rank * name x)
      (.memberRest c ms ty x) := leads_named (fun _ _ => rfl) hranks ty.rank x
  exact (hfirst.trans hrest).of_eq (by rw [ofType, mul_assoc])

/-- Between members, every spelling of the member is read as this member. -/
theorem leads_member (c : OpenClass) (x : Member) :
    Leads (.members c []) (ofMember x) (.members (c.add x) []) := by
  cases x with
  | field ms d =>
    obtain ⟨ty, x, v⟩ := d
    have hhead := (leads_memberModifiers c ms).trans (leads_memberRest c ms ty x)
    cases v with
    | none =>
      have hend : Leads (.memberRest c ms ty x) (sign .semicolon)
          (.members (c.add (.field ms ⟨ty, x, none⟩)) []) := .fixed fun _ _ => rfl
      refine (hhead.trans hend).of_eq ?_
      simp [ofMember, ofDeclaration, ofValue, Spelling.ofOption, mul_assoc]
    | some e =>
      have hassign : Leads (.memberRest c ms ty x) (sign .assign)
          (.operand (.field c ms ty x) []) := .fixed fun _ _ => rfl
      have hvalue : Leads (.operand (.field c ms ty x) []) (ofExpr e * sign .semicolon)
          (.members (c.add (.field ms ⟨ty, x, some e⟩)) []) := leads_value rfl
      refine (hhead.trans (hassign.trans hvalue)).of_eq ?_
      simp [ofMember, ofDeclaration, ofValue, Spelling.ofOption, mul_assoc]
  | method ms ty x ps b =>
    have hhead := (leads_memberModifiers c ms).trans (leads_memberRest c ms ty x)
    have hopen : Leads (.memberRest c ms ty x) (sign .openParen) (.params c (.method ms ty x)) :=
      .fixed fun _ _ => rfl
    refine (hhead.trans (hopen.trans ((leads_params c _ ps).trans (leads_body c _ ps b)))).of_eq ?_
    simp [ofMember, ofParams, parens, mul_assoc]
  | constructor ms x ps b =>
    have hname : Leads (.members c ms) (name x) (.memberName c ms x) :=
      .single (.memberName c ms) x fun _ _ => by cases ms <;> rfl
    have hopen : Leads (.memberName c ms x) (sign .openParen) (.params c (.constructor ms x)) :=
      .fixed fun _ _ => rfl
    refine ((leads_memberModifiers c ms).trans (hname.trans (hopen.trans
      ((leads_params c _ ps).trans (leads_body c _ ps b))))).of_eq ?_
    simp [ofMember, ofParams, parens, mul_assoc]

theorem leads_members (ms : List Member) : ∀ c : OpenClass,
    Leads (.members c []) (ms.map ofMember).prod
      (.members ⟨c.file, c.head, ms.reverse ++ c.members⟩ []) := by
  induction ms with
  | nil => exact fun _ => .refl
  | cons m ms ih =>
    intro c
    have hrest := ih (c.add m)
    rw [List.map_cons, List.prod_cons, List.reverse_cons, List.append_assoc]
    exact (leads_member c m).trans hrest

/-! ## Files -/

theorem leads_fileModifiers (f : OpenFile) (ms : List Token) :
    Leads (.file f []) (ofModifiers ms) (.file f ms) := by
  refine leads_modifiers (z := .file f) (fun done k hk x p => ?_) ms []
  simp only [Grammar.modifierKinds, List.mem_cons, List.not_mem_nil, or_false] at hk
  rcases hk with rfl | rfl | rfl | rfl | rfl <;> cases done <;> rfl

theorem leads_head (f : OpenFile) (h : ClassHead) :
    Leads (.file f []) (ofHead h * sign .openBrace) (.members ⟨f, h, []⟩ []) := by
  obtain ⟨ms, x, b⟩ := h
  have hclass : Leads (.file f ms) (word .kwClass) (.className f ms) :=
    .fixed fun _ _ => by cases ms <;> rfl
  have hname : Leads (.className f ms) (name x) (.classRest f ms x) :=
    .single (.classRest f ms) x fun _ _ => rfl
  have hfront := (leads_fileModifiers f ms).trans (hclass.trans hname)
  cases b with
  | none =>
    have hopen : Leads (.classRest f ms x) (sign .openBrace) (.members ⟨f, ⟨ms, x, none⟩, []⟩ []) :=
      .fixed fun _ _ => rfl
    refine (hfront.trans hopen).of_eq ?_
    simp [ofHead, Spelling.ofOption, mul_assoc]
  | some b =>
    have hcolon : Leads (.classRest f ms x) (sign .colon) (.baseName f ms x) :=
      .fixed fun _ _ => rfl
    have hbase : Leads (.baseName f ms x) (name b) (.classOpen f ⟨ms, x, some b⟩) :=
      .single (fun b => .classOpen f ⟨ms, x, some b⟩) b fun _ _ => rfl
    have hopen : Leads (.classOpen f ⟨ms, x, some b⟩) (sign .openBrace)
        (.members ⟨f, ⟨ms, x, some b⟩, []⟩ []) := .fixed fun _ _ => rfl
    refine (hfront.trans (hcolon.trans (hbase.trans hopen))).of_eq ?_
    simp [ofHead, Spelling.ofOption, mul_assoc]

/-- Between classes, every spelling of the class is read as this class. -/
theorem leads_class (f : OpenFile) (c : ClassDecl) :
    Leads (.file f []) (ofClass c) (.file ⟨f.usings, c :: f.classes⟩ []) := by
  have hmembers := leads_members c.members ⟨f, c.toClassHead, []⟩
  rw [List.append_nil] at hmembers
  have hclose : Leads (.members ⟨f, c.toClassHead, c.members.reverse⟩ []) (sign .closeBrace)
      (.file ⟨f.usings, c :: f.classes⟩ []) := by
    refine .fixed fun x p => ?_
    have hstep : State.shift (.members ⟨f, c.toClassHead, c.members.reverse⟩ [])
        ⟨.sign .closeBrace, x, p⟩ = some (.file ⟨f.usings,
          ⟨c.toClassHead, c.members.reverse.reverse⟩ :: f.classes⟩ []) := rfl
    rw [hstep, List.reverse_reverse]
  refine ((leads_head f c.toClassHead).trans (hmembers.trans hclose)).of_eq ?_
  simp [ofClass, braces, mul_assoc]

theorem leads_classes (cs : List ClassDecl) : ∀ f : OpenFile,
    Leads (.file f []) (cs.map ofClass).prod (.file ⟨f.usings, cs.reverse ++ f.classes⟩ []) := by
  induction cs with
  | nil => exact fun _ => .refl
  | cons c cs ih =>
    intro f
    have hrest := ih ⟨f.usings, c :: f.classes⟩
    rw [List.map_cons, List.prod_cons, List.reverse_cons, List.append_assoc]
    exact (leads_class f c).trans hrest

theorem leads_qualified (f : OpenFile) (ns : List Token) : ∀ (n : Token) (done : List Token),
    Leads (.usingName f done) (separated (sign .dot) ((n :: ns).map name))
      (.usingRest f (done ++ n :: ns)) := by
  induction ns with
  | nil => exact fun n done => .single (fun n => .usingRest f (done ++ [n])) n fun _ _ => rfl
  | cons m ns ih =>
    intro n done
    have hname : Leads (.usingName f done) (name n) (.usingRest f (done ++ [n])) :=
      .single (fun n => .usingRest f (done ++ [n])) n fun _ _ => rfl
    have hdot : Leads (.usingRest f (done ++ [n])) (sign .dot) (.usingName f (done ++ [n])) :=
      .fixed fun _ _ => rfl
    have hrest := ih m (done ++ [n])
    rw [List.append_assoc] at hrest
    refine (hname.trans (hdot.trans hrest)).of_eq ?_
    simp [separated, mul_assoc]

theorem leads_using (us : List (List Token)) (ns : List Token) :
    Leads (.file ⟨us, []⟩ []) (ofUsing ns) (.file ⟨ns :: us, []⟩ []) := by
  have husing : Leads (.file ⟨us, []⟩ []) (word .kwUsing) (.usingName ⟨us, []⟩ []) :=
    .fixed fun _ _ => rfl
  have hnames : Leads (.usingName ⟨us, []⟩ []) (ofQualified ns) (.usingRest ⟨us, []⟩ ns) := by
    refine .given fun hns => ?_
    obtain ⟨n, ns, rfl⟩ := List.exists_cons_of_ne_nil hns
    exact leads_qualified _ ns n []
  exact (husing.trans hnames).trans (.fixed fun _ _ => rfl)

theorem leads_usings (nss : List (List Token)) : ∀ us : List (List Token),
    Leads (.file ⟨us, []⟩ []) (nss.map ofUsing).prod (.file ⟨nss.reverse ++ us, []⟩ []) := by
  induction nss with
  | nil => exact fun _ => .refl
  | cons ns nss ih =>
    intro us
    have hrest := ih (ns :: us)
    rw [List.map_cons, List.prod_cons, List.reverse_cons, List.append_assoc]
    exact (leads_using us ns).trans hrest

/-- Every spelling of a file is accepted as this file. -/
theorem accepts_ofFile {ts : List Token} {f : SourceFile} (h : ts ∈ ofFile f) :
    State.initial.Accepts ts f := by
  have husings := leads_usings f.usings []
  have hclasses := leads_classes f.classes ⟨f.usings.reverse ++ [], []⟩
  have hfinish : (State.file ⟨f.usings.reverse ++ [], f.classes.reverse ++ []⟩ []).Accepts [] f :=
    ⟨_, rfl, by simp [State.finish]⟩
  have haccepts := (husings.trans hclasses) ts h [] f hfinish
  rwa [List.append_nil] at haccepts

end BraceScript.Syntax
