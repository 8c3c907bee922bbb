import BraceScript.Proofs.Eval.Within
import BraceScript.Proofs.Lowering.Renaming

/-!
# More fuel

Code does with more fuel what it does with less, as far as the fuel lasts; and it does the same in
scopes that it cannot tell apart. Both are shown at once (`further`). A renaming says which names
code can tell scopes apart by: those that code uses are kept by it. Calls cannot tell scopes apart at
all. With fuel for its parts, a statement of code is put together from what the parts do.
-/

namespace BraceScript.Eval

open Code

/-! ## Code that keeps its names -/

section
variable {r : String → String}

theorem renameAll_eq_self {es : List Expr} :
    Expr.renameAll r es = es ↔ ∀ e ∈ es, e.rename r = e := by
  induction es with
  | nil => simp [Expr.renameAll]
  | cons e es ih => simp [Expr.renameAll, ih]

theorem renameBlock_eq_self {ss : List Stmt} :
    Stmt.renameAll r ss = ss ↔ ∀ s ∈ ss, s.rename r = s := by
  induction ss with
  | nil => simp [Stmt.renameAll]
  | cons s ss ih => simp [Stmt.renameAll, ih]

end

/-! ## Code -/

section
variable {V : Linked} {α β : Type}

/-- Two computations that call values, with ways to do so. -/
def Passes (V : Linked) (c d : Caller) {α : Type} (a b : Calling α) : Prop := Within V (a c) (b d)

variable {c d : Caller}

theorem Passes.lift {a b : Eval α} (h : Within V a b) :
    Passes V c d (liftM a : Calling α) (liftM b) := h

theorem Passes.pure (a : α) : Passes V c d (pure a : Calling α) (pure a) := Within.pure a

theorem Passes.bind {a b : Calling α} {f g : α → Calling β} (hab : Passes V c d a b)
    (hfg : ∀ v, Passes V c d (f v) (g v)) : Passes V c d (a >>= f) (b >>= g) :=
  Within.bind hab hfg

/-- Whether a condition holds. -/
def test (n : Nat) (frame : Frame) (c : Expr) : Eval Bool :=
  callingBy (apply n) do truth (← eval n frame c)

/-- How far code gets with `m` steps of fuel beside code with `n`. Calls cannot tell scopes apart at
all. -/
structure Further (n m : Nat) : Prop where
  call (V : Linked) (f : Value) (args : List Value) : Within V (apply n f args) (apply m f args)
  value {r : String → String} {frame : Frame} {V : Linked} (h : Indistinct r frame V) {e : Expr}
    (he : e.rename r = e) : Within V (eval n frame e) (eval m frame e)
  values {r : String → String} {frame : Frame} {V : Linked} (h : Indistinct r frame V)
    {es : List Expr} (hes : Expr.renameAll r es = es) :
    Within V (evalAll n frame es) (evalAll m frame es)
  statement {r : String → String} {frame : Frame} {V : Linked} (h : Indistinct r frame V) {s : Stmt}
    (hs : s.rename r = s) : Within V (exec n frame s) (exec m frame s)
  assignment {r : String → String} {frame : Frame} {V : Linked} (h : Indistinct r frame V) {t : Expr}
    (ht : t.rename r = t) (v : Value) : Within V (store n frame t v) (store m frame t v)
  change {r : String → String} {frame : Frame} {V : Linked} (h : Indistinct r frame V) {t e : Expr}
    (ht : t.rename r = t) (he : e.rename r = e) (op : AugmentOp) :
    Within V (update n frame t op e) (update m frame t op e)

section
variable {n m : Nat} {r : String → String} {frame : Frame}

/-- An operation with the calls of less and of more fuel. -/
theorem Further.operation (hnm : Further n m) {a : Calling α} (ha : Made "" a) :
    Passes V (apply n) (apply m) a a := ha.within (hnm.call V)

theorem Further.setting (hnm : Further n m) (self : Value) (name : String) (v : Value) :
    Passes V (apply n) (apply m) (setAttribute self name v) (setAttribute self name v) := by
  obtain ⟨x, hset⟩ := exists_setAttribute_made self name v
  exact hset.within (hnm.call V)

theorem Further.block (hnm : Further n m) (h : Indistinct r frame V) {ss : List Stmt}
    (hss : Stmt.renameAll r ss = ss) :
    Within V (runAll (exec n frame) ss) (runAll (exec m frame) ss) :=
  .runAll fun s hs => hnm.statement h (renameBlock_eq_self.mp hss s hs)

theorem Further.value_succ (hnm : Further n m) (h : Indistinct r frame V) {e : Expr}
    (he : e.rename r = e) : Within V (eval (n + 1) frame e) (eval (m + 1) frame e) := by
  have hvalue {e : Expr} (he : e.rename r = e) :
      Passes V (apply n) (apply m) (liftM (eval n frame e)) (liftM (eval m frame e)) :=
    hnm.value h he
  have hvalues {es : List Expr} (hes : Expr.renameAll r es = es) :
      Passes V (apply n) (apply m) (liftM (evalAll n frame es)) (liftM (evalAll m frame es)) :=
    hnm.values h hes
  unfold eval
  refine (?_ : Passes V (apply n) (apply m) _ _)
  cases e with
  | name y =>
    simp only [Expr.rename, Expr.name.injEq] at he
    exact .lift (h.valueOf he)
  | number | text | true | false | none => exact .pure _
  | group e =>
    simp only [Expr.rename, Expr.group.injEq] at he
    exact hvalue he
  | list es =>
    simp only [Expr.rename, Expr.list.injEq] at he
    exact (hvalues he).bind fun vs => hnm.operation (.lift (newList_plain _))
  | attr e y =>
    simp only [Expr.rename, Expr.attr.injEq, and_true] at he
    exact (hvalue he).bind fun v => hnm.operation (attrOf_made v _)
  | call f es =>
    simp only [Expr.rename, Expr.call.injEq] at he
    refine (hvalue he.1).bind fun f => (hvalues he.2).bind fun args => ?_
    split
    · exact .lift h.superIn
    · exact hnm.call V f args
  | index e i =>
    simp only [Expr.rename, Expr.index.injEq] at he
    exact (hvalue he.1).bind fun v => (hvalue he.2).bind fun place =>
      hnm.operation (index_made v place)
  | unary op e =>
    simp only [Expr.rename, Expr.unary.injEq, true_and] at he
    cases op with
    | not => exact (hvalue he).bind fun v => (hnm.operation (truth_made v)).bind fun _ => .pure _
    | neg => exact (hvalue he).bind fun v => hnm.operation (negative_made v)
  | binary op l r =>
    simp only [Expr.rename, Expr.binary.injEq, true_and] at he
    obtain ⟨hl, hr⟩ := he
    cases op with
    | or =>
      refine (hvalue hl).bind fun v => (hnm.operation (truth_made v)).bind fun holds => ?_
      split
      · exact .pure _
      · exact hvalue hr
    | and =>
      refine (hvalue hl).bind fun v => (hnm.operation (truth_made v)).bind fun holds => ?_
      split
      · exact hvalue hr
      · exact .pure _
    | _ =>
      exact (hvalue hl).bind fun v => (hvalue hr).bind fun w => hnm.operation (binary_made _ v w)
  | choose v c o =>
    simp only [Expr.rename, Expr.choose.injEq] at he
    refine (hvalue he.2.1).bind fun test => (hnm.operation (truth_made test)).bind fun holds => ?_
    split
    · exact hvalue he.1
    · exact hvalue he.2.2

theorem Further.values_succ (hnm : Further n m) (h : Indistinct r frame V) {es : List Expr}
    (hes : Expr.renameAll r es = es) :
    Within V (evalAll (n + 1) frame es) (evalAll (m + 1) frame es) := by
  unfold evalAll
  exact .mapM fun e he => hnm.value h (renameAll_eq_self.mp hes e he)

/-- A call runs the same body in the same scope, whatever is around it. -/
theorem Further.call_succ (hnm : Further n m) (V : Linked) (f : Value) (args : List Value) :
    Within V (apply (n + 1) f args) (apply (m + 1) f args) := by
  cases f with
  | function p =>
    unfold apply
    refine .looks (fun s t hst => ?_) fun s => ?_
    · rw [hst.rest]
      rfl
    · refine ((check_plain (x := "") _).within).bind fun names => ?_
      have hclosed : Indistinct id (frameOf (s.function p)) Eq := .same
      have hbody := hnm.block hclosed (Stmt.renameAll_id (s.function p).body)
      exact (hbody.bind fun flow => .pure flow.value).withLocals rfl
  | _ =>
    unfold apply
    exact (applyOther_made (x := "") _ _).within (hnm.call V)

theorem Further.assignment_succ (hnm : Further n m) (h : Indistinct r frame V) {t : Expr}
    (ht : t.rename r = t) (v : Value) :
    Within V (store (n + 1) frame t v) (store (m + 1) frame t v) := by
  have hvalue {e : Expr} (he : e.rename r = e) :
      Passes V (apply n) (apply m) (liftM (eval n frame e)) (liftM (eval m frame e)) :=
    hnm.value h he
  unfold store
  refine (?_ : Passes V (apply n) (apply m) _ _)
  cases t with
  | name y =>
    simp only [Expr.rename, Expr.name.injEq] at ht
    exact .lift (h.assignName ht v)
  | group t =>
    simp only [Expr.rename, Expr.group.injEq] at ht
    exact .lift (hnm.assignment h ht v)
  | attr e y =>
    simp only [Expr.rename, Expr.attr.injEq, and_true] at ht
    exact (hvalue ht).bind fun self => hnm.setting self (frame.meant y) v
  | index e i =>
    simp only [Expr.rename, Expr.index.injEq] at ht
    exact (hvalue ht.1).bind fun list => (hvalue ht.2).bind fun place =>
      hnm.operation (setIndex_made list place v)
  | _ => exact .pure _

theorem Further.change_succ (hnm : Further n m) (h : Indistinct r frame V) {t e : Expr}
    (ht : t.rename r = t) (he : e.rename r = e) (op : AugmentOp) :
    Within V (update (n + 1) frame t op e) (update (m + 1) frame t op e) := by
  have hvalue {e : Expr} (he : e.rename r = e) :
      Passes V (apply n) (apply m) (liftM (eval n frame e)) (liftM (eval m frame e)) :=
    hnm.value h he
  unfold update
  refine (?_ : Passes V (apply n) (apply m) _ _)
  cases t with
  | name y =>
    simp only [Expr.rename, Expr.name.injEq] at ht
    refine Passes.bind (.lift (h.valueOf ht)) fun old => (hvalue he).bind fun v => ?_
    exact (hnm.operation (augmented_made op old v)).bind fun new => .lift (h.assignName ht new)
  | group t =>
    simp only [Expr.rename, Expr.group.injEq] at ht
    exact .lift (hnm.change h ht he op)
  | attr t y =>
    simp only [Expr.rename, Expr.attr.injEq, and_true] at ht
    refine (hvalue ht).bind fun self => (hnm.operation (attrOf_made self _)).bind fun old => ?_
    refine (hvalue he).bind fun v => (hnm.operation (augmented_made op old v)).bind fun new => ?_
    exact hnm.setting self (frame.meant y) new
  | index t i =>
    simp only [Expr.rename, Expr.index.injEq] at ht
    refine (hvalue ht.1).bind fun list => (hvalue ht.2).bind fun place => ?_
    refine (hnm.operation (index_made list place)).bind fun old => (hvalue he).bind fun v => ?_
    exact (hnm.operation (augmented_made op old v)).bind fun new =>
      hnm.operation (setIndex_made list place new)
  | _ => exact .pure _

/-- A condition with the calls of less and of more fuel. -/
theorem Further.test (hnm : Further n m) (h : Indistinct r frame V) {c : Expr}
    (hc : c.rename r = c) : Within V (test n frame c) (test m frame c) :=
  (hnm.value h hc).bind fun v => (truth_made (x := "") v).within (hnm.call V)

theorem Further.rescues (hnm : Further n m) (h : Indistinct r frame V) {hs : List Handler}
    (hhs : Handler.renameAll r hs = hs) :
    List.Forall₂ (RescueWithin r V) (hs.map (asRescue (runAll (exec n frame))))
      (hs.map (asRescue (runAll (exec m frame)))) := by
  induction hs with
  | nil => exact .nil
  | cons one hs ih =>
    obtain ⟨type, name, body⟩ := one
    simp only [Handler.renameAll, List.cons.injEq, Handler.mk.injEq] at hhs
    obtain ⟨⟨htype, hname, hbody⟩, hrest⟩ := hhs
    refine .cons ⟨rfl, rfl, htype, fun y hy => ?_, hnm.block h hbody⟩ (ih hrest)
    cases hy
    exact Option.some.inj hname

theorem Further.statement_succ (hnm : Further n m) (hle : n ≤ m) (h : Indistinct r frame V)
    {s : Stmt} (hs : s.rename r = s) : Within V (exec (n + 1) frame s) (exec (m + 1) frame s) := by
  have hvalue {e : Expr} (he : e.rename r = e) :
      Passes V (apply n) (apply m) (liftM (eval n frame e)) (liftM (eval m frame e)) :=
    hnm.value h he
  unfold exec
  refine (?_ : Passes V (apply n) (apply m) _ _)
  cases s with
  | pass | brk | cont => exact .pure _
  | expr e =>
    simp only [Stmt.rename, Stmt.expr.injEq] at hs
    exact (hvalue hs).bind fun _ => .pure _
  | assign t e =>
    simp only [Stmt.rename, Stmt.assign.injEq] at hs
    exact (hvalue hs.2).bind fun v => Passes.bind (.lift (hnm.assignment h hs.1 v)) fun _ => .pure _
  | augment t op e =>
    simp only [Stmt.rename, Stmt.augment.injEq, true_and] at hs
    exact Passes.bind (.lift (hnm.change h hs.1 hs.2 op)) fun _ => .pure _
  | ret e =>
    cases e with
    | none => exact .pure _
    | some e =>
      simp only [Stmt.rename, Option.map_some, Stmt.ret.injEq, Option.some.injEq] at hs
      exact (hvalue hs).bind fun _ => .pure _
  | raise e =>
    cases e with
    | none => exact hnm.operation (.lift raiseAgain_plain)
    | some e =>
      simp only [Stmt.rename, Option.map_some, Stmt.raise.injEq, Option.some.injEq] at hs
      exact (hvalue hs).bind fun v => hnm.operation (raiseValue_made v)
  | ite c b t =>
    simp only [Stmt.rename, Stmt.ite.injEq] at hs
    obtain ⟨hc, hb, ht⟩ := hs
    refine (hvalue hc).bind fun v => (hnm.operation (truth_made v)).bind fun holds => ?_
    split
    · exact hnm.block h hb
    · cases t with
      | none => exact .pure _
      | otherwise b =>
        simp only [Tail.rename, Tail.otherwise.injEq] at ht
        exact hnm.block h ht
      | elif c b t =>
        simp only [Tail.rename, Tail.elif.injEq] at ht
        refine hnm.statement h ?_
        rw [Stmt.rename, ht.1, ht.2.1, ht.2.2]
  | «while» c b =>
    simp only [Stmt.rename, Stmt.while.injEq] at hs
    exact .loopWhile (hnm.test h hs.1) (hnm.block h hs.2) hle
  | forIn y e b =>
    simp only [Stmt.rename, Stmt.forIn.injEq] at hs
    obtain ⟨hy, he, hb⟩ := hs
    refine (hvalue he).bind fun v => (hnm.operation (start_made v)).bind fun cursor => ?_
    refine Within.loopItems (fun c => hnm.operation (advance_made c)) (fun v => ?_) cursor hle
    exact (h.assignName hy v).bind fun _ => hnm.block h hb
  | attempt b handlers cleanup =>
    have hparts : Stmt.renameAll r b = b ∧ Handler.renameAll r handlers = handlers
        ∧ ∀ f, cleanup = some f → Stmt.renameAll r f = f := by
      cases cleanup <;> simpa [Stmt.rename] using hs
    obtain ⟨hb, hhandlers, hcleanup⟩ := hparts
    have hguarded : Within V (if handlers.isEmpty then runAll (exec n frame) b
        else guarded (runAll (exec n frame) b) fun e =>
          handle frame (runAll (exec n frame)) e handlers)
        (if handlers.isEmpty then runAll (exec m frame) b
        else guarded (runAll (exec m frame) b) fun e =>
          handle frame (runAll (exec m frame)) e handlers) := by
      split
      · exact hnm.block h hb
      · refine .guarded (hnm.block h hb) fun e => ?_
        rw [handle_eq_rescue, handle_eq_rescue]
        exact h.rescue e (hnm.rescues h hhandlers)
    cases cleanup with
    | none => exact hguarded
    | some f => exact .finally_ hguarded (hnm.block h (hcleanup f rfl))

/-- With more fuel, code gets further. -/
theorem further {n m : Nat} (hnm : n ≤ m) : Further n m := by
  induction m generalizing n with
  | zero =>
    obtain rfl := Nat.le_zero.mp hnm
    constructor
    case call => intros; unfold apply; exact .throw _
    case value => intros; unfold eval; exact .throw _
    case values => intros; unfold evalAll; exact .throw _
    case statement => intros; unfold exec; exact .throw _
    case assignment => intros; unfold store; exact .throw _
    case change => intros; unfold update; exact .throw _
  | succ m ih =>
    have hsucc {n : Nat} (hnm : n ≤ m) : Further (n + 1) (m + 1) :=
      ⟨(ih hnm).call_succ, (ih hnm).value_succ, (ih hnm).values_succ, (ih hnm).statement_succ hnm,
        (ih hnm).assignment_succ, (ih hnm).change_succ⟩
    cases n with
    | succ n => exact hsucc (Nat.le_of_succ_le_succ hnm)
    | zero =>
      have hself := hsucc (le_refl m)
      constructor
      case call =>
        intro V f args
        have hzero : apply 0 f args = MonadExcept.throw .outOfFuel := by rw [apply]
        rw [hzero]
        exact .outOfFuel (hself.call V f args).onward
      case value => intro r frame V h e he; exact .outOfFuel (hself.value h he).onward
      case values => intro r frame V h es hes; exact .outOfFuel (hself.values h hes).onward
      case statement => intro r frame V h s hs; exact .outOfFuel (hself.statement h hs).onward
      case assignment => intro r frame V h t ht v; exact .outOfFuel (hself.assignment h ht v).onward
      case change => intro r frame V h t e ht he op; exact .outOfFuel (hself.change h ht he op).onward

end

end

/-- What ended with some fuel ends in the same way with more. -/
theorem apply_further {n m : Nat} (hnm : n ≤ m) {f : Value} {args : List Value} {s t : Store}
    {r : Except Stop Value} (h : apply n f args s = (r, t)) (hr : r ≠ .error .outOfFuel) :
    apply m f args s = (r, t) := by
  have hmeets := ((further hnm).call Eq f args).meets s s (.same (fun _ => rfl) s)
  rw [h] at hmeets
  generalize apply m f args s = x at hmeets ⊢
  cases hmeets with
  | paired h => rw [h.eq]
  | ahead => exact absurd rfl hr

/-! ## Tests -/

theorem test_bind {β : Type} (n : Nat) (frame : Frame) (c : Expr) (f : Bool → Eval β) :
    test n frame c >>= f = eval n frame c >>= fun v => truth v (apply n) >>= f :=
  bind_assoc (eval n frame c) (fun v => truth v (apply n)) f

theorem test_not (n : Nat) (frame : Frame) (c : Expr) :
    test (n + 1) frame (.unary .not c) = (do return !(← test n frame c)) := by
  rw [test_bind]
  show (eval n frame c >>= fun v => truth v (apply n) >>= fun b => pure (.bool (!b))) >>=
    (fun v => truth v (apply (n + 1))) = _
  rw [bind_assoc]
  congr 1; funext v
  rw [bind_assoc]
  rfl

theorem test_name {frame : Frame} {y : String} {s : Store} {b : Bool}
    (h : s.locals.get? (frame.meant y) = some (.bool b)) (n : Nat) :
    test (n + 1) frame (.name y) s = (.ok b, s) := by
  show (valueOf frame y >>= fun v => truth v (apply (n + 1))) s = _
  have hv : valueOf frame y s = (.ok (.bool b), s) := by
    rw [valueOf_apply, h]
    rfl
  rw [stateBind_apply, hv]
  rfl

/-! ## Statements of code -/

/-- Runs one of two parts. -/
def branch (condition : Eval Bool) (a b : Eval Flow) : Eval Flow := do
  if ← condition then a else b

/-- The rest of a conditional. -/
def execTail (n : Nat) (frame : Frame) : Tail → Eval Flow
  | .none => pure .next
  | .otherwise b => runAll (exec n frame) b
  | .elif c b t => exec n frame (.ite c b t)

/-- Runs a body for every item of a value. -/
def loopOver (n : Nat) (frame : Frame) (y : String) (items : Expr) (body : Eval Flow) :
    Eval Flow := do
  let cursor ← callingBy (apply n) do Cursor.start (← eval n frame items)
  loopItems (fun c => callingBy (apply n) c.advance) (fun v => do assignName frame y v; body) cursor n

/-- Runs a body and the handlers for what it raises, if there are any. -/
def protect (frame : Frame) (body : Eval Flow) (handlers : List Rescue) : Eval Flow :=
  if handlers.isEmpty then body else guarded body fun e => rescue frame e handlers

section
variable (n : Nat) (frame : Frame)

theorem exec_branch (c : Expr) (b : List Stmt) (t : Tail) :
    exec (n + 1) frame (.ite c b t)
      = branch (test n frame c) (runAll (exec n frame) b) (execTail n frame t) := by
  unfold branch
  rw [test_bind]
  show (eval n frame c >>= fun v => truth v (apply n) >>= fun holds =>
    (if holds = true then liftM (runAll (exec n frame) b) else match t with
      | .none => pure .next
      | .otherwise b => liftM (runAll (exec n frame) b)
      | .elif c b t => liftM (exec n frame (.ite c b t)) : Calling Flow) (apply n)) = _
  congr 1; funext v
  congr 1; funext holds
  cases holds <;> cases t <;> rfl

theorem exec_while (c : Expr) (b : List Stmt) :
    exec (n + 1) frame (.while c b) = loopWhile (test n frame c) (runAll (exec n frame) b) n := rfl

theorem exec_forIn (y : String) (e : Expr) (b : List Stmt) :
    exec (n + 1) frame (.forIn y e b) = loopOver n frame y e (runAll (exec n frame) b) := by
  unfold loopOver
  show _ = (eval n frame e >>= fun v => Cursor.start v (apply n)) >>= _
  rw [bind_assoc]
  rfl

theorem exec_attempt (b : List Stmt) (hs : List Handler) (cleanup : Option (List Stmt)) :
    exec (n + 1) frame (.attempt b hs cleanup)
      = match cleanup with
        | none => protect frame (runAll (exec n frame) b) (hs.map (asRescue (runAll (exec n frame))))
        | some f => finally_
          (protect frame (runAll (exec n frame) b) (hs.map (asRescue (runAll (exec n frame)))))
          (runAll (exec n frame) f) := by
  have hprotect : (if hs.isEmpty then runAll (exec n frame) b
      else guarded (runAll (exec n frame) b) fun e => handle frame (runAll (exec n frame)) e hs)
      = protect frame (runAll (exec n frame) b) (hs.map (asRescue (runAll (exec n frame)))) := by
    unfold protect
    rw [List.isEmpty_map]
    simp only [handle_eq_rescue]
  rw [← hprotect]
  cases cleanup <;> rfl

end

end BraceScript.Eval
