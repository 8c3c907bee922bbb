import BraceScript.Proofs.Eval.Operations

/-!
# What running code leaves

Expressions, calls and statements change no more than `Evolves` allows, whatever the store, the
fuel and the code: expressions and calls leave the variables of the current scope as well
(`eval_leaves`, `apply_leaves`), and a statement must not assign the attribute in question itself
(`exec_runs`).
-/

namespace BraceScript.Eval

open Code

section
variable {x : String} {α : Type}

/-! ## Blocks and loops -/

theorem runAll_runs {run : Stmt → Eval Flow} {ss : List Stmt} (hrun : ∀ s ∈ ss, Runs x (run s)) :
    Runs x (runAll run ss) := by
  induction ss with
  | nil => exact .pure _
  | cons s ss ih =>
    obtain ⟨hs, hss⟩ := List.forall_mem_cons.mp hrun
    refine hs.bind fun flow => ?_
    cases flow with
    | next => exact ih hss
    | brk | cont | ret => exact .pure _

theorem loopWhile_runs {condition : Eval Bool} {body : Eval Flow} (hcondition : Runs x condition)
    (hbody : Runs x body) (n : Nat) : Runs x (loopWhile condition body n) := by
  induction n with
  | zero => exact .throw _
  | succ n ih =>
    unfold loopWhile
    grind

theorem loopItems_runs {advance : Cursor → Eval (Option (Value × Cursor))}
    {body : Value → Eval Flow} (hadvance : ∀ c, Runs x (advance c)) (hbody : ∀ v, Runs x (body v))
    (c : Cursor) (n : Nat) : Runs x (loopItems advance body c n) := by
  induction n generalizing c with
  | zero => exact .throw _
  | succ n ih =>
    unfold loopItems
    grind

/-! ## Names and exceptions -/

theorem reading_leaves (f : Store → Except Fault α) : Leaves x (reading f) := by
  unfold reading
  grind

@[grind ←]
theorem valueOf_leaves (frame : Frame) (name : String) : Leaves x (valueOf frame name) := by
  unfold valueOf
  grind

@[grind ←]
theorem raiseAgain_plain : Plain x (raiseAgain : Eval α) := by
  unfold raiseAgain
  simp (disch := simp) only [get_bind_eval]
  grind

@[grind ←]
theorem catches_plain (type exception : Value) : Plain x (catches type exception) := by
  unfold catches
  simp (disch := simp) only [get_bind_eval]
  grind

theorem handle_runs {block : List Stmt → Eval Flow} {hs : List Handler} (frame : Frame)
    (exception : Value) (hblock : ∀ type name body, .mk type name body ∈ hs → Runs x (block body)) :
    Runs x (handle frame block exception hs) := by
  induction hs with
  | nil => exact .raise _
  | cons h hs ih =>
    obtain ⟨type, name, body⟩ := h
    have hbody := hblock type name body List.mem_cons_self
    have hrest := ih fun type name body hmem => hblock type name body (List.mem_cons_of_mem _ hmem)
    unfold handle
    refine (valueOf_leaves frame type).runs.bind fun v => ?_
    refine (catches_plain v exception).leaves.runs.bind fun caught => ?_
    split
    · cases name with
      | none => exact hbody
      | some y =>
        refine (Runs.assignName frame y exception).bind fun _ => ?_
        refine hbody.settle fun r => (Runs.forgetName frame y).bind fun _ => ?_
        cases r with
        | ok flow => exact .pure flow
        | error e => exact .throw e
    · exact hrest

theorem guarded_runs {body : Eval Flow} {handlers : Value → Eval Flow} (hbody : Runs x body)
    (hhandlers : ∀ e, Runs x (handlers e)) : Runs x (guarded body handlers) := by
  unfold guarded
  grind

theorem finally_runs {body after : Eval Flow} (hbody : Runs x body) (hafter : Runs x after) :
    Runs x (finally_ body after) := by
  unfold finally_
  grind

/-! ## Calls -/

@[grind ←]
theorem superIn_leaves (frame : Frame) : Leaves x (superIn frame) := by
  unfold superIn
  grind

@[grind ←]
theorem applyOther_made (f : Value) (args : List Value) : Made x (applyOther f args) := by
  unfold applyOther
  simp (disch := simp) only [get_bind_calling]
  grind

/-! ## Attributes of parts -/

theorem mem_attrsSetAll {y : String} {s : Stmt} {ss : List Stmt} (hs : s ∈ ss)
    (hy : y ∈ attrsSet s) : y ∈ attrsSetAll ss := by
  induction ss with
  | nil => cases hs
  | cons t ss ih =>
    rw [attrsSetAll, List.mem_append]
    rcases List.mem_cons.mp hs with rfl | hs
    · exact .inl hy
    · exact .inr (ih hs)

theorem mem_attrsSetHandlers {y type : String} {name : Option String} {body : List Stmt}
    {hs : List Handler} (hh : .mk type name body ∈ hs) (hy : y ∈ attrsSetAll body) :
    y ∈ attrsSetHandlers hs := by
  induction hs with
  | nil => cases hh
  | cons h hs ih =>
    obtain ⟨type', name', body'⟩ := h
    rw [attrsSetHandlers, List.mem_append]
    rcases List.mem_cons.mp hh with heq | hh
    · cases heq
      exact .inl hy
    · exact .inr (ih hh)

/-! ## Code -/

/-- What running code leaves with some fuel. -/
structure Tame (x : String) (n : Nat) : Prop where
  value (frame : Frame) (e : Expr) : Leaves x (eval n frame e)
  values (frame : Frame) (es : List Expr) : Leaves x (evalAll n frame es)
  call (f : Value) (args : List Value) : Leaves x (apply n f args)
  statement (frame : Frame) (s : Stmt) (hs : ∀ y ∈ attrsSet s, frame.meant y ≠ x) :
    Runs x (exec n frame s)
  assignment (frame : Frame) (t : Expr) (v : Value) (ht : ∀ y ∈ targetAttr t, frame.meant y ≠ x) :
    Runs x (store n frame t v)
  change (frame : Frame) (t : Expr) (op : AugmentOp) (e : Expr)
    (ht : ∀ y ∈ targetAttr t, frame.meant y ≠ x) : Runs x (update n frame t op e)

section
variable {n : Nat}

/-- A block leaves what its statements leave. -/
theorem Tame.block (h : Tame x n) {frame : Frame} {ss : List Stmt}
    (hss : ∀ y ∈ attrsSetAll ss, frame.meant y ≠ x) : Runs x (runAll (exec n frame) ss) :=
  runAll_runs fun s hs => h.statement frame s fun y hy => hss y (mem_attrsSetAll hs hy)

/-- With fuel for the parts, an expression leaves what its operations leave. -/
theorem Tame.value_succ (h : Tame x n) (frame : Frame) (e : Expr) :
    Leaves x (eval (n + 1) frame e) := by
  have hvalue (e : Expr) := Obeys.lift (h.value frame e)
  have hvalues (es : List Expr) := Obeys.lift (h.values frame es)
  unfold eval
  refine (?_ : Obeys x _) _ h.call
  split
  all_goals grind

theorem Tame.values_succ (h : Tame x n) (frame : Frame) (es : List Expr) :
    Leaves x (evalAll (n + 1) frame es) := by
  unfold evalAll
  exact .mapM (h.value frame)

/-- A call leaves what the body of the function leaves: no function of the store assigns the
attribute. -/
theorem Tame.call_succ (h : Tame x n) (f : Value) (args : List Value) :
    Leaves x (apply (n + 1) f args) := by
  cases f with
  | function p =>
    intro s hs
    have hbody : Runs x (runAll (exec n (frameOf (s.function p))) (s.function p).body) :=
      h.block (hs.functions p)
    have hscope (names : Variables) : Leaves x (withLocals names (Flow.value <$> runAll
        (exec n (frameOf (s.function p))) (s.function p).body)) :=
      .withLocals (hbody.bind fun flow => .pure flow.value)
    have hcall := (check_plain (parameters (s.function p) args)).leaves.bind hscope
    unfold apply
    exact hcall s hs
  | _ =>
    unfold apply
    exact (applyOther_made _ _).obeys _ h.call

theorem Tame.assignment_succ (h : Tame x n) (frame : Frame) (t : Expr) (v : Value)
    (ht : ∀ y ∈ targetAttr t, frame.meant y ≠ x) : Runs x (store (n + 1) frame t v) := by
  have hvalue (e : Expr) := Obeys.lift (h.value frame e)
  unfold store
  refine (?_ : Does x _) _ h.call
  split
  · exact .lift (.assignName _ _ _)
  · exact .lift (h.assignment frame _ v ht)
  · next e y =>
    have hy : frame.meant y ≠ x := ht y List.mem_cons_self
    exact ((hvalue e).bind fun self => (setAttribute_made (fun _ _ => hy) self v).obeys).does
  · next e i =>
    exact ((hvalue e).bind fun list => (hvalue i).bind fun place =>
      (setIndex_made _ _ _).obeys).does
  · exact .pure _

theorem Tame.change_succ (h : Tame x n) (frame : Frame) (t : Expr) (op : AugmentOp) (e : Expr)
    (ht : ∀ y ∈ targetAttr t, frame.meant y ≠ x) : Runs x (update (n + 1) frame t op e) := by
  have hvalue (e : Expr) := Obeys.lift (h.value frame e)
  unfold update
  refine (?_ : Does x _) _ h.call
  split
  · next y =>
    have hnew : Obeys x (do
        let old ← liftM (valueOf frame y)
        augmented op old (← liftM (eval n frame e))) := by grind
    grind [Obeys.does]
  · exact .lift (h.change frame _ op e ht)
  · next e' y =>
    have hy : frame.meant y ≠ x := ht y List.mem_cons_self
    refine ((hvalue e').bind fun self => ?_).does
    refine (attrOf_made self _).obeys.bind fun old => (hvalue e).bind fun v => ?_
    exact (augmented_made op old v).obeys.bind fun new =>
      (setAttribute_made (fun _ _ => hy) self new).obeys
  · refine ((hvalue _).bind fun list => (hvalue _).bind fun place => ?_).does
    refine (index_made list place).obeys.bind fun old => (hvalue e).bind fun v => ?_
    exact (augmented_made op old v).obeys.bind fun new => (setIndex_made list place new).obeys
  · exact .pure _

theorem Tame.statement_succ (h : Tame x n) (frame : Frame) (s : Stmt)
    (hs : ∀ y ∈ attrsSet s, frame.meant y ≠ x) : Runs x (exec (n + 1) frame s) := by
  have hvalue (e : Expr) := Obeys.lift (h.value frame e)
  unfold exec
  refine (?_ : Does x _) _ h.call
  cases s with
  | pass | brk | cont => exact .pure _
  | expr e => exact ((hvalue e).bind fun _ => .pure _).does
  | assign t e =>
    refine (hvalue e).does.bind fun v => ?_
    exact (Does.lift (h.assignment frame t v hs)).bind fun _ => .pure _
  | augment t op e => exact (Does.lift (h.change frame t op e hs)).bind fun _ => .pure _
  | ret v => cases v <;> grind [Obeys.does]
  | raise v => cases v <;> grind [Obeys.does]
  | ite c b t =>
    have hb : ∀ y ∈ attrsSetAll b, frame.meant y ≠ x := fun y hy =>
      hs y (List.mem_append_left _ hy)
    have ht : ∀ y ∈ attrsSetTail t, frame.meant y ≠ x := fun y hy =>
      hs y (List.mem_append_right _ hy)
    refine (hvalue c).does.bind fun test => (truth_made test).obeys.does.bind fun holds => ?_
    split
    · exact .lift (h.block hb)
    · cases t with
      | none => exact .pure _
      | otherwise b => exact .lift (h.block ht)
      | elif c b t => exact .lift (h.statement frame (.ite c b t) ht)
  | «while» c b =>
    have hcondition := (hvalue c).bind fun v => (truth_made v).obeys
    exact .lift (loopWhile_runs (hcondition _ h.call).runs (h.block hs) n)
  | forIn y e b =>
    refine (hvalue e).does.bind fun v => (start_made v).obeys.does.bind fun cursor => ?_
    refine .lift (loopItems_runs (fun c => ((advance_made c).obeys _ h.call).runs) (fun v => ?_)
      cursor n)
    exact (Runs.assignName frame y v).bind fun _ => h.block hs
  | attempt b handlers cleanup =>
    have hparts : (∀ y ∈ attrsSetAll b, frame.meant y ≠ x)
        ∧ (∀ y ∈ attrsSetHandlers handlers, frame.meant y ≠ x)
        ∧ ∀ f, cleanup = some f → ∀ y ∈ attrsSetAll f, frame.meant y ≠ x := by
      cases cleanup <;> grind [attrsSet]
    obtain ⟨hb, hhandlers, hcleanup⟩ := hparts
    have hhandle (e : Value) : Runs x (handle frame (runAll (exec n frame)) e handlers) :=
      handle_runs frame e fun _ _ _ hmem =>
        h.block fun y hy => hhandlers y (mem_attrsSetHandlers hmem hy)
    have hguarded : Runs x (if handlers.isEmpty then runAll (exec n frame) b
        else guarded (runAll (exec n frame) b) fun e =>
          handle frame (runAll (exec n frame)) e handlers) := by
      split
      · exact h.block hb
      · exact guarded_runs (h.block hb) hhandle
    cases cleanup with
    | none => exact .lift hguarded
    | some f => exact .lift (finally_runs hguarded (h.block (hcleanup f rfl)))

/-- Code leaves this with any amount of fuel. -/
theorem tame (n : Nat) : Tame x n := by
  induction n with
  | zero =>
    constructor
    case value => intros; unfold eval; exact .throw _
    case values => intros; unfold evalAll; exact .throw _
    case call => intros; unfold apply; exact .throw _
    case statement => intros; unfold exec; exact .throw _
    case assignment => intros; unfold store; exact .throw _
    case change => intros; unfold update; exact .throw _
  | succ n h => exact ⟨h.value_succ, h.values_succ, h.call_succ, h.statement_succ, h.assignment_succ,
      h.change_succ⟩

end

/-- The value of an expression is found without changing more than `Evolves` allows. -/
theorem eval_leaves (n : Nat) (frame : Frame) (e : Expr) : Leaves x (eval n frame e) :=
  (tame n).value frame e

/-- A call changes no more than `Evolves` allows. -/
theorem apply_leaves (n : Nat) (f : Value) (args : List Value) : Leaves x (apply n f args) :=
  (tame n).call f args

end

end BraceScript.Eval
