import BraceScript.Proofs.Eval.Settings

/-!
# Code that does not see a name

Code is the same in two settings that differ in a name `x` only if it does not look the name up
itself, and if it ends without a call of a function that does so (`unseen`). The functions that
do never end in the first of the settings, so nothing has to be said of them.
-/

namespace BraceScript.Eval

open Code

section
variable {x : String} {k k' : Setting} {L : Variables → Prop} {α β : Type} {n : Nat}

/-! ## Functions that never end -/

/-- A loop whose condition holds and whose body goes on never ends. -/
theorem loopWhile_endless {condition : Eval Bool} {body : Eval Flow} {s : Store}
    (hcondition : condition s = (.ok true, s)) (hbody : body s = (.ok .next, s)) (n : Nat) :
    loopWhile condition body n s = (.error .outOfFuel, s) := by
  induction n with
  | zero => rfl
  | succ n ih =>
    unfold loopWhile
    rw [bind_of_ok _ hcondition, if_pos rfl, bind_of_ok _ hbody]
    exact ih

theorem runAll_endless (n : Nat) (frame : Frame) (s : Store) :
    (runAll (exec n frame) endless s).1 = .error .outOfFuel := by
  have hloop : exec n frame (.while .true [.pass]) s = (.error .outOfFuel, s) := by
    cases n with
    | zero => rfl
    | succ n =>
      unfold exec
      show loopWhile _ _ n s = _
      cases n with
      | zero => rfl
      | succ n => exact loopWhile_endless rfl rfl _
  have hrest : runAll (exec n frame) endless s = (.error .outOfFuel, s) := by
    unfold endless runAll
    rw [stateBind_apply, hloop]
  rw [hrest]

/-! ## Code -/

/-- Code does the same in both settings. An expression does so wherever the names do that it looks
up. -/
structure Unseen (k k' : Setting) (n : Nat) : Prop where
  value {L : Variables → Prop} {frame : Frame} {e : Expr}
    (he : ∀ y ∈ lookedUp e, Steady k k' L (valueOf frame y)) : Steady k k' L (eval n frame e)
  values {L : Variables → Prop} {frame : Frame} {es : List Expr}
    (hes : ∀ y ∈ lookedUpAll es, Steady k k' L (valueOf frame y)) :
    Steady k k' L (evalAll n frame es)
  call {L : Variables → Prop} (f : Value) (args : List Value) : Steady k k' L (apply n f args)
  statement {frame : Frame} {s : Stmt}
    (hs : ∀ y ∈ namesUsed s, Steady k k' Anywhere (valueOf frame y)) :
    Steady k k' Anywhere (exec n frame s)
  assignment {frame : Frame} {t : Expr}
    (ht : ∀ y ∈ lookedUp t, Steady k k' Anywhere (valueOf frame y)) (v : Value) :
    Steady k k' Anywhere (store n frame t v)
  change {frame : Frame} {t e : Expr}
    (ht : ∀ y ∈ lookedUp t, Steady k k' Anywhere (valueOf frame y))
    (he : ∀ y ∈ lookedUp e, Steady k k' Anywhere (valueOf frame y)) (op : AugmentOp) :
    Steady k k' Anywhere (update n frame t op e)

/-- A computation that does the same in both settings if its calls do. -/
def Follows (k k' : Setting) (L : Variables → Prop) (caller : Caller) {α : Type} (a : Calling α) :
    Prop := Steady k k' L (a caller)

variable {caller : Caller}

theorem Follows.lift {a : Eval α} (h : Steady k k' L a) :
    Follows k k' L caller (liftM a : Calling α) := h

theorem Follows.pure (a : α) : Follows k k' L caller (pure a : Calling α) := Steady.pure a

theorem Follows.bind {a : Calling α} {f : α → Calling β} (ha : Follows k k' L caller a)
    (hf : ∀ v, Follows k k' L caller (f v)) : Follows k k' L caller (a >>= f) := Steady.bind ha hf

/-- An operation with the calls of code. -/
theorem Unseen.operation (hn : Unseen k k' n) (h : k.Mutes x k') {a : Calling α} (ha : Made "" a) :
    Follows k k' L (apply n) a := ha.steady h hn.call

theorem Unseen.setting (hn : Unseen k k' n) (h : k.Mutes x k') (self : Value) (name : String)
    (v : Value) : Follows k k' L (apply n) (setAttribute self name v) := by
  obtain ⟨y, hset⟩ := exists_setAttribute_made self name v
  exact hset.steady h hn.call

theorem mem_lookedUpAll {y : String} {e : Expr} {es : List Expr} (he : e ∈ es)
    (hy : y ∈ lookedUp e) : y ∈ lookedUpAll es := by
  induction es with
  | nil => cases he
  | cons e' es ih =>
    rw [lookedUpAll, List.mem_append]
    rcases List.mem_cons.mp he with rfl | he
    · exact .inl hy
    · exact .inr (ih he)

theorem mem_namesUsedAll {y : String} {s : Stmt} {ss : List Stmt} (hs : s ∈ ss)
    (hy : y ∈ namesUsed s) : y ∈ namesUsedAll ss := by
  induction ss with
  | nil => cases hs
  | cons s' ss ih =>
    rw [namesUsedAll, List.mem_append]
    rcases List.mem_cons.mp hs with rfl | hs
    · exact .inl hy
    · exact .inr (ih hs)

theorem mem_namesUsedHandlers {y type : String} {name : Option String} {body : List Stmt}
    {hs : List Handler} (hmem : .mk type name body ∈ hs) (hy : y = type ∨ y ∈ namesUsedAll body) :
    y ∈ namesUsedHandlers hs := by
  induction hs with
  | nil => cases hmem
  | cons one hs ih =>
    obtain ⟨type', name', body'⟩ := one
    rw [namesUsedHandlers, List.mem_cons, List.mem_append]
    rcases List.mem_cons.mp hmem with heq | hmem
    · cases heq
      exact hy.imp_right .inl
    · exact .inr (.inr (ih hmem))

theorem Unseen.block (hn : Unseen k k' n) {frame : Frame} {ss : List Stmt}
    (hss : ∀ y ∈ namesUsedAll ss, Steady k k' Anywhere (valueOf frame y)) :
    Steady k k' Anywhere (runAll (exec n frame) ss) :=
  runAll_steady fun _ hs => hn.statement fun y hy => hss y (mem_namesUsedAll hs hy)

theorem Unseen.value_succ (hn : Unseen k k' n) (h : k.Mutes x k') {frame : Frame} {e : Expr}
    (he : ∀ y ∈ lookedUp e, Steady k k' L (valueOf frame y)) :
    Steady k k' L (eval (n + 1) frame e) := by
  have hvalue {e : Expr} (he : ∀ y ∈ lookedUp e, Steady k k' L (valueOf frame y)) :
      Follows k k' L (apply n) (liftM (eval n frame e)) := hn.value he
  have hvalues {es : List Expr} (hes : ∀ y ∈ lookedUpAll es, Steady k k' L (valueOf frame y)) :
      Follows k k' L (apply n) (liftM (evalAll n frame es)) := hn.values hes
  unfold eval
  refine (?_ : Follows k k' L (apply n) _)
  cases e with
  | name y => exact .lift (he y List.mem_cons_self)
  | number | text | true | false | none => exact .pure _
  | group e => exact hvalue he
  | list es => exact (hvalues he).bind fun vs => hn.operation h (.lift (newList_plain _))
  | attr e y =>
    rw [lookedUp] at he
    exact (hvalue he).bind fun v => hn.operation h (attrOf_made v _)
  | call f es =>
    rw [lookedUp, List.forall_mem_append] at he
    refine (hvalue he.1).bind fun f => (hvalues he.2).bind fun args => ?_
    split
    · exact .lift (superIn_steady h frame)
    · exact hn.call f args
  | index e i =>
    rw [lookedUp, List.forall_mem_append] at he
    exact (hvalue he.1).bind fun v => (hvalue he.2).bind fun place =>
      hn.operation h (index_made v place)
  | unary op e =>
    rw [lookedUp] at he
    cases op with
    | not => exact (hvalue he).bind fun v => (hn.operation h (truth_made v)).bind fun _ => .pure _
    | neg => exact (hvalue he).bind fun v => hn.operation h (negative_made v)
  | binary op l r =>
    rw [lookedUp, List.forall_mem_append] at he
    obtain ⟨hl, hr⟩ := he
    cases op with
    | or =>
      refine (hvalue hl).bind fun v => (hn.operation h (truth_made v)).bind fun holds => ?_
      split
      · exact .pure _
      · exact hvalue hr
    | and =>
      refine (hvalue hl).bind fun v => (hn.operation h (truth_made v)).bind fun holds => ?_
      split
      · exact hvalue hr
      · exact .pure _
    | _ =>
      exact (hvalue hl).bind fun v => (hvalue hr).bind fun w => hn.operation h (binary_made _ v w)
  | choose v c o =>
    rw [lookedUp, List.forall_mem_append, List.forall_mem_append] at he
    refine (hvalue he.2.1).bind fun test => (hn.operation h (truth_made test)).bind fun holds => ?_
    split
    · exact hvalue he.1
    · exact hvalue he.2.2

theorem Unseen.values_succ (hn : Unseen k k' n) {frame : Frame} {es : List Expr}
    (hes : ∀ y ∈ lookedUpAll es, Steady k k' L (valueOf frame y)) :
    Steady k k' L (evalAll (n + 1) frame es) := by
  unfold evalAll
  exact .mapM fun e he => hn.value fun y hy => hes y (mem_lookedUpAll he hy)

/-- What a function does in a call. -/
def runFunction (n : Nat) (f : Closure) (args : List Value) : Eval Value := do
  withLocals (← check (parameters f args)) do
    return (← runAll (exec n (frameOf f)) f.body).value

theorem apply_function (n p : Nat) (args : List Value) (s : Store) :
    apply (n + 1) (.function p) args s = runFunction n (s.function p) args s := by
  unfold apply
  rw [bind_of_ok _ (get_eq_ok s)]
  rfl

/-- A function that does not look the name up does the same in both settings. -/
theorem Unseen.function (hn : Unseen k k' n) (h : k.Mutes x k') {f : Closure}
    (hf : f.avoids x = true) (args : List Value) : Steady k k' L (runFunction n f args) := by
  have hnames : ∀ y ∈ namesUsedAll f.body, Steady k k' Anywhere (valueOf (frameOf f) y) := by
    intro y hy
    refine valueOf_steady h fun hmeant => .inl ?_
    unfold Closure.avoids at hf
    rcases Bool.or_eq_true _ _ ▸ hf with hown | hbody
    · exact List.contains_iff_mem.mp hown
    · exact absurd hmeant (bne_iff_ne.mp (List.all_eq_true.mp hbody y hy))
  refine ((check_plain (x := "") _).steady h).bind fun names => ?_
  exact ((hn.block hnames).bind fun flow => .pure flow.value).withLocals

/-- A function that looks the name up does not end, if it can be called so. -/
theorem runFunction_muted {f : Closure} (hf : f.avoids x = false) (n : Nat) {args : List Value}
    {names : Variables} (hnames : parameters f args = .ok names) (s : Store) :
    (runFunction n (f.muted x) args s).1 = .error .outOfFuel := by
  have hmuted : f.muted x = { f with body := endless } := by
    rw [Closure.muted, hf]
    rfl
  have hcheck : check (parameters (f.muted x) args) s = (.ok names, s) := by
    rw [hmuted]
    exact congrArg (fun r => check r s) hnames
  have hbody := runAll_endless n (frameOf (f.muted x)) (s.scoped names)
  unfold runFunction
  rw [bind_of_ok _ hcheck, hmuted]
  rw [hmuted] at hbody
  show ((Flow.value <$> runAll (exec n _) endless) (s.scoped names)).1 = _
  rw [map_eq_pure_bind, stateBind_apply]
  rcases hrun : runAll (exec n (frameOf { f with body := endless })) endless (s.scoped names)
    with ⟨r, t⟩
  rw [hrun] at hbody
  cases hbody
  rfl

theorem Unseen.call_succ (hn : Unseen k k' n) (h : k.Mutes x k') (f : Value) (args : List Value) :
    Steady k k' L (apply (n + 1) f args) := by
  cases f with
  | function p =>
    intro s hs
    rw [apply_function, apply_function, h.function]
    generalize (s.inside k').function p = f
    by_cases hf : f.avoids x
    · rw [Closure.muted, if_pos hf]
      exact hn.function h hf args s hs
    · rw [Bool.not_eq_true] at hf
      cases hparameters : parameters f args with
      | ok names => exact .inl (runFunction_muted hf n hparameters _)
      | error e =>
        have hfail (g : Closure) (hg : parameters g args = .error e) (r : Store) :
            runFunction n g args r = (fail e : Eval Value) r := by
          unfold runFunction
          rw [hg]
          rfl
        rw [hfail _ hparameters, hfail _ (by
          rw [Closure.muted, hf]
          exact hparameters)]
        exact (fail_plain (x := "") e).steady h s hs
  | _ =>
    unfold apply
    exact (applyOther_made (x := "") _ _).steady h hn.call

theorem Unseen.assignment_succ (hn : Unseen k k' n) (h : k.Mutes x k') {frame : Frame} {t : Expr}
    (ht : ∀ y ∈ lookedUp t, Steady k k' Anywhere (valueOf frame y)) (v : Value) :
    Steady k k' Anywhere (store (n + 1) frame t v) := by
  have hvalue {e : Expr} (he : ∀ y ∈ lookedUp e, Steady k k' Anywhere (valueOf frame y)) :
      Follows k k' Anywhere (apply n) (liftM (eval n frame e)) := hn.value he
  unfold store
  refine (?_ : Follows k k' Anywhere (apply n) _)
  cases t with
  | name y => exact .lift (assignName_steady frame y v)
  | group t =>
    rw [lookedUp] at ht
    exact .lift (hn.assignment ht v)
  | attr e y =>
    rw [lookedUp] at ht
    exact (hvalue ht).bind fun self => hn.setting h self (frame.meant y) v
  | index e i =>
    rw [lookedUp, List.forall_mem_append] at ht
    exact (hvalue ht.1).bind fun list => (hvalue ht.2).bind fun place =>
      hn.operation h (setIndex_made list place v)
  | _ => exact .pure _

theorem Unseen.change_succ (hn : Unseen k k' n) (h : k.Mutes x k') {frame : Frame} {t e : Expr}
    (ht : ∀ y ∈ lookedUp t, Steady k k' Anywhere (valueOf frame y))
    (he : ∀ y ∈ lookedUp e, Steady k k' Anywhere (valueOf frame y)) (op : AugmentOp) :
    Steady k k' Anywhere (update (n + 1) frame t op e) := by
  have hvalue {e : Expr} (he : ∀ y ∈ lookedUp e, Steady k k' Anywhere (valueOf frame y)) :
      Follows k k' Anywhere (apply n) (liftM (eval n frame e)) := hn.value he
  unfold update
  refine (?_ : Follows k k' Anywhere (apply n) _)
  cases t with
  | name y =>
    refine Follows.bind (.lift (ht y List.mem_cons_self)) fun old => (hvalue he).bind fun v => ?_
    exact (hn.operation h (augmented_made op old v)).bind fun new =>
      .lift (assignName_steady frame y new)
  | group t =>
    rw [lookedUp] at ht
    exact .lift (hn.change ht he op)
  | attr t y =>
    rw [lookedUp] at ht
    refine (hvalue ht).bind fun self => (hn.operation h (attrOf_made self _)).bind fun old => ?_
    refine (hvalue he).bind fun v => (hn.operation h (augmented_made op old v)).bind fun new => ?_
    exact hn.setting h self (frame.meant y) new
  | index t i =>
    rw [lookedUp, List.forall_mem_append] at ht
    refine (hvalue ht.1).bind fun list => (hvalue ht.2).bind fun place => ?_
    refine (hn.operation h (index_made list place)).bind fun old => (hvalue he).bind fun v => ?_
    exact (hn.operation h (augmented_made op old v)).bind fun new =>
      hn.operation h (setIndex_made list place new)
  | _ => exact .pure _

theorem Unseen.statement_succ (hn : Unseen k k' n) (h : k.Mutes x k') {frame : Frame} {s : Stmt}
    (hs : ∀ y ∈ namesUsed s, Steady k k' Anywhere (valueOf frame y)) :
    Steady k k' Anywhere (exec (n + 1) frame s) := by
  have hvalue {e : Expr} (he : ∀ y ∈ lookedUp e, Steady k k' Anywhere (valueOf frame y)) :
      Follows k k' Anywhere (apply n) (liftM (eval n frame e)) := hn.value he
  unfold exec
  refine (?_ : Follows k k' Anywhere (apply n) _)
  cases s with
  | pass | brk | cont => exact .pure _
  | expr e => exact (hvalue hs).bind fun _ => .pure _
  | assign t e =>
    rw [namesUsed, List.forall_mem_append] at hs
    exact (hvalue hs.2).bind fun v => Follows.bind (.lift (hn.assignment hs.1 v)) fun _ => .pure _
  | augment t op e =>
    rw [namesUsed, List.forall_mem_append] at hs
    exact Follows.bind (.lift (hn.change hs.1 hs.2 op)) fun _ => .pure _
  | ret e =>
    cases e with
    | none => exact .pure _
    | some e =>
      rw [namesUsed] at hs
      exact (hvalue hs).bind fun _ => .pure _
  | raise e =>
    cases e with
    | none => exact hn.operation h (.lift raiseAgain_plain)
    | some e =>
      rw [namesUsed] at hs
      exact (hvalue hs).bind fun v => hn.operation h (raiseValue_made v)
  | ite c b t =>
    rw [namesUsed, List.forall_mem_append, List.forall_mem_append] at hs
    obtain ⟨hc, hb, ht⟩ := hs
    refine (hvalue hc).bind fun v => (hn.operation h (truth_made v)).bind fun holds => ?_
    split
    · exact hn.block hb
    · cases t with
      | none => exact .pure _
      | otherwise b => exact hn.block ht
      | elif c b t => exact hn.statement ht
  | «while» c b =>
    rw [namesUsed, List.forall_mem_append] at hs
    have hcondition := (hvalue hs.1).bind fun v => hn.operation h (truth_made v)
    exact loopWhile_steady hcondition (hn.block hs.2) n
  | forIn y e b =>
    rw [namesUsed, List.forall_mem_append] at hs
    refine (hvalue hs.1).bind fun v => (hn.operation h (start_made v)).bind fun cursor => ?_
    refine loopItems_steady (fun c => hn.operation h (advance_made c)) (fun v => ?_) cursor n
    exact (assignName_steady frame y v).bind fun _ => hn.block hs.2
  | attempt b handlers cleanup =>
    have hparts : (∀ y ∈ namesUsedAll b, Steady k k' Anywhere (valueOf frame y))
        ∧ (∀ y ∈ namesUsedHandlers handlers, Steady k k' Anywhere (valueOf frame y))
        ∧ ∀ f, cleanup = some f → ∀ y ∈ namesUsedAll f, Steady k k' Anywhere (valueOf frame y) := by
      cases cleanup with
      | none =>
        rw [namesUsed, List.forall_mem_append] at hs
        exact ⟨hs.1, hs.2, fun f hf => absurd hf.symm (Option.some_ne_none f)⟩
      | some f =>
        rw [namesUsed, List.forall_mem_append, List.forall_mem_append] at hs
        refine ⟨hs.1, hs.2.1, fun f' hf => ?_⟩
        cases hf
        exact hs.2.2
    obtain ⟨hb, hhandlers, hcleanup⟩ := hparts
    have hhandle (e : Value) :
        Steady k k' Anywhere (handle frame (runAll (exec n frame)) e handlers) :=
      handle_steady h e (fun _ _ _ hmem => hhandlers _ (mem_namesUsedHandlers hmem (.inl rfl)))
        fun _ _ _ hmem => hn.block fun y hy => hhandlers y (mem_namesUsedHandlers hmem (.inr hy))
    have hguarded : Steady k k' Anywhere (if handlers.isEmpty then runAll (exec n frame) b
        else guarded (runAll (exec n frame) b) fun e =>
          handle frame (runAll (exec n frame)) e handlers) := by
      split
      · exact hn.block hb
      · exact guarded_steady (hn.block hb) hhandle
    cases cleanup with
    | none => exact hguarded
    | some f => exact finally_steady hguarded (hn.block (hcleanup f rfl))

/-- Code does the same in both settings, as far as it has fuel in the one that is muted. -/
theorem unseen (h : k.Mutes x k') (n : Nat) : Unseen k k' n := by
  induction n with
  | zero =>
    constructor
    case value => intros; unfold eval; exact .throw _
    case values => intros; unfold evalAll; exact .throw _
    case call => intros; unfold apply; exact .throw _
    case statement => intros; unfold exec; exact .throw _
    case assignment => intros; unfold store; exact .throw _
    case change => intros; unfold update; exact .throw _
  | succ n hn => exact ⟨hn.value_succ h, hn.values_succ, hn.call_succ h, hn.statement_succ h,
      hn.assignment_succ h, hn.change_succ h⟩

/-! ## What a name stands for -/

/-- A store in which functions that look a name up never end. -/
def Store.muted (s : Store) (x : String) : Store :=
  { s with functions := s.functions.map (Closure.muted x) }

theorem Store.muted_eq_inside (s : Store) (x : String) :
    s.muted x = s.inside ⟨s.globals, fun p => (s.function p).muted x⟩ := by
  have hfunctions : s.functions.map (Closure.muted x)
      = s.functions.mapIdx fun p f => f.running ((s.function p).muted x) := by
    refine Array.ext (by simp) fun p hp hp' => ?_
    have hlt : p < s.functions.size := by simpa using hp
    have hrunning (f : Closure) : f.running (f.muted x) = f.muted x := by
      unfold Closure.muted
      split <;> rfl
    simp [Store.function, Array.getElem?_eq_getElem hlt, hrunning]
  rw [muted, hfunctions]
  rfl

/-- A store in which the names of the program stand for something else. -/
def Store.withGlobals (s : Store) (names : Variables) : Store := { s with globals := names }

theorem Store.inside_inside (s : Store) (k k' : Setting) : (s.inside k).inside k' = s.inside k' :=
  s.amid_amid _ _

/-- The value of an expression does not depend on what a name stands for that it does not mean as a
name of the program, if it is found without a call of a function that looks the name up. -/
theorem eval_unseen {n : Nat} {frame : Frame} {e : Expr} {x : String} {s : Store}
    (hrelied : ¬Relied x)
    (he : ∀ y ∈ lookedUp e, frame.meant y = x → x ∈ frame.ownNames ∨ s.locals.has x = true)
    (hfuel : (eval n frame e (s.muted x)).1 ≠ .error .outOfFuel) {names : Variables}
    (hnames : ∀ y ≠ x, names.get? y = s.globals.get? y) :
    ∃ r t, eval n frame e s = (r, t)
      ∧ eval n frame e (s.withGlobals names) = (r, t.withGlobals names) := by
  let k : Setting := ⟨s.globals, fun p => (s.function p).muted x⟩
  let L : Variables → Prop := fun names => s.locals.has x = true → names.has x = true
  rw [s.muted_eq_inside] at hfuel
  -- The run in the muted setting is the same as that in either of the others.
  have hrun (G : Variables) (hG : ∀ y ≠ x, G.get? y = s.globals.get? y) :
      ∃ (r : Except Stop Value) (t : Store), eval n frame e (s.inside k) = (r, t.inside k)
        ∧ eval n frame e (s.inside ⟨G, s.function⟩) = (r, t.inside ⟨G, s.function⟩) := by
    have hmutes : k.Mutes x ⟨G, s.function⟩ := ⟨hrelied, fun y hy => (hG y hy).symm, fun _ => rfl⟩
    have hvalue : Steady k ⟨G, s.function⟩ L (eval n frame e) :=
      (unseen hmutes n).value fun y hy => valueOf_steady hmutes fun hmeant =>
        (he y hy hmeant).imp_right fun hhas _ hL => hL hhas
    obtain ⟨r, t, -, ht, ht'⟩ := (hvalue s id).resolve_left hfuel
    exact ⟨r, t, ht, ht'⟩
  obtain ⟨r, t, ht, hs⟩ := hrun s.globals fun _ _ => rfl
  obtain ⟨r', t', ht', hs'⟩ := hrun names hnames
  obtain ⟨rfl, hsame⟩ := Prod.mk.inj (ht.symm.trans ht')
  refine ⟨r, t.inside s.setting, ?_, ?_⟩
  · have hself : s.inside ⟨s.globals, s.function⟩ = s := s.inside_setting
    rwa [hself] at hs
  · have hother : s.inside ⟨names, s.function⟩ = s.withGlobals names := by
      show (s.inside s.setting).withGlobals names = _
      rw [s.inside_setting]
    have hend : t'.inside ⟨names, s.function⟩ = t.inside ⟨names, s.function⟩ := by
      rw [← t'.inside_inside k, ← hsame, t.inside_inside]
    rw [← hother, hs', hend]
    rfl

end

end BraceScript.Eval
