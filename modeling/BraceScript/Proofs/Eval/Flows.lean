import BraceScript.Proofs.Eval.Fuel
import BraceScript.Lowering.Stmt

/-!
# How statements end

A statement that raises nothing falls through, leaves its loop, goes on with the next round of it or
leaves its function. `Flows P a` says that `a` ends in the ways `P` only. Code without a `continue`
never goes on with the next round of a loop around it (`exec_flows`).
-/

namespace BraceScript.Eval

open Code Lowering

section
variable {α β : Type}

/-! ## Ways to end -/

/-- Whether a computation ends in certain ways only, if it raises nothing. -/
def Flows (P : Flow → Prop) (a : Eval Flow) : Prop := ∀ s f t, a s = (.ok f, t) → P f

section
variable {P : Flow → Prop}

theorem Flows.pure {f : Flow} (h : P f) : Flows P (pure f) := by
  rintro s _ t ⟨⟩
  exact h

theorem Flows.throw (e : Stop) : Flows P (throw e) := by
  rintro s f t ⟨⟩

theorem Flows.bind {a : Eval α} {f : α → Eval Flow} (h : ∀ v, Flows P (f v)) :
    Flows P (a >>= f) := by
  intro s flow t heq
  rw [stateBind_apply] at heq
  rcases ha : a s with ⟨_ | v, u⟩
  · rw [ha] at heq
    cases heq
  · rw [ha] at heq
    exact h v u flow t heq

theorem Flows.fail (f : Fault) : Flows P (fail f) := .bind fun _ => .throw _

theorem Flows.raiseAgain : Flows P raiseAgain := by
  refine .bind fun s => ?_
  split
  · exact .throw _
  · exact .fail _

theorem Flows.calling {a : Calling α} {f : α → Calling Flow} {c : Caller}
    (h : ∀ v, Flows P (f v c)) : Flows P ((a >>= f) c) := .bind h

theorem Flows.raiseValue (v : Value) (c : Caller) : Flows P (raiseValue v c) := by
  unfold Eval.raiseValue
  split
  · refine .calling fun s => ?_
    split
    · refine .calling fun e => .calling fun s => ?_
      split
      · exact .throw _
      · exact .fail _
    · exact .fail _
  · refine .calling fun s => ?_
    split
    · exact .throw _
    · exact .fail _

theorem Flows.settle {Q : Flow → Prop} {a : Eval Flow} {next : Except Stop Flow → Eval Flow}
    (ha : Flows Q a) (hnext : ∀ r, (∀ flow, r = .ok flow → Q flow) → Flows P (next r)) :
    Flows P (settle a next) := by
  intro s f t h
  refine hnext (a s).1 (fun flow hflow => ha s flow (a s).2 ?_) (a s).2 f t h
  rw [← hflow]
  rfl

/-- A computation and what comes after each way in which it ends. -/
theorem Flows.after {Q : Flow → Prop} {a : Eval Flow} {f : Flow → Eval Flow} (ha : Flows Q a)
    (h : ∀ flow, Q flow → Flows P (f flow)) : Flows P (a >>= f) := by
  rw [bind_eq_settle]
  refine ha.settle fun r hr => ?_
  cases r with
  | ok flow => exact h flow (hr flow rfl)
  | error e => exact .throw e

theorem Flows.whileHandling {a : Eval Flow} (ha : Flows P a) (e : Value) :
    Flows P (whileHandling e a) := by
  intro s f t h
  have hend : (a (s.handling (e :: s.handled))).1 = .ok f := congrArg Prod.fst h
  refine ha (s.handling (e :: s.handled)) f (a (s.handling (e :: s.handled))).2 ?_
  rw [← hend]
  rfl

theorem Flows.runAll {run : Stmt → Eval Flow} {ss : List Stmt} (hnext : P .next)
    (h : ∀ s ∈ ss, Flows P (run s)) : Flows P (runAll run ss) := by
  induction ss with
  | nil => exact .pure hnext
  | cons s ss ih =>
    obtain ⟨hs, hss⟩ := List.forall_mem_cons.mp h
    refine hs.after fun flow hflow => ?_
    cases flow with
    | next => exact ih hss
    | brk | cont | ret => exact .pure hflow

/-- A loop ends by itself, or with the function. -/
theorem Flows.loopWhile (hnext : P .next) (hret : ∀ v, P (.ret v)) (c : Eval Bool) (b : Eval Flow)
    (n : Nat) : Flows P (loopWhile c b n) := by
  induction n with
  | zero => exact .throw _
  | succ n ih =>
    refine .bind fun holds => ?_
    split
    · refine .bind fun flow => ?_
      cases flow with
      | next | cont => exact ih
      | brk => exact .pure hnext
      | ret v => exact .pure (hret v)
    · exact .pure hnext

theorem Flows.loopItems (hnext : P .next) (hret : ∀ v, P (.ret v))
    (advance : Cursor → Eval (Option (Value × Cursor))) (b : Value → Eval Flow) (c : Cursor)
    (n : Nat) : Flows P (loopItems advance b c n) := by
  induction n generalizing c with
  | zero => exact .throw _
  | succ n ih =>
    refine .bind fun item => ?_
    split
    · exact .pure hnext
    · refine .bind fun flow => ?_
      cases flow with
      | next | cont => exact ih _
      | brk => exact .pure hnext
      | ret v => exact .pure (hret v)

theorem Flows.guarded {a : Eval Flow} {f : Value → Eval Flow} (ha : Flows P a)
    (hf : ∀ e, Flows P (f e)) : Flows P (guarded a f) := by
  refine ha.settle fun r hr => ?_
  match r with
  | .ok flow => exact .pure (hr flow rfl)
  | .error (.raised e) => exact (hf e).whileHandling e
  | .error .outOfFuel => exact .throw _

theorem Flows.finally_ {a b : Eval Flow} (ha : Flows P a) (hb : Flows P b) :
    Flows P (finally_ a b) := by
  refine ha.settle fun r hr => ?_
  match r with
  | .ok flow =>
    refine hb.after fun flow' hflow' => ?_
    cases flow' with
    | next => exact .pure (hr flow rfl)
    | brk | cont | ret => exact .pure hflow'
  | .error (.raised e) =>
    refine (hb.whileHandling e).after fun flow' hflow' => ?_
    cases flow' with
    | next => exact .throw _
    | brk | cont | ret => exact .pure hflow'
  | .error .outOfFuel => exact .throw _

theorem Flows.rescue {hs : List Rescue} (frame : Frame) (e : Value)
    (h : ∀ k ∈ hs, Flows P k.2.2) : Flows P (rescue frame e hs) := by
  induction hs with
  | nil => exact .throw _
  | cons k hs ih =>
    obtain ⟨hk, hhs⟩ := List.forall_mem_cons.mp h
    obtain ⟨type, name, body⟩ := k
    refine .bind fun v => .bind fun caught => ?_
    split
    · cases name with
      | none => exact hk
      | some y =>
        refine .bind fun _ => hk.settle fun r hr => .bind fun _ => ?_
        cases r with
        | ok flow => exact .pure (hr flow rfl)
        | error e => exact .throw e
    · exact ih hhs

/-- What comes after a computation matters for the ways only in which it ends. -/
theorem Flows.bind_congr {a : Eval Flow} (ha : Flows P a) {f g : Flow → Eval β}
    (h : ∀ flow, P flow → f flow = g flow) : a >>= f = a >>= g := by
  funext s
  rw [stateBind_apply, stateBind_apply]
  rcases hr : a s with ⟨_ | flow, t⟩
  · rfl
  · show f flow t = g flow t
    rw [h flow (ha s flow t hr)]

end

end

/-! ## Code that does not go on with the next round -/

theorem continues_of_mem {s : Stmt} {ss : List Stmt} (h : anyContinues ss = false) (hs : s ∈ ss) :
    continues s = false := by
  induction ss with
  | nil => cases hs
  | cons t ss ih =>
    simp only [anyContinues, Bool.or_eq_false_iff] at h
    rcases List.mem_cons.mp hs with rfl | hs
    · exact h.1
    · exact ih h.2 hs

theorem continues_of_handler {type : String} {name : Option String} {body : List Stmt}
    {hs : List Handler} (h : handlersContinue hs = false) (hh : .mk type name body ∈ hs) :
    anyContinues body = false := by
  induction hs with
  | nil => cases hh
  | cons k hs ih =>
    obtain ⟨type', name', body'⟩ := k
    simp only [handlersContinue, Bool.or_eq_false_iff] at h
    rcases List.mem_cons.mp hh with heq | hh
    · cases heq
      exact h.1
    · exact ih h.2 hh

/-- Code without a `continue` does not go on with the next round of a loop around it. -/
theorem exec_flows (n : Nat) (frame : Frame) {s : Stmt} (h : continues s = false) :
    Flows (· ≠ .cont) (exec n frame s) := by
  have hnext : Flow.next ≠ .cont := nofun
  have hret (v : Value) : Flow.ret v ≠ .cont := nofun
  induction n generalizing s with
  | zero => exact .throw _
  | succ n ih =>
    have hblock {ss : List Stmt} (hss : anyContinues ss = false) :
        Flows (· ≠ .cont) (runAll (exec n frame) ss) :=
      .runAll hnext fun s hs => ih (continues_of_mem hss hs)
    cases s with
    | pass => exact .pure hnext
    | brk => exact .pure nofun
    | cont => cases h
    | expr | augment => exact .bind fun _ => .pure hnext
    | assign t e => exact .bind fun v => .calling fun _ => .pure hnext
    | ret e =>
      cases e with
      | none => exact .pure (hret _)
      | some e => exact .bind fun v => .pure (hret v)
    | raise e =>
      cases e with
      | none => exact .raiseAgain
      | some e => exact .bind fun v => .raiseValue v _
    | ite c b t =>
      simp only [continues, Bool.or_eq_false_iff] at h
      rw [exec_branch]
      refine .bind fun holds => ?_
      split
      · exact hblock h.1
      · cases t with
        | none => exact .pure hnext
        | otherwise b => exact hblock h.2
        | elif c b t => exact ih h.2
    | «while» c b => exact .loopWhile hnext hret _ _ n
    | forIn y e b =>
      rw [exec_forIn]
      exact .bind fun cursor => .loopItems hnext hret _ _ cursor n
    | attempt b hs cleanup =>
      have hparts : anyContinues b = false ∧ handlersContinue hs = false
          ∧ ∀ f, cleanup = some f → anyContinues f = false := by
        cases cleanup <;> simp_all [continues]
      obtain ⟨hb, hhs, hcleanup⟩ := hparts
      have hprotect : Flows (· ≠ .cont) (protect frame (runAll (exec n frame) b)
          (hs.map (asRescue (runAll (exec n frame))))) := by
        unfold protect
        split
        · exact hblock hb
        · refine .guarded (hblock hb) fun e => .rescue frame e fun k hk => ?_
          obtain ⟨⟨type, name, body⟩, hmem, rfl⟩ := List.mem_map.mp hk
          exact hblock (continues_of_handler hhs hmem)
      rw [exec_attempt]
      cases cleanup with
      | none => exact hprotect
      | some f => exact .finally_ hprotect (hblock (hcleanup f rfl))

end BraceScript.Eval
