import BraceScript.Eval.Prelude
import BraceScript.Proofs.Eval.Evolution
import Mathlib

/-!
# Calls of ready-made functions

Ready-made functions find each other by names of the program. In a store where the names that one of
them looks up mean what they mean at the start (`Store.Standard`), calling it comes down to the
functions it calls in turn (`useName_standard`, `apply_native`).
-/

namespace BraceScript.Eval

/-! ## Names -/

/-- What a name of the program stands for at the start. -/
def startValue? (name : String) : Option Value := (preludeNames.get? name).or (builtinValue? name)

/-- Some names mean in a store what they mean at the start. -/
def Store.Standard (s : Store) (names : List String) : Prop :=
  ∀ x ∈ names, ∀ v, startValue? x = some v → globalValue x s = (.ok v, s)

/-- A global means what the program binds it to, or what it means by itself. -/
theorem globalValue_eq_ok {s : Store} {name : String} {v : Value}
    (hattr : (s.module builtinsPlace).attrs.get? name = none)
    (h : (s.globals.get? name).or (builtinValue? name) = some v) :
    globalValue name s = (.ok v, s) := by
  unfold globalValue
  rw [bind_of_ok _ (get_eq_ok s), hattr]
  cases hg : s.globals.get? name with
  | some w =>
    rw [hg] at h
    cases h
    rfl
  | none =>
    rw [hg] at h
    simp only [Option.orElse, show builtinValue? name = some v from h]
    rfl

/-- Nothing changed the names before any class or library was loaded. -/
theorem standard_of_start {s : Store} (hglobals : s.globals = preludeNames)
    (hattrs : (s.module builtinsPlace).attrs = []) (names : List String) : s.Standard names := by
  intro x _ v hv
  refine globalValue_eq_ok ?_ ?_
  · rw [hattrs]
    rfl
  · rw [hglobals]
    exact hv

variable {s : Store} {names : List String} {x : String} {caller : Caller}

theorem globalValue_standard (hs : s.Standard names) (hx : x ∈ names) {v : Value}
    (hv : startValue? x = some v) :
    (globalValue x : Calling Value) caller s = (.ok v, s) :=
  hs x hx v hv

/-- A name that means what it means at the start is called by its meaning. -/
theorem useName_standard (hs : s.Standard names) (hx : x ∈ names) {f : Value}
    (hf : startValue? x = some f) (args : List Value) :
    useName x args caller s = caller f args s := by
  unfold useName
  rw [calling_bind_of_ok _ (globalValue_standard hs hx hf)]
  rfl

/-! ## Calls -/

/-- A ready-made function is called with the values of its parameters. -/
theorem apply_native {f : Native} {args params more : List Value} (n : Nat)
    (h : f.signature.bind args = .ok (params, more)) :
    apply (n + 1) (.native f) args = callingBy (apply n) (runNative f params more) := by
  show callingBy (apply n) (get >>= fun _ => liftM (check (f.signature.bind args)) >>= _) = _
  rw [h]
  rfl

theorem isSubclass_core (c d : Core) :
    s.isSubclass (.core c) (.core d) = (c.ancestors.map ClassRef.core).contains (.core d) := by
  rw [Store.isSubclass, Store.ancestors, Store.line]

/-- Being of a built-in class, other than that of hints, is a matter of ancestors. -/
theorem call_isInstance (n : Nat) (v : Value) {c : Core} (hc : c ≠ .any) :
    call (.native .isInstance) [v, .core c] (apply (n + 1)) s
      = (.ok (.bool (s.isSubclass (s.classOf v) (.core c))), s) := by
  cases c <;> first | exact absurd rfl hc | rfl

theorem isOf_standard (hs : s.Standard names) (hinstance : "isinstance" ∈ names)
    (hx : x ∈ names) {c : Core} (hcore : startValue? x = some (.core c)) (hc : c ≠ .any)
    (n : Nat) (v : Value) :
    isOf v x (apply (n + 1)) s = (.ok (s.isSubclass (s.classOf v) (.core c)), s) := by
  unfold isOf
  rw [calling_bind_of_ok _ (globalValue_standard hs hinstance (v := .native .isInstance) rfl),
    calling_bind_of_ok _ (globalValue_standard hs hx hcore),
    calling_bind_of_ok _ (call_isInstance n v hc)]
  rfl

/-! ## Exceptions -/

/-- A computation ended in an exception of a core class. -/
def Raised {α : Type} (type : String) (r : Except Stop α × Store) : Prop :=
  ∃ p t, r = (.error (.raised (.object p)), t) ∧ (t.object p).cls = .core (.exception type)

theorem raised_fail {α : Type} (f : Fault) (s : Store) : Raised f.type ((fail f : Eval α) s) := by
  refine ⟨s.objects.size, _, rfl, ?_⟩
  simp [Store.object]

/-- Nothing comes after an exception. -/
theorem Raised.bind {α β : Type} {type : String} {a : Eval α} {s : Store} (h : Raised type (a s))
    (f : α → Eval β) : Raised type ((a >>= f) s) := by
  obtain ⟨p, t, ha, hcls⟩ := h
  exact ⟨p, t, bind_of_error f ha, hcls⟩

theorem Raised.calling_bind {α β : Type} {type : String} {a : Calling α} {caller : Caller}
    {s : Store} (h : Raised type (a caller s)) (f : α → Calling β) :
    Raised type ((a >>= f) caller s) :=
  h.bind fun v => f v caller

end BraceScript.Eval
