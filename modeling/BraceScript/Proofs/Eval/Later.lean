import BraceScript.Proofs.Lowering.Initialisers
import BraceScript.Proofs.Program.Headers

/-!
# What code and loading leave of classes

While code runs and further classes are loaded, a class stays what it is: it derives from what it
did, and keeps the members that nothing gives a value (`Later`). Computations after which this is so
(`Proceeds`) may be put one behind the other, and the parts of which loading a class is made are
such (`loadClass_later`).
-/

namespace BraceScript.Eval

open Code (privateName)
open Lowering

/-! ## What goes on -/

/-- How a store goes on while code runs and classes are loaded that never assign the attribute `x`:
besides what stays as it grows, classes derive from what they did. -/
structure Later (x : String) (s t : Store) : Prop extends Grows x s t where
  base (p : Nat) (hp : p < s.classes.size) : (t.loadedClass p).base = (s.loadedClass p).base
  built (p : Nat) (hp : p < s.classes.size) : (t.loadedClass p).isBuilt = (s.loadedClass p).isBuilt

/-- A computation after which a store went on like this. -/
def Proceeds {α : Type} (x : String) (a : Eval α) : Prop :=
  ∀ s, Spared x s → Later x s (a s).2 ∧ Spared x (a s).2

section
variable {x : String} {α β : Type} {s t u : Store}

theorem Evolves.later (h : Evolves x s t) : Later x s t :=
  ⟨h.grows, fun p _ => (h.kind p).2.1, fun p _ => (h.kind p).2.2⟩

theorem Later.refl (s : Store) : Later x s s := (Evolves.refl s).later

theorem Later.trans (h : Later x s t) (h' : Later x t u) : Later x s u where
  toGrows := h.toGrows.trans h'.toGrows
  base p hp := (h'.base p (hp.trans_le h.classes)).trans (h.base p hp)
  built p hp := (h'.built p (hp.trans_le h.classes)).trans (h.built p hp)

/-- Neither the names of the program nor the variables are looked at. -/
theorem Later.of_same (h : Later x s t) (hclasses : u.classes = t.classes)
    (hfunctions : u.functions = t.functions) (hmodules : u.modules = t.modules)
    (hhints : u.hints = t.hints) : Later x s u := by
  have hclass (p : Nat) : u.loadedClass p = t.loadedClass p := by
    rw [Store.loadedClass, Store.loadedClass, hclasses]
  have hfunction (p : Nat) : u.function p = t.function p := by
    rw [Store.function, Store.function, hfunctions]
  have hmodule (p : Nat) : u.module p = t.module p := by
    rw [Store.module, Store.module, hmodules]
  refine ⟨⟨hclasses ▸ h.classes, fun p hp => ?_, hfunctions ▸ h.functions, fun p hp => ?_,
    fun p y => ?_, hhints ▸ h.hints⟩, fun p hp => ?_, fun p hp => ?_⟩
  · rw [hclass, h.member p hp]
  · rw [hfunction, h.function p hp]
  · rw [hmodule]
    exact h.attrs p y
  · rw [hclass, h.base p hp]
  · rw [hclass, h.built p hp]

/-- A class that was not there before can be changed. -/
theorem Later.changeClass (h : Later x s t) {p : Nat} (hp : s.classes.size ≤ p)
    (f : ClassInfo → ClassInfo) : Later x s { t with classes := t.classes.modify p f } := by
  have hclass (q : Nat) (hq : q < s.classes.size) :
      ({ t with classes := t.classes.modify p f } : Store).loadedClass q = t.loadedClass q := by
    have hpq : p ≠ q := fun heq => absurd (heq ▸ hq) (Nat.not_lt.mpr hp)
    simp only [Store.loadedClass, Array.getElem?_modify, if_neg hpq]
  refine ⟨⟨by simpa using h.classes, fun q hq => ?_, h.functions, h.function, h.attrs, h.hints⟩,
    fun q hq => ?_, fun q hq => ?_⟩
  · rw [hclass q hq, h.member q hq]
  · rw [hclass q hq, h.base q hq]
  · rw [hclass q hq, h.built q hq]

theorem Runs.proceeds {a : Eval α} (h : Runs x a) : Proceeds x a := fun s hs =>
  ⟨(h s hs).later, (h s hs).spared hs⟩

theorem Leaves.proceeds {a : Eval α} (h : Leaves x a) : Proceeds x a := h.runs.proceeds

theorem Proceeds.after {a : Eval α} (h : Proceeds x a) (hs : Spared x s) {r : Except Stop α}
    (hr : a s = (r, t)) : Later x s t ∧ Spared x t := by
  have ha := h s hs
  rwa [hr] at ha

theorem Proceeds.bind {a : Eval α} {f : α → Eval β} (ha : Proceeds x a)
    (hf : ∀ v, Proceeds x (f v)) : Proceeds x (a >>= f) := by
  intro s hs
  have h := ha s hs
  rw [stateBind_apply]
  rcases hr : a s with ⟨e | v, t⟩
  · rwa [hr] at h
  · rw [hr] at h
    obtain ⟨hlater, hspared⟩ := hf v t h.2
    exact ⟨h.1.trans hlater, hspared⟩

theorem Proceeds.forM {f : α → Eval PUnit} {as : List α} (hf : ∀ a ∈ as, Proceeds x (f a)) :
    Proceeds x (as.forM f) := by
  induction as with
  | nil => exact (Leaves.pure _).proceeds
  | cons a as ih =>
    obtain ⟨ha, has⟩ := List.forall_mem_cons.mp hf
    exact ha.bind fun _ => ih has

/-! ## Loading -/

theorem newFunction_proceeds {f : Closure} (hf : f.Spares x) : Proceeds x (newFunction f) := by
  intro s hs
  have hfunction (p : Nat) : ({ s with functions := s.functions.push f } : Store).function p
      = if p = s.functions.size then f else s.function p := by
    simp only [Store.function, Array.getElem?_push]
    split <;> rfl
  have hsize : s.functions.size ≤ (s.functions.push f).size := by simp
  refine ⟨⟨⟨le_rfl, fun _ _ => rfl, hsize, fun p hp => ?_, fun _ _ h => h, List.suffix_rfl⟩,
    fun _ _ => rfl, fun _ _ => rfl⟩, hs.writer, fun p => ?_⟩
  · exact congrArg Closure.plain ((hfunction p).trans (if_neg hp.ne))
  · show Closure.Spares x (({ s with functions := s.functions.push f } : Store).function p)
    rw [hfunction]
    split
    · exact hf
    · exact hs.functions p

theorem newModule_proceeds (m : Module) : Proceeds x (newModule m) := by
  intro s hs
  refine ⟨⟨⟨le_rfl, fun _ _ => rfl, le_rfl, fun _ _ => rfl, fun p y hy => ?_, List.suffix_rfl⟩,
    fun _ _ => rfl, fun _ _ => rfl⟩, hs.writer, hs.functions⟩
  show ((Option.getD (s.modules.push m)[p]? default).attrs.has y) = true
  rw [Store.module] at hy
  rw [Array.getElem?_push]
  split
  · next hp =>
    rw [hp, Array.getElem?_size] at hy
    cases hy
  · exact hy

theorem bindGlobal_proceeds (name : String) (v : Value) : Proceeds x (bindGlobal name v) :=
  fun s hs => ⟨(Later.refl s).of_same rfl rfl rfl rfl, hs.writer, hs.functions⟩

theorem bindLibraries_proceeds (ls : Program.Libraries) : Proceeds x (bindLibraries ls) := by
  refine .forM fun l _ => ?_
  refine Proceeds.bind (a := libraryValue l.2) ?_ fun v => bindGlobal_proceeds l.1 v
  cases l.2 with
  | module name => exact (Leaves.pure _).proceeds
  | file name path constants => exact newModule_proceeds _

theorem defineFunction_proceeds {frame : Frame} {owner : Nat} {f : Code.Function}
    (hf : ∀ y ∈ attrsSetAll f.body, privateName frame.className y ≠ x) :
    Proceeds x (defineFunction frame owner f) := by
  rw [defineFunction_eq]
  refine (markerOf_leaves f).proceeds.bind fun marker => ?_
  refine (Leaves.mapM (paramOf_leaves frame)).proceeds.bind fun params => ?_
  refine (newFunction_proceeds (f := closureOf frame owner f params) hf).bind fun v => ?_
  exact (marked_leaves v marker).proceeds.bind fun v => (Runs.assignName frame f.name v).proceeds

theorem defineFields_proceeds (frame : Frame) (es : List (String × Code.Expr)) :
    Proceeds x (es.forM (defineField frame)) :=
  .forM fun e _ => ((eval_leaves fuel frame e.2).runs.bind fun v => .assignName frame e.1 v).proceeds

end

section
variable {x : String} {s t u : Store} {c : Code.Class} {front : List (String × Code.Expr)}
  {v : Value}

theorem opened_later (s : Store) (c : Code.Class) : Later x s (opened s c) := by
  have hclass (p : Nat) (hp : p < s.classes.size) :
      (opened s c).loadedClass p = s.loadedClass p := by
    simp only [Store.loadedClass, opened, Array.getElem?_push, if_neg hp.ne]
  have hsize : s.classes.size ≤ (opened s c).classes.size := by simp [opened]
  exact ⟨⟨hsize, fun p hp => by rw [hclass p hp], le_rfl, fun _ _ => rfl, fun _ _ h => h,
    List.suffix_rfl⟩, fun p hp => by rw [hclass p hp], fun p hp => by rw [hclass p hp]⟩

theorem defineFunctions_proceeds (hc : SparedBy x c) (owner : Nat) :
    Proceeds x (c.functions.forM (defineFunction (classFrame c) owner)) := by
  refine .forM fun f hf => ?_
  exact defineFunction_proceeds (hc f hf)

theorem upTo_proceeds (hc : SparedBy x c) (owner : Nat) (front : List (String × Code.Expr)) :
    Proceeds x (upTo c owner front) :=
  (defineFunctions_proceeds hc owner).bind fun _ => defineFields_proceeds (classFrame c) front

/-- While a class is loaded, a store goes on like this. -/
theorem Reaches.later (hc : SparedBy x c) (hs : Spared x s) (h : Lowering.Reaches c s front u) :
    Later x s u ∧ Spared x u := by
  obtain ⟨hlater, hspared⟩ :=
    (upTo_proceeds hc _ front).after (s := opened s c) ⟨hs.writer, hs.functions⟩ h.body
  exact ⟨(opened_later s c).trans hlater, hspared⟩

theorem loadClass_later (hc : SparedBy x c) (hs : Spared x s) (h : loadClass c s = (.ok v, t)) :
    Later x s t ∧ Spared x t := by
  obtain ⟨-, b, u, base, -, hreach, -, rfl⟩ := loadClass_eq_ok h
  obtain ⟨hlater, hspared⟩ := Reaches.later hc hs hreach
  exact ⟨(hlater.changeClass le_rfl fun _ => ⟨c.name, base, u.locals, true⟩).of_same rfl rfl rfl rfl,
    hspared.writer, hspared.functions⟩

end

end BraceScript.Eval
