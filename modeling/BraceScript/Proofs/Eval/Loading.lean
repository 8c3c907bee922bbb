import BraceScript.Eval.Load
import BraceScript.Proofs.Eval.Hints

/-!
# What loading a program leaves

A program is loaded class by class. Loading adds classes and functions, and changes nothing of those
that are there (`Grows`), apart from attributes that the code of the program assigns. So a class has
under a name what its own body put there: `load_spec` says for every class of a loaded program which
of its functions this is, and that a function takes one list of texts exactly if its only parameter
has the hint of one.
-/

namespace BraceScript.Eval

open Code Lowering
open Entry (isTexts takesTexts)

/-! ## How a store grows -/

/-- How a store goes on while classes are loaded that never assign the attribute `x`: places are
only added, a class keeps its member `x` and a function what it is. -/
structure Grows (x : String) (s t : Store) : Prop where
  classes : s.classes.size ≤ t.classes.size
  member (p : Nat) (hp : p < s.classes.size) :
    (t.loadedClass p).members.get? x = (s.loadedClass p).members.get? x
  functions : s.functions.size ≤ t.functions.size
  function (p : Nat) (hp : p < s.functions.size) : (t.function p).plain = (s.function p).plain
  attrs (p : Nat) (y : String) : (s.module p).attrs.has y → (t.module p).attrs.has y
  hints : s.hints <:+ t.hints

section
variable {x : String} {s t u : Store}

theorem Evolves.grows (h : Evolves x s t) : Grows x s t where
  classes := h.count.ge
  member p _ := h.member p
  functions := by
    have hsize := congrArg Array.size h.functions
    rw [Array.size_map, Array.size_map] at hsize
    exact hsize.ge
  function p _ := h.function p
  attrs := h.attrs
  hints := h.hints

theorem Grows.refl (s : Store) : Grows x s s := (Evolves.refl s).grows

theorem Grows.trans (h : Grows x s t) (h' : Grows x t u) : Grows x s u where
  classes := h.classes.trans h'.classes
  member p hp := (h'.member p (hp.trans_le h.classes)).trans (h.member p hp)
  functions := h.functions.trans h'.functions
  function p hp := (h'.function p (hp.trans_le h.functions)).trans (h.function p hp)
  attrs p y := h'.attrs p y ∘ h.attrs p y
  hints := h.hints.trans h'.hints

theorem Untouched.earlier (h : Untouched t) (hst : Grows x s t) : Untouched s :=
  h.of_later hst.attrs hst.hints

/-- A store in which classes can be loaded: nothing assigns the attribute `x`, and the names in hints
mean what they usually do. -/
structure Ready (x : String) (s : Store) : Prop where
  spared : Spared x s
  usual : Usual s

theorem Ready.evolves (h : Ready x s) (hst : Evolves x s t) : Ready x t :=
  ⟨hst.spared h.spared, h.usual.evolves hst⟩

/-- A new function that does not assign the attribute. -/
theorem Ready.newFunction (h : Ready x s) {f : Closure} (hf : f.Spares x) :
    Grows x s { s with functions := s.functions.push f }
      ∧ Ready x { s with functions := s.functions.push f } := by
  have hfunction (p : Nat) : ({ s with functions := s.functions.push f } : Store).function p
      = if p = s.functions.size then f else s.function p := by
    simp only [Store.function, Array.getElem?_push]
    split <;> rfl
  refine ⟨⟨le_rfl, fun _ _ => rfl, by simp, fun p hp => ?_, fun _ _ h => h, List.suffix_rfl⟩,
    ⟨h.spared.writer, fun p => ?_⟩, h.usual⟩
  · rw [hfunction, if_neg hp.ne]
  · rw [hfunction]
    split
    · exact hf
    · exact h.spared.functions p

theorem Ready.newClass (h : Ready x s) (c : ClassInfo) :
    Grows x s { s with classes := s.classes.push c } ∧ Ready x { s with classes := s.classes.push c } := by
  refine ⟨⟨by simp, fun p hp => ?_, le_rfl, fun _ _ => rfl, fun _ _ h => h, List.suffix_rfl⟩,
    ⟨h.spared.writer, h.spared.functions⟩, h.usual⟩
  simp only [Store.loadedClass, Array.getElem?_push, if_neg hp.ne]

/-- A class that was not there before can be changed. -/
theorem Ready.changeClass (ht : Ready x t) (h : Grows x s t) {p : Nat} (hp : s.classes.size ≤ p)
    (f : ClassInfo → ClassInfo) :
    Grows x s { t with classes := t.classes.modify p f }
      ∧ Ready x { t with classes := t.classes.modify p f } := by
  refine ⟨⟨by simpa using h.classes, fun q hq => ?_, h.functions, h.function, h.attrs, h.hints⟩,
    ⟨ht.spared.writer, ht.spared.functions⟩, ht.usual⟩
  have hpq : p ≠ q := fun heq => absurd (heq ▸ hq) (Nat.not_lt.mpr hp)
  simp only [Store.loadedClass, Array.getElem?_modify, if_neg hpq]
  exact h.member q hq

/-- A new module takes no attribute away. -/
theorem Ready.newModule (h : Ready x s) (m : Module) :
    Grows x s { s with modules := s.modules.push m }
      ∧ Ready x { s with modules := s.modules.push m } := by
  refine ⟨⟨le_rfl, fun _ _ => rfl, le_rfl, fun _ _ => rfl, fun p y hy => ?_, List.suffix_rfl⟩,
    ⟨h.spared.writer, h.spared.functions⟩, h.usual⟩
  simp only [Store.module, Array.getElem?_push] at hy ⊢
  split
  · next hp =>
    rw [hp, Array.getElem?_size] at hy
    cases hy
  · exact hy

/-- A new name that hints do not use. -/
theorem Ready.bindGlobal (h : Ready x s) {name : String} (hname : ∀ e ∈ usualNames, name ≠ e.1)
    (v : Value) (isPlain : Bool) :
    Grows x s { s with globals := s.globals.put name v, isPlain := isPlain }
      ∧ Ready x { s with globals := s.globals.put name v, isPlain := isPlain } := by
  refine ⟨⟨le_rfl, fun _ _ => rfl, le_rfl, fun _ _ => rfl, fun _ _ h => h, List.suffix_rfl⟩,
    ⟨h.spared.writer, h.spared.functions⟩, fun e he => ?_⟩
  exact (Bindings.get?_put_of_ne _ _ (hname e he).symm).trans (h.usual e he)

end

/-! ## Functions of a class -/

/-- The parameter of a function that is defined in a class. -/
def paramOf (frame : Frame) (p : Code.Param) : Eval (String × Option Value) :=
  match p.hint with
  | none => return (frame.meant p.name, none)
  | some h => return (frame.meant p.name, some (← eval fuel frame h))

/-- What makes a function static, if it is. -/
def markerOf (frame : Frame) (f : Code.Function) : Eval (Option Value) :=
  if f.isStatic then some <$> valueOf frame "staticmethod" else pure none

/-- A function with what makes it static, if anything does. -/
def marked (v : Value) : Option Value → Eval Value
  | none => pure v
  | some m => apply fuel m [v]

/-- A function that is defined in a class. -/
def closureOf (frame : Frame) (owner : Nat) (f : Code.Function)
    (params : List (String × Option Value)) : Closure where
  name := frame.className ++ "." ++ f.name
  className := frame.className
  owner := owner
  params := params
  ownNames := (f.params.map (·.name) ++ assignedAll f.body).map frame.meant
  body := f.body
  attrs := []

theorem defineFunction_eq (frame : Frame) (owner : Nat) (f : Code.Function) :
    defineFunction frame owner f = (do
      let marker ← markerOf frame f
      let params ← f.params.mapM (paramOf frame)
      let v ← newFunction (closureOf frame owner f params)
      let v ← marked v marker
      assignName frame f.name v) := by
  unfold defineFunction markerOf
  have hlast (v : Value) (marker : Option Value) :
      (marked v marker >>= assignName frame f.name) = (match marker with
        | none => pure v >>= assignName frame f.name
        | some m => apply fuel m [v] >>= assignName frame f.name) := by
    cases marker <;> rfl
  simp only [hlast]
  cases f.isStatic <;> rfl

/-- Whether the only parameter of a function has the hint of a list of texts. -/
def HasTexts (f : Code.Function) : Prop := ∃ y, f.params = [⟨y, some textsHint⟩]

/-- Whether the hints of a function are those of types. -/
def HintsTypes (f : Code.Function) : Prop :=
  ∀ p ∈ f.params, ∀ e, p.hint = some e → ∃ name rank, e = arrayHint (elementHint name) rank

/-- No usual name is a name of the current scope. -/
def FreeOfUsual (s : Store) : Prop := ∀ e ∈ usualNames, s.locals.get? e.1 = none

/-- What a function of a class becomes. -/
def BecomesIn (s : Store) (f : Code.Function) (v : Value) : Prop :=
  ∃ q < s.functions.size, v = (if f.isStatic then .staticMethod (.function q) else .function q)
    ∧ (takesTexts s (.function q) ↔ HasTexts f)

section
variable {x : String} {frame : Frame} {s t : Store}

theorem takesTexts_grows (h : Grows x s t) {q : Nat} (hq : q < s.functions.size) :
    takesTexts t (.function q) = takesTexts s (.function q) := by
  have hplain := h.function q hq
  simp only [Closure.plain, Closure.mk.injEq] at hplain
  simp only [takesTexts, hplain.2.2.2.1]

theorem BecomesIn.grows {f : Code.Function} {v : Value} (hv : BecomesIn s f v) (h : Grows x s t) :
    BecomesIn t f v := by
  obtain ⟨q, hq, hvalue, htexts⟩ := hv
  exact ⟨q, hq.trans_le h.functions, hvalue, by rw [takesTexts_grows h hq, htexts]⟩

/-- A parameter gets a hint if its code has one, and the hint is as its code says. -/
def HintedAs (p : Code.Param) (q : String × Option Value) : Prop :=
  (p.hint = none ∧ q.2 = none)
    ∨ ∃ e v, p.hint = some e ∧ q.2 = some v ∧ (isTexts v ↔ e = textsHint)

theorem paramOf_spec (hown : frame.ownNames = []) (hs : Ready x s) {p : Code.Param}
    {q : String × Option Value} (h : paramOf frame p s = (.ok q, t)) :
    (Evolves x s t ∧ t.locals = s.locals) ∧ (Untouched t → FreeOfUsual s →
      (∀ e, p.hint = some e → ∃ name rank, e = arrayHint (elementHint name) rank) →
      HintedAs p q) := by
  unfold paramOf at h
  cases hhint : p.hint with
  | none =>
    rw [hhint] at h
    cases h
    exact ⟨⟨.refl _, rfl⟩, fun _ _ _ => .inl ⟨hhint, rfl⟩⟩
  | some e =>
    rw [hhint] at h
    obtain ⟨v, r, hv, h⟩ := bind_eq_ok.mp h
    cases h
    refine ⟨(eval_leaves _ _ _).after hs.spared hv, fun hut hfree htypes => ?_⟩
    obtain ⟨name, rank, rfl⟩ := htypes e rfl
    have htexts := (eval_arrayHint hown hs.usual hs.spared hut hfree hv).2.2
    exact .inr ⟨_, v, hhint, rfl, by rw [htexts, arrayHint_eq_textsHint]⟩

theorem params_spec (hown : frame.ownNames = []) (hs : Ready x s) {ps : List Code.Param}
    {qs : List (String × Option Value)} (h : ps.mapM (paramOf frame) s = (.ok qs, t)) :
    (Evolves x s t ∧ t.locals = s.locals) ∧ (Untouched t → FreeOfUsual s →
      (∀ p ∈ ps, ∀ e, p.hint = some e → ∃ name rank, e = arrayHint (elementHint name) rank) →
      List.Forall₂ HintedAs ps qs) := by
  induction ps generalizing s qs with
  | nil =>
    cases h
    exact ⟨⟨.refl _, rfl⟩, fun _ _ _ => .nil⟩
  | cons p ps ih =>
    rw [List.mapM_cons] at h
    obtain ⟨q, r, hq, hrest⟩ := bind_eq_ok.mp h
    obtain ⟨qs', r', hqs, hlast⟩ := bind_eq_ok.mp hrest
    cases hlast
    obtain ⟨⟨hev, hlocals⟩, hone⟩ := paramOf_spec hown hs hq
    obtain ⟨⟨hev', hlocals'⟩, hall⟩ := ih (hs.evolves hev) hqs
    refine ⟨⟨hev.trans hev', hlocals'.trans hlocals⟩, fun hut hfree htypes => ?_⟩
    obtain ⟨hp, hps⟩ := List.forall_mem_cons.mp htypes
    have hfree' : FreeOfUsual r := fun e he => hlocals ▸ hfree e he
    exact .cons (hone (hut.before hev') hfree hp) (hall hut hfree' hps)

/-- Of parameters with their hints, the only one has that of a list of texts if its code does. -/
theorem takesTexts_iff {f : Code.Function} {q : Nat}
    (h : List.Forall₂ HintedAs f.params (s.function q).params) :
    takesTexts s (.function q) ↔ HasTexts f := by
  unfold takesTexts HasTexts
  rcases f with ⟨name, params, isStatic, body⟩
  simp only at h ⊢
  generalize (s.function q).params = qs at h
  cases h with
  | nil => simp
  | cons hp hps =>
    rename_i p q' ps qs'
    cases hps with
    | nil =>
      obtain ⟨y, hint⟩ := p
      obtain ⟨z, value⟩ := q'
      rcases hp with ⟨hnone, hvalue⟩ | ⟨e, v, he, hvalue, htexts⟩
      · simp only at hnone hvalue
        subst hnone hvalue
        simp
      · simp only at he hvalue
        subst he hvalue
        simp [htexts]
    | cons _ _ => simp

/-- What is put around a static function. -/
theorem marked_static (v : Value) (s : Store) :
    marked v (some (.core .staticMethod)) s = (.ok (.staticMethod v), s) := by
  have hfuel : fuel = fuel - 1 + 1 := (Nat.sub_add_cancel Nat.one_le_two_pow).symm
  show apply fuel (.core .staticMethod) [v] s = _
  rw [hfuel, apply]
  · rfl
  · exact fun p h => Value.noConfusion h

theorem marked_leaves (v : Value) (marker : Option Value) : Leaves x (marked v marker) := by
  cases marker with
  | none => exact .pure v
  | some m => exact apply_leaves fuel m [v]

theorem paramOf_leaves (frame : Frame) (p : Code.Param) : Leaves x (paramOf frame p) := by
  unfold paramOf
  split
  · exact .pure _
  · exact (eval_leaves fuel frame _).bind fun _ => .pure _

theorem markerOf_leaves (f : Code.Function) : Leaves x (markerOf frame f) := by
  unfold markerOf
  split
  · exact (valueOf_leaves frame _).map
  · exact .pure none

/-- A static function is marked as such, and no other one is. -/
theorem marked_spec (hown : frame.ownNames = []) (hs : Usual s) (hut : Untouched s)
    (hfree : FreeOfUsual s) {f : Code.Function} {marker : Option Value} {r r' : Store} {v v' : Value}
    (hmarker : markerOf frame f s = (.ok marker, t)) (h : marked v marker r = (.ok v', r')) :
    v' = if f.isStatic then .staticMethod v else v := by
  unfold markerOf at hmarker
  by_cases hstatic : f.isStatic
  · rw [if_pos hstatic] at hmarker ⊢
    obtain ⟨m, s', hm, hlast⟩ := bind_eq_ok.mp hmarker
    have hmem : ("staticmethod", .core .staticMethod) ∈ usualNames := by simp [usualNames]
    have hvalue := valueOf_usual hmem hs hut hown (hfree _ hmem)
    rw [hvalue] at hm
    cases hm
    cases hlast
    rw [marked_static] at h
    cases h
    rfl
  · rw [if_neg hstatic] at hmarker ⊢
    cases hmarker
    cases h
    rfl

/-- A function of a class is bound to what it becomes, in a store that grew by it. -/
theorem defineFunction_spec (hown : frame.ownNames = []) (hs : Ready x s) {owner : Nat}
    {f : Code.Function} (hf : ∀ y ∈ attrsSetAll f.body, privateName frame.className y ≠ x)
    (h : defineFunction frame owner f s = (.ok (), t)) :
    (Grows x s t ∧ Ready x t) ∧ ∃ v, t.locals = s.locals.put (frame.meant f.name) v
      ∧ (Untouched t → FreeOfUsual s → HintsTypes f → BecomesIn t f v) := by
  simp only [defineFunction_eq, bind_eq_ok] at h
  obtain ⟨marker, s₁, hmarker, params, s₂, hparams, v, s₃, hnew, v', s₄, hmarked, hbound⟩ := h
  obtain ⟨hev₁, hlocals₁⟩ := (markerOf_leaves f).after hs.spared hmarker
  have hs₁ := hs.evolves hev₁
  obtain ⟨⟨hev₂, hlocals₂⟩, hhinted⟩ := params_spec hown hs₁ hparams
  have hs₂ := hs₁.evolves hev₂
  obtain ⟨hgrows₃, hs₃⟩ := hs₂.newFunction (f := closureOf frame owner f params) hf
  cases hnew
  obtain ⟨hev₄, hlocals₄⟩ := (marked_leaves _ marker).after hs₃.spared hmarked
  have hs₄ := hs₃.evolves hev₄
  have hev₅ := Runs.assignName frame f.name v' s₄ hs₄.spared
  cases hbound
  have hgrows₄ := hev₄.grows.trans hev₅.grows
  have hgrows₁ := hev₂.grows.trans (hgrows₃.trans hgrows₄)
  refine ⟨⟨hev₁.grows.trans hgrows₁, hs₄.evolves hev₅⟩, v', ?_, fun hut hfree htypes => ?_⟩
  · show s₄.locals.put _ _ = _
    rw [hlocals₄, ← hlocals₁, ← hlocals₂]
  · have hfree₁ : FreeOfUsual s₁ := fun e he => hlocals₁ ▸ hfree e he
    have hhinted := hhinted (hut.earlier (hgrows₃.trans hgrows₄)) hfree₁ htypes
    have hut₁ := hut.earlier hgrows₁
    have hvalue := marked_spec hown hs.usual (hut₁.before hev₁) hfree hmarker hmarked
    refine BecomesIn.grows ⟨_, ?_, hvalue, takesTexts_iff ?_⟩ hgrows₄
    · simp
    · simpa [Store.function, closureOf] using hhinted

/-- What a name is bound to after functions were defined in order: one of them, or what it was
bound to before. -/
inductive BoundBy (x : String) (frame : Frame) (fs : List Code.Function) (s : Store)
    (before : Option Value) : Option Value → Prop
  | function {f : Code.Function} {v : Value} (hf : f ∈ fs) (hname : frame.meant f.name = x)
      (hv : BecomesIn s f v) : BoundBy x frame fs s before (some v)
  | none (h : ∀ f ∈ fs, frame.meant f.name ≠ x) : BoundBy x frame fs s before before

theorem defineFunctions_spec (hown : frame.ownNames = []) (hs : Ready x s) {owner : Nat}
    {fs : List Code.Function}
    (hfs : ∀ f ∈ fs, ∀ y ∈ attrsSetAll f.body, privateName frame.className y ≠ x)
    (h : fs.forM (defineFunction frame owner) s = (.ok (), t)) :
    (Grows x s t ∧ Ready x t) ∧ (Untouched t → FreeOfUsual s → (∀ f ∈ fs, HintsTypes f) →
      (∀ f ∈ fs, ∀ e ∈ usualNames, frame.meant f.name ≠ e.1) →
      BoundBy x frame fs t (s.locals.get? x) (t.locals.get? x)) := by
  induction fs generalizing s with
  | nil =>
    cases h
    exact ⟨⟨.refl _, hs⟩, fun _ _ _ _ => .none (by simp)⟩
  | cons f fs ih =>
    obtain ⟨_, r, hone, hrest⟩ := bind_eq_ok.mp h
    obtain ⟨hf, hfs⟩ := List.forall_mem_cons.mp hfs
    obtain ⟨⟨hgrows, hr⟩, v, hlocals, hv⟩ := defineFunction_spec hown hs hf hone
    obtain ⟨⟨hgrows', ht⟩, hbound⟩ := ih hr hfs hrest
    refine ⟨⟨hgrows.trans hgrows', ht⟩, fun hut hfree htypes hnames => ?_⟩
    obtain ⟨htype, htypes⟩ := List.forall_mem_cons.mp htypes
    obtain ⟨hname, hnames⟩ := List.forall_mem_cons.mp hnames
    have hfree' : FreeOfUsual r := fun e he => by
      rw [hlocals, Bindings.get?_put_of_ne _ _ (hname e he).symm]
      exact hfree e he
    have hlater := hbound hut hfree' htypes hnames
    generalize t.locals.get? x = found at hlater ⊢
    cases hlater with
    | function hmem hx hv => exact .function (List.mem_cons_of_mem f hmem) hx hv
    | none hno =>
      rw [hlocals]
      by_cases hx : frame.meant f.name = x
      · rw [hx, Bindings.get?_put_self]
        exact .function List.mem_cons_self hx ((hv (hut.earlier hgrows') hfree htype).grows hgrows')
      · rw [Bindings.get?_put_of_ne _ _ (Ne.symm hx)]
        exact .none (List.forall_mem_cons.mpr ⟨hx, hno⟩)

/-- Gives a static field its value. -/
def defineField (frame : Frame) (e : String × Expr) : Eval Unit := do
  assignName frame e.1 (← eval fuel frame e.2)

theorem defineFields_spec (hs : Ready x s) {es : List (String × Expr)}
    (h : es.forM (defineField frame) s = (.ok (), t)) :
    Evolves x s t
      ∧ ((∃ e ∈ es, frame.meant e.1 = x) ∨ t.locals.get? x = s.locals.get? x) := by
  induction es generalizing s with
  | nil =>
    cases h
    exact ⟨.refl _, .inr rfl⟩
  | cons e es ih =>
    obtain ⟨_, r, hone, hrest⟩ := bind_eq_ok.mp h
    obtain ⟨v, r', hv, hbound⟩ := bind_eq_ok.mp hone
    obtain ⟨hev, hlocals⟩ := (eval_leaves fuel frame e.2).after hs.spared hv
    have hev' := hev.trans (Runs.assignName frame e.1 v r' (hev.spared hs.spared))
    cases hbound
    obtain ⟨hevs, hfields⟩ := ih (hs.evolves hev') hrest
    refine ⟨hev'.trans hevs, ?_⟩
    by_cases hx : frame.meant e.1 = x
    · exact .inl ⟨e, List.mem_cons_self, hx⟩
    · refine hfields.imp (fun ⟨e', he', hx'⟩ => ⟨e', List.mem_cons_of_mem e he', hx'⟩) fun heq => ?_
      rw [heq]
      show (r'.locals.put _ v).get? x = _
      rw [Bindings.get?_put_of_ne _ _ (Ne.symm hx), hlocals]

end

/-! ## Classes -/

/-- A class whose functions never assign an attribute. -/
def SparedBy (x : String) (c : Code.Class) : Prop :=
  ∀ f ∈ c.functions, ∀ y ∈ attrsSetAll f.body, privateName c.name y ≠ x

instance (x : String) (c : Code.Class) : Decidable (SparedBy x c) :=
  inferInstanceAs (Decidable (∀ f ∈ c.functions, ∀ y ∈ attrsSetAll f.body, privateName c.name y ≠ x))

/-- A class whose hints mean what they usually do: they are hints of types, and no function of the
class has a name that they use. -/
structure HintsUsual (c : Code.Class) : Prop where
  hints : ∀ f ∈ c.functions, HintsTypes f
  names : ∀ f ∈ c.functions, ∀ e ∈ usualNames, privateName c.name f.name ≠ e.1

/-- What a class has under a name: the value of a static field, a function, or nothing. -/
inductive MemberIs (x : String) (s : Store) (c : Code.Class) : Option Value → Prop
  | field {e : String × Expr} {m : Option Value} (he : e ∈ c.fields)
      (hname : privateName c.name e.1 = x) : MemberIs x s c m
  | function {f : Code.Function} {v : Value} (hf : f ∈ c.functions)
      (hname : privateName c.name f.name = x) (hv : BecomesIn s f v) : MemberIs x s c (some v)
  | none (h : ∀ f ∈ c.functions, privateName c.name f.name ≠ x) : MemberIs x s c none

section
variable {x : String} {s t : Store} {c : Code.Class}

theorem MemberIs.grows {m : Option Value} (hm : MemberIs x s c m) (h : Grows x s t) :
    MemberIs x t c m := by
  cases hm with
  | field he hname => exact .field he hname
  | function hf hname hv => exact .function hf hname (hv.grows h)
  | none hno => exact .none hno

/-- What a member is depends on functions only. -/
theorem MemberIs.of_functions {m : Option Value} (hm : MemberIs x s c m)
    (h : t.functions = s.functions) : MemberIs x t c m := by
  cases hm with
  | field he hname => exact .field he hname
  | function hf hname hv =>
    obtain ⟨q, hq, hvalue, htexts⟩ := hv
    have htakes : takesTexts t (.function q) = takesTexts s (.function q) := by
      simp only [takesTexts, Store.function, h]
    exact .function hf hname ⟨q, h ▸ hq, hvalue, htakes ▸ htexts⟩
  | none hno => exact .none hno

/-- Variables are not looked at. -/
theorem Ready.withVariables (h : Ready x s) (names : Variables) :
    Ready x { s with locals := names } := ⟨⟨h.spared.writer, h.spared.functions⟩, h.usual⟩

theorem Grows.toVariables (h : Grows x s t) (names : Variables) :
    Grows x s { t with locals := names } :=
  ⟨h.classes, h.member, h.functions, h.function, h.attrs, h.hints⟩

theorem Grows.fromVariables {names : Variables} (h : Grows x { s with locals := names } t) :
    Grows x s t :=
  ⟨h.classes, h.member, h.functions, h.function, h.attrs, h.hints⟩

theorem withLocals_eq_ok {α : Type} {names : Variables} {a : Eval α} {v : α} :
    withLocals names a s = (.ok v, t) ↔
      ∃ r, a { s with locals := names } = (.ok v, r) ∧ t = { r with locals := s.locals } := by
  show ((a _).1, { (a _).2 with locals := s.locals }) = _ ↔ _
  rcases a { s with locals := names } with ⟨result, r⟩
  refine ⟨fun h => ?_, fun ⟨r', hr, ht⟩ => ?_⟩
  · cases h
    exact ⟨r, rfl, rfl⟩
  · cases hr
    rw [ht]

/-- What the body of a class does. -/
def bodyOf (frame : Frame) (owner : Nat) (c : Code.Class) : Eval Variables := do
  c.functions.forM (defineFunction frame owner)
  c.fields.forM (defineField frame)
  return (← get).locals

theorem classMembers_spec (hs : Ready x s) (hc : SparedBy x c) {owner : Nat} {members : Variables}
    (h : classMembers owner c s = (.ok members, t)) :
    (Grows x s t ∧ Ready x t) ∧
      (Untouched t → HintsUsual c → MemberIs x t c (members.get? x)) := by
  have hclass : classMembers owner c = withLocals [] (bodyOf ⟨c.name, [], none⟩ owner c) := rfl
  obtain ⟨r, hbody, rfl⟩ := withLocals_eq_ok.mp (hclass ▸ h)
  obtain ⟨_, s₁, hfunctions, hrest⟩ := bind_eq_ok.mp hbody
  obtain ⟨_, s₂, hfields, hlast⟩ := bind_eq_ok.mp hrest
  cases hlast
  have hown : (⟨c.name, [], none⟩ : Frame).ownNames = [] := rfl
  obtain ⟨⟨hgrows₁, hs₁⟩, hbound⟩ :=
    defineFunctions_spec hown (hs.withVariables []) hc hfunctions
  obtain ⟨hev, hfield⟩ := defineFields_spec hs₁ hfields
  have hgrows₂ := hev.grows.toVariables s.locals
  refine ⟨⟨hgrows₁.fromVariables.trans hgrows₂, (hs₁.evolves hev).withVariables _⟩, ?_⟩
  intro hut hhints
  rcases hfield with ⟨e, he, hx⟩ | hkept
  · exact .field he hx
  · have hut₁ := hut.earlier hgrows₂
    have hmember := hbound hut₁ (fun _ _ => rfl) hhints.hints hhints.names
    rw [← hkept] at hmember
    generalize r.locals.get? x = m at hmember ⊢
    cases hmember with
    | function hf hname hv => exact .function hf hname (hv.grows hgrows₂)
    | none hno => exact .none hno

/-- What a class derives from, before it is looked at. -/
def baseOf (c : Code.Class) : Eval Value :=
  match c.base with
  | none => pure (.core .object)
  | some b => globalValue b

/-- What is looked up before a class is made: what makes classes, and what the class derives from. -/
def header (c : Code.Class) : Eval Value := do
  findMaker
  baseOf c

theorem loadClass_eq (c : Code.Class) : loadClass c = (do
    let base ← header c
    let place ← newClass ⟨c.name, .core .object, [], false⟩
    let members ← classMembers place c
    let base ← reading fun s => baseClass s base
    changeClass place fun _ => ⟨c.name, base, members, true⟩
    bindGlobal c.name (.cls (.loaded place))
    return .cls (.loaded place)) := by
  unfold loadClass header baseOf
  rw [bind_assoc]
  cases c.base <;> rfl

theorem findMaker_leaves : Leaves x findMaker := by
  unfold findMaker
  grind

theorem baseOf_leaves : Leaves x (baseOf c) := by
  unfold baseOf
  split
  · exact .pure _
  · exact globalValue_leaves _

theorem header_leaves : Leaves x (header c) := findMaker_leaves.bind fun _ => baseOf_leaves

theorem loadedClass_modify {p : Nat} (hp : p < s.classes.size) (f : ClassInfo → ClassInfo) :
    Store.loadedClass { s with classes := s.classes.modify p f } p = f (s.loadedClass p) := by
  simp [Store.loadedClass, Array.getElem?_modify, Array.getElem?_eq_getElem hp]

/-- A loaded class has under a name what its body put there. -/
theorem loadClass_spec (hs : Ready x s) (hc : SparedBy x c)
    (hname : ∀ e ∈ usualNames, c.name ≠ e.1) {v : Value} (h : loadClass c s = (.ok v, t)) :
    (Grows x s t ∧ Ready x t) ∧ ∃ p < t.classes.size, v = .cls (.loaded p)
      ∧ (Untouched t → HintsUsual c → MemberIs x t c ((t.loadedClass p).members.get? x)) := by
  simp only [loadClass_eq, bind_eq_ok] at h
  obtain ⟨base, s₁, hbase, place, s₂, hnew, members, s₃, hmembers, base', s₄, hbase', _, s₅, hchange,
    _, s₆, hbind, hlast⟩ := h
  have hev₁ := (header_leaves.after hs.spared hbase).1
  have hs₁ := hs.evolves hev₁
  obtain ⟨hgrows₂, hs₂⟩ := hs₁.newClass ⟨c.name, .core .object, [], false⟩
  cases hnew
  obtain ⟨⟨hgrows₃, hs₃⟩, hmember⟩ := classMembers_spec hs₂ hc hmembers
  have hev₄ := ((reading_leaves _).after hs₃.spared hbase').1
  have hs₄ := hs₃.evolves hev₄
  cases hchange
  cases hbind
  cases hlast
  have hgrows₄ := hgrows₃.trans hev₄.grows
  obtain ⟨hgrows₅, hs₅⟩ := hs₄.changeClass (hgrows₂.trans hgrows₄) le_rfl
    fun _ => ⟨c.name, base', members, true⟩
  obtain ⟨hgrows₆, hs₆⟩ := hs₅.bindGlobal hname _ _
  refine ⟨⟨hev₁.grows.trans (hgrows₅.trans hgrows₆), hs₆⟩, ?_⟩
  have hplace : s₁.classes.size < s₄.classes.size := by
    have hsize := hgrows₄.classes
    rwa [Array.size_push] at hsize
  refine ⟨s₁.classes.size, by simpa using hplace, rfl, fun hut hhints => ?_⟩
  have hut₃ : Untouched s₃ := hut.of_later hev₄.attrs hev₄.hints
  show MemberIs x _ c ((Store.loadedClass { s₄ with classes := s₄.classes.modify _ _ } _).members.get? x)
  rw [loadedClass_modify hplace]
  exact ((hmember hut₃ hhints).grows hev₄.grows).of_functions rfl

end

/-! ## Programs -/

/-- A type that was loaded: its name and its class, which has under a name what its body put
there. -/
def LoadedAs (x : String) (s : Store) (d : TypeDecl) (e : String × Value) : Prop :=
  e.1 = d.name ∧ ∃ p < s.classes.size, e.2 = .cls (.loaded p)
    ∧ (HintsUsual d.code → MemberIs x s d.code ((s.loadedClass p).members.get? x))

section
variable {x : String} {s t : Store}

theorem LoadedAs.grows {d : TypeDecl} {e : String × Value} (he : LoadedAs x s d e)
    (h : Grows x s t) : LoadedAs x t d e := by
  obtain ⟨hname, p, hp, hvalue, hmember⟩ := he
  refine ⟨hname, p, hp.trans_le h.classes, hvalue, fun hhints => ?_⟩
  rw [h.member p hp]
  exact (hmember hhints).grows h

/-- Loads a type and gives it by its name. -/
def loadType (d : TypeDecl) : Eval (String × Value) := do
  return (d.name, ← loadClass d.code)

theorem loadTypes_spec (hs : Ready x s) {ds : List TypeDecl} {types : Variables}
    (hds : ∀ d ∈ ds, SparedBy x d.code ∧ ∀ e ∈ usualNames, d.code.name ≠ e.1)
    (h : ds.mapM loadType s = (.ok types, t)) :
    Grows x s t ∧ (Untouched t → List.Forall₂ (LoadedAs x t) ds types) := by
  induction ds generalizing s types with
  | nil =>
    cases h
    exact ⟨.refl _, fun _ => .nil⟩
  | cons d ds ih =>
    simp only [List.mapM_cons, bind_eq_ok, loadType] at h
    obtain ⟨e, r', ⟨v, r, hload, hname⟩, es, r'', hrest, hlast⟩ := h
    cases hname
    cases hlast
    obtain ⟨⟨hspares, hfree⟩, hds⟩ := List.forall_mem_cons.mp hds
    obtain ⟨⟨hgrows, hr⟩, p, hp, hvalue, hmember⟩ := loadClass_spec hs hspares hfree hload
    obtain ⟨hgrows', hall⟩ := ih hr hds hrest
    refine ⟨hgrows.trans hgrows', fun hut => .cons ?_ (hall hut)⟩
    have hloaded : LoadedAs x r' d (d.name, v) :=
      ⟨rfl, p, hp, hvalue, fun hhints => hmember (hut.earlier hgrows') hhints⟩
    exact hloaded.grows hgrows'

/-- Binds a library. -/
def bindLibrary (l : String × Program.Library) : Eval Unit := do
  bindGlobal l.1 (← libraryValue l.2)

theorem bindLibrary_spec (hs : Ready x s) {l : String × Program.Library}
    (hl : ∀ e ∈ usualNames, l.1 ≠ e.1) (h : bindLibrary l s = (.ok (), t)) :
    Grows x s t ∧ Ready x t := by
  obtain ⟨name, library⟩ := l
  obtain ⟨v, r, hvalue, hbind⟩ := bind_eq_ok.mp h
  obtain ⟨hgrows, hr⟩ : Grows x s r ∧ Ready x r := by
    cases library with
    | module full =>
      cases hvalue
      exact ⟨.refl _, hs⟩
    | file short path constants =>
      cases hvalue
      exact hs.newModule _
  cases hbind
  obtain ⟨hgrows', ht⟩ := hr.bindGlobal hl v _
  exact ⟨hgrows.trans hgrows', ht⟩

theorem bindLibraries_spec (hs : Ready x s) {ls : Program.Libraries}
    (hls : ∀ l ∈ ls, ∀ e ∈ usualNames, l.1 ≠ e.1) (h : ls.forM bindLibrary s = (.ok (), t)) :
    Grows x s t ∧ Ready x t := by
  induction ls generalizing s with
  | nil =>
    cases h
    exact ⟨.refl _, hs⟩
  | cons l ls ih =>
    obtain ⟨_, r, hone, hrest⟩ := bind_eq_ok.mp h
    obtain ⟨hl, hls⟩ := List.forall_mem_cons.mp hls
    obtain ⟨hgrows, hr⟩ := bindLibrary_spec hs hl hone
    obtain ⟨hgrows', ht⟩ := ih hr hls hrest
    exact ⟨hgrows.trans hgrows', ht⟩

theorem prelude_ready (hx : "_stream_name" ≠ x) (input : String) : Ready x (prelude input) where
  spared := ⟨hx, fun p => by
    have hnone : (prelude input).function p = default := by
      simp [Store.function, prelude, Store.empty]
    rw [hnone]
    intro y hy
    cases hy⟩
  usual _ _ := rfl

/-- Every class of a loaded program has under a name what its body put there. -/
theorem load_spec {p : Program} {input : String} {types : Variables} (hx : "_stream_name" ≠ x)
    (hls : ∀ l ∈ p.libraries, ∀ e ∈ usualNames, l.1 ≠ e.1)
    (hds : ∀ d ∈ p.types, SparedBy x d.code ∧ ∀ e ∈ usualNames, d.code.name ≠ e.1)
    (h : load p (prelude input) = (.ok types, t)) (hut : Untouched t) :
    List.Forall₂ (LoadedAs x t) p.types types := by
  obtain ⟨_, r, hlibraries, htypes⟩ := bind_eq_ok.mp h
  obtain ⟨-, hr⟩ := bindLibraries_spec (prelude_ready hx input) hls hlibraries
  exact (loadTypes_spec hr hds htypes).2 hut

end

end BraceScript.Eval
