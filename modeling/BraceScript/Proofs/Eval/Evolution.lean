import BraceScript.Eval.Exec
import Mathlib

/-!
# What running code can change

Code that never assigns an attribute `x` cannot change the member `x` of any class, and there is
much that no code can change at all. `Evolves x s t` lists what is then the same in a store `t`
that running code made of `s`. A computation that only goes on in this way is a `Leaves`, or a
`Runs` if it may give variables of the current scope new values; `Obeys` is the same for a
computation that calls values, given that the calls do so too. All three are kept by the ways in
which computations are put together, which is what the rules tagged for `grind` say.
-/

namespace BraceScript

/-- Two computations with a state: the second one runs when the first one ends well. -/
theorem stateBind_apply {ε σ α β : Type} (a : ExceptT ε (StateM σ) α)
    (f : α → ExceptT ε (StateM σ) β) (s : σ) : (a >>= f) s = match a s with
      | (.ok x, s) => f x s
      | (.error e, s) => (.error e, s) := by
  show (ExceptT.bind a f) s = _
  simp only [ExceptT.bind, ExceptT.mk, bind, StateT.bind]
  rcases a s with ⟨_ | _, _⟩ <;> rfl

/-- Binding a name takes no other one away. -/
theorem Bindings.has_put {α κ : Type} [DecidableEq κ] (bs : Bindings α κ) (name other : κ) (a : α)
    (h : bs.has other) : (bs.put name a).has other := by
  by_cases hname : other = name
  · rw [Bindings.has, hname, Bindings.get?_put_self]
    rfl
  · rwa [Bindings.has, Bindings.get?_put_of_ne _ _ hname]

namespace Eval

open Code

/-! ## Steps of computations -/

section
variable {α β : Type}

theorem bind_eq_ok {a : Eval α} {f : α → Eval β} {s t : Store} {v : β} :
    (a >>= f) s = (.ok v, t) ↔ ∃ u r, a s = (.ok u, r) ∧ f u r = (.ok v, t) := by
  rw [stateBind_apply]
  rcases a s with ⟨e | u, r⟩
  · refine ⟨fun h => ?_, fun ⟨_, _, h, _⟩ => ?_⟩
    · cases h
    · cases h
  · exact ⟨fun h => ⟨u, r, rfl, h⟩, fun ⟨_, _, h, hf⟩ => by cases h; exact hf⟩

theorem bind_of_ok {a : Eval α} (f : α → Eval β) {s t : Store} {v : α} (h : a s = (.ok v, t)) :
    (a >>= f) s = f v t := by
  rw [stateBind_apply, h]

theorem bind_of_error {a : Eval α} (f : α → Eval β) {s t : Store} {e : Stop}
    (h : a s = (.error e, t)) : (a >>= f) s = (.error e, t) := by
  rw [stateBind_apply, h]

theorem get_eq_ok (s : Store) : (get : Eval Store) s = (.ok s, s) := rfl

theorem calling_bind_eq_ok {a : Calling α} {f : α → Calling β} {caller : Caller} {s t : Store}
    {v : β} : (a >>= f) caller s = (.ok v, t) ↔
      ∃ u r, a caller s = (.ok u, r) ∧ f u caller r = (.ok v, t) := bind_eq_ok

theorem calling_bind_of_ok {a : Calling α} (f : α → Calling β) {caller : Caller} {s t : Store}
    {v : α} (h : a caller s = (.ok v, t)) : (a >>= f) caller s = f v caller t :=
  bind_of_ok (fun v => f v caller) h

theorem calling_bind_of_error {a : Calling α} (f : α → Calling β) {caller : Caller} {s t : Store}
    {e : Stop} (h : a caller s = (.error e, t)) : (a >>= f) caller s = (.error e, t) :=
  bind_of_error (fun v => f v caller) h

theorem calling_get_bind (f : Store → Calling β) (caller : Caller) (s : Store) :
    (get >>= f) caller s = f s caller s := rfl

end

theorem valueOf_apply (frame : Frame) (x : String) (s : Store) : valueOf frame x s
    = (match s.locals.get? (frame.meant x) with
      | some v => pure v
      | none =>
        if frame.ownNames.contains (frame.meant x) then fail (.unboundLocal (frame.meant x))
        else globalValue (frame.meant x) : Eval Value) s := rfl

/-! ## Attributes that code assigns -/

/-- The attribute that an assignment target gives a value to. -/
def targetAttr : Expr → List String
  | .attr _ x => [x]
  | .group e => targetAttr e
  | _ => []

mutual

/-- The attributes that a statement gives values to. -/
def attrsSet : Stmt → List String
  | .assign t _ | .augment t _ _ => targetAttr t
  | .ite _ b t => attrsSetAll b ++ attrsSetTail t
  | .while _ b => attrsSetAll b
  | .forIn _ _ b => attrsSetAll b
  | .attempt b hs none => attrsSetAll b ++ attrsSetHandlers hs
  | .attempt b hs (some f) => attrsSetAll b ++ attrsSetHandlers hs ++ attrsSetAll f
  | _ => []

/-- The attributes that several statements give values to. -/
def attrsSetAll : List Stmt → List String
  | [] => []
  | s :: ss => attrsSet s ++ attrsSetAll ss

/-- The attributes that the rest of a conditional gives values to. -/
def attrsSetTail : Tail → List String
  | .none => []
  | .otherwise b => attrsSetAll b
  | .elif _ b t => attrsSetAll b ++ attrsSetTail t

/-- The attributes that handlers give values to. -/
def attrsSetHandlers : List Handler → List String
  | [] => []
  | .mk _ _ b :: hs => attrsSetAll b ++ attrsSetHandlers hs

end

/-- A function without the attributes it was given. -/
def Closure.plain (f : Closure) : Closure := { f with attrs := [] }

/-- Whether a function never assigns an attribute. -/
def Closure.Spares (x : String) (f : Closure) : Prop :=
  ∀ y ∈ attrsSetAll f.body, privateName f.className y ≠ x

/-- A store in which nothing that can be called assigns an attribute: no function does, and the
attribute is not the one that writers keep their stream in. -/
structure Spared (x : String) (s : Store) : Prop where
  writer : "_stream_name" ≠ x
  functions (p : Nat) : (s.function p).Spares x

/-- There is always an attribute that is not among some. -/
theorem exists_attr_notMem (xs : List String) : ∃ x, x ∉ xs := by
  have hinf : Infinite String := .of_injective String.ofList fun _ _ => String.ofList_injective
  obtain ⟨x, hx⟩ := Infinite.exists_notMem_finset xs.toFinset
  exact ⟨x, fun h => hx (List.mem_toFinset.mpr h)⟩

/-- There is always an attribute that nothing in a store assigns. -/
theorem exists_spared_by (s : Store) : ∃ x, Spared x s := by
  let assigned : List String := s.functions.toList.flatMap fun f =>
    (attrsSetAll f.body).map (privateName f.className)
  obtain ⟨x, hx⟩ := exists_attr_notMem ("_stream_name" :: assigned)
  rw [List.mem_cons, not_or] at hx
  refine ⟨x, Ne.symm hx.1, fun p y hy hxy => hx.2 ?_⟩
  rw [Store.function] at hy hxy
  cases hp : s.functions[p]? with
  | none =>
    rw [hp] at hy
    cases hy
  | some f =>
    rw [hp] at hy hxy
    have hf : f ∈ s.functions.toList := Array.mem_toList_iff.mpr (Array.mem_of_getElem? hp)
    exact List.mem_flatMap.mpr ⟨f, hf, List.mem_map.mpr ⟨y, hy, hxy⟩⟩

/-! ## How stores go on -/

/-- How a store goes on while code runs that never assigns the attribute `x`: what is named here
stays, objects hold what they held, and new hints come in front of the old ones. -/
structure Evolves (x : String) (s t : Store) : Prop where
  globals : t.globals = s.globals
  count : t.classes.size = s.classes.size
  kind (p : Nat) : (t.loadedClass p).name = (s.loadedClass p).name
    ∧ (t.loadedClass p).base = (s.loadedClass p).base
    ∧ (t.loadedClass p).isBuilt = (s.loadedClass p).isBuilt
  member (p : Nat) : (t.loadedClass p).members.get? x = (s.loadedClass p).members.get? x
  functions : t.functions.map Closure.plain = s.functions.map Closure.plain
  attrs (p : Nat) (y : String) : (s.module p).attrs.has y → (t.module p).attrs.has y
  held (p : Nat) (v : Value) : (s.object p).inner = some v → (t.object p).inner = some v
  hints : s.hints <:+ t.hints

section
variable {x : String} {s t u : Store}

theorem Evolves.refl (s : Store) : Evolves x s s :=
  ⟨rfl, rfl, fun _ => ⟨rfl, rfl, rfl⟩, fun _ => rfl, rfl, fun _ _ h => h, fun _ _ h => h,
    List.suffix_rfl⟩

theorem Evolves.trans (h : Evolves x s t) (h' : Evolves x t u) : Evolves x s u where
  globals := h'.globals.trans h.globals
  count := h'.count.trans h.count
  kind p := by
    obtain ⟨hname, hbase, hbuilt⟩ := h.kind p
    obtain ⟨hname', hbase', hbuilt'⟩ := h'.kind p
    exact ⟨hname'.trans hname, hbase'.trans hbase, hbuilt'.trans hbuilt⟩
  member p := (h'.member p).trans (h.member p)
  functions := h'.functions.trans h.functions
  attrs p y := h'.attrs p y ∘ h.attrs p y
  held p v := h'.held p v ∘ h.held p v
  hints := h.hints.trans h'.hints

/-- Collections, input and output are not looked at. -/
theorem Evolves.of_eq (hglobals : t.globals = s.globals) (hclasses : t.classes = s.classes)
    (hfunctions : t.functions = s.functions) (hmodules : t.modules = s.modules)
    (hobjects : t.objects = s.objects) (hhints : s.hints <:+ t.hints) : Evolves x s t := by
  refine ⟨hglobals, by rw [hclasses], ?_, ?_, by rw [hfunctions], ?_, ?_, hhints⟩
  · intro p
    simp only [Store.loadedClass, hclasses, and_self]
  · intro p
    simp only [Store.loadedClass, hclasses]
  · intro p y
    simp only [Store.module, hmodules, imp_self]
  · intro p v
    simp only [Store.object, hobjects, imp_self]

theorem Evolves.new_object (s : Store) (o : Instance) :
    Evolves x s { s with objects := s.objects.push o } := by
  refine ⟨rfl, rfl, fun _ => ⟨rfl, rfl, rfl⟩, fun _ => rfl, rfl, fun _ _ h => h, ?_,
    List.suffix_rfl⟩
  intro p v hv
  by_cases hp : p < s.objects.size
  · simpa only [Store.object, Array.getElem?_push_lt hp, Array.getElem?_eq_getElem hp] using hv
  · rw [Store.object, Array.getElem?_eq_none (not_lt.mp hp)] at hv
    cases hv

/-- An object may change apart from what it holds. -/
theorem Evolves.object (s : Store) (p : Nat) {f : Instance → Instance}
    (hf : ∀ o, (f o).inner = o.inner) : Evolves x s { s with objects := s.objects.modify p f } := by
  refine ⟨rfl, rfl, fun _ => ⟨rfl, rfl, rfl⟩, fun _ => rfl, rfl, fun _ _ h => h, ?_,
    List.suffix_rfl⟩
  intro q v hv
  rw [Store.object] at hv
  rw [Store.object, Array.getElem?_modify]
  split
  · cases hq : s.objects[q]? with
    | none =>
      rw [hq] at hv
      cases hv
    | some o =>
      rw [hq] at hv
      exact (hf o).trans hv
  · exact hv

@[grind ←]
theorem Evolves.collections (s : Store) (lists : Array (Array Value))
    (dicts : Array (Array (Value × Value))) (sets : Array (Array Value)) :
    Evolves x s { s with lists := lists, dicts := dicts, sets := sets } :=
  .of_eq rfl rfl rfl rfl rfl List.suffix_rfl

@[grind ←]
theorem Evolves.hint (s : Store) (v : Value) : Evolves x s { s with hints := v :: s.hints } :=
  .of_eq rfl rfl rfl rfl rfl (List.suffix_cons v s.hints)

/-- A class may be given another member than the one in question. -/
theorem Evolves.class_member {y : String} (hy : y ≠ x) (s : Store) (p : Nat) (v : Value) :
    Evolves x s { s with classes := s.classes.modify p fun c =>
      { c with members := c.members.put y v } } := by
  refine ⟨rfl, Array.size_modify .., ?_, ?_, rfl, fun _ _ h => h, fun _ _ h => h, List.suffix_rfl⟩
  · intro q
    simp only [Store.loadedClass, Array.getElem?_modify]
    split <;> cases s.classes[q]? <;> exact ⟨rfl, rfl, rfl⟩
  · intro q
    simp only [Store.loadedClass, Array.getElem?_modify]
    split
    · cases s.classes[q]? with
      | none => rfl
      | some c => exact Bindings.get?_put_of_ne _ _ hy.symm
    · rfl

/-- A module may be given any attribute. -/
theorem Evolves.module_attr (s : Store) (p : Nat) (y : String) (v : Value) (isPlain : Bool) :
    Evolves x s { s with
      modules := s.modules.modify p fun m => { m with attrs := m.attrs.put y v }
      isPlain := isPlain } := by
  refine ⟨rfl, rfl, fun _ => ⟨rfl, rfl, rfl⟩, fun _ => rfl, rfl, ?_, fun _ _ h => h,
    List.suffix_rfl⟩
  intro q z
  simp only [Store.module, Array.getElem?_modify]
  split
  · cases s.modules[q]? with
    | none => exact id
    | some m => exact fun h => Bindings.has_put m.attrs y z v h
  · exact id

/-- A function may be given any attribute. -/
theorem Evolves.function_attr (s : Store) (p : Nat) (attrs : Variables → Variables) :
    Evolves x s { s with functions := s.functions.modify p fun f =>
      { f with attrs := attrs f.attrs } } := by
  refine ⟨rfl, rfl, fun _ => ⟨rfl, rfl, rfl⟩, fun _ => rfl, ?_, fun _ _ h => h, fun _ _ h => h,
    List.suffix_rfl⟩
  refine Array.ext_getElem? fun q => ?_
  simp only [Array.getElem?_map, Array.getElem?_modify]
  split <;> cases s.functions[q]? <;> rfl

theorem Evolves.function (h : Evolves x s t) (p : Nat) :
    (t.function p).plain = (s.function p).plain := by
  have hplain (r : Store) : (r.function p).plain = ((r.functions.map Closure.plain)[p]?).getD default := by
    rw [Store.function, Array.getElem?_map]
    cases r.functions[p]? <;> rfl
  rw [hplain, hplain, h.functions]

theorem Evolves.spared (h : Evolves x s t) (hs : Spared x s) : Spared x t where
  writer := hs.writer
  functions p := by
    have hf := hs.functions p
    have hplain := h.function p
    simp only [Closure.plain, Closure.mk.injEq] at hplain
    rwa [Closure.Spares, hplain.2.1, hplain.2.2.2.2.2.1]

/-- What holds a text holds it for good. -/
theorem Evolves.bare_text (h : Evolves x s t) {v : Value} {p : Text.Points}
    (hv : s.bare v = .text p) : t.bare v = .text p := by
  cases v with
  | object q =>
    cases hq : (s.object q).inner with
    | none =>
      rw [Store.bare, hq] at hv
      cases hv
    | some w =>
      rw [Store.bare, hq] at hv
      rw [Store.bare, h.held q w hq]
      exact hv
  | _ => exact hv

end

/-! ## Computations -/

/-- A computation after which a store went on as running code does. -/
def Runs {α : Type} (x : String) (a : Eval α) : Prop := ∀ s, Spared x s → Evolves x s (a s).2

/-- A computation after which a store went on as running code does, with the variables of the
current scope as they were. -/
def Leaves {α : Type} (x : String) (a : Eval α) : Prop :=
  ∀ s, Spared x s → Evolves x s (a s).2 ∧ (a s).2.locals = s.locals

/-- A computation that leaves what its calls leave. -/
def Obeys {α : Type} (x : String) (a : Calling α) : Prop :=
  ∀ caller : Caller, (∀ f args, Leaves x (caller f args)) → Leaves x (a caller)

/-- A computation that may give variables of the current scope new values, and leaves what its calls
leave otherwise. -/
def Does {α : Type} (x : String) (a : Calling α) : Prop :=
  ∀ caller : Caller, (∀ f args, Leaves x (caller f args)) → Runs x (a caller)

section
variable {x : String} {α β : Type}

theorem Leaves.runs {a : Eval α} (h : Leaves x a) : Runs x a := fun s hs => (h s hs).1

theorem Leaves.after {a : Eval α} (h : Leaves x a) {s t : Store} {r : Except Stop α}
    (hs : Spared x s) (hr : a s = (r, t)) : Evolves x s t ∧ t.locals = s.locals := by
  have ha := h s hs
  rwa [hr] at ha

/-! ### Plain computations -/

/-- A computation that does not change the store. -/
theorem Leaves.of_same {a : Eval α} (h : ∀ s, (a s).2 = s) : Leaves x a := by
  intro s _
  rw [h s]
  exact ⟨.refl s, rfl⟩

@[grind ←]
theorem Leaves.pure (a : α) : Leaves x (pure a : Eval α) := .of_same fun _ => rfl

@[grind ←]
theorem Leaves.throw (e : Stop) : Leaves x (throw e : Eval α) := .of_same fun _ => rfl

@[grind ←]
theorem Leaves.get : Leaves x (get : Eval Store) := .of_same fun _ => rfl

@[grind ←]
theorem Leaves.raise (v : Value) : Leaves x (raise v : Eval α) := .of_same fun _ => rfl

@[grind ←]
theorem Leaves.bind {a : Eval α} {f : α → Eval β} (ha : Leaves x a) (hf : ∀ v, Leaves x (f v)) :
    Leaves x (a >>= f) := by
  intro s hs
  obtain ⟨h, hlocals⟩ := ha s hs
  rw [stateBind_apply]
  rcases hr : a s with ⟨e | v, t⟩
  · rw [hr] at h hlocals
    exact ⟨h, hlocals⟩
  · rw [hr] at h hlocals
    obtain ⟨h', hlocals'⟩ := hf v t (h.spared hs)
    exact ⟨h.trans h', hlocals'.trans hlocals⟩

@[grind ←]
theorem Leaves.map {a : Eval α} {f : α → β} (ha : Leaves x a) : Leaves x (f <$> a) :=
  ha.bind fun v => .pure (f v)

theorem Leaves.mapM {f : α → Eval β} {as : List α} (hf : ∀ a, Leaves x (f a)) :
    Leaves x (as.mapM f) := by
  induction as with
  | nil => exact .pure []
  | cons a as ih =>
    rw [List.mapM_cons]
    exact (hf a).bind fun _ => ih.bind fun _ => .pure _

@[grind ←]
theorem Leaves.settle {a : Eval α} {next : Except Stop α → Eval β} (ha : Leaves x a)
    (hnext : ∀ r, Leaves x (next r)) : Leaves x (settle a next) := by
  intro s hs
  obtain ⟨h, hlocals⟩ := ha s hs
  obtain ⟨h', hlocals'⟩ := hnext (a s).1 (a s).2 (h.spared hs)
  exact ⟨h.trans h', hlocals'.trans hlocals⟩

/-- A scope of its own keeps what happens to variables in. -/
@[grind ←]
theorem Leaves.withLocals {a : Eval α} {names : Variables} (ha : Runs x a) :
    Leaves x (withLocals names a) := by
  intro s hs
  have h := ha { s with locals := names } ⟨hs.writer, hs.functions⟩
  exact ⟨⟨h.globals, h.count, h.kind, h.member, h.functions, h.attrs, h.held, h.hints⟩, rfl⟩

/-! ### Computations that give variables values -/

@[grind ←]
theorem Runs.pure (a : α) : Runs x (pure a : Eval α) := (Leaves.pure a).runs

@[grind ←]
theorem Runs.throw (e : Stop) : Runs x (throw e : Eval α) := (Leaves.throw e).runs

@[grind ←]
theorem Runs.raise (v : Value) : Runs x (raise v : Eval α) := (Leaves.raise v).runs

@[grind ←]
theorem Runs.settle {a : Eval α} {next : Except Stop α → Eval β} (ha : Runs x a)
    (hnext : ∀ r, Runs x (next r)) : Runs x (settle a next) := by
  intro s hs
  have h := ha s hs
  exact h.trans (hnext (a s).1 (a s).2 (h.spared hs))

@[grind ←]
theorem Runs.bind {a : Eval α} {f : α → Eval β} (ha : Runs x a) (hf : ∀ v, Runs x (f v)) :
    Runs x (a >>= f) := by
  intro s hs
  have h := ha s hs
  rw [stateBind_apply]
  rcases hr : a s with ⟨e | v, t⟩
  · rwa [hr] at h
  · rw [hr] at h
    exact h.trans (hf v t (h.spared hs))

@[grind ←]
theorem Runs.whileHandling {a : Eval α} {e : Value} (ha : Runs x a) :
    Runs x (whileHandling e a) := by
  intro s hs
  have h := ha { s with handled := e :: s.handled } ⟨hs.writer, hs.functions⟩
  exact ⟨h.globals, h.count, h.kind, h.member, h.functions, h.attrs, h.held, h.hints⟩

@[grind ←]
theorem Runs.assignName (frame : Frame) (y : String) (v : Value) :
    Runs x (assignName frame y v) := fun _ _ => .of_eq rfl rfl rfl rfl rfl List.suffix_rfl

@[grind ←]
theorem Runs.forgetName (frame : Frame) (y : String) : Runs x (forgetName frame y) :=
  fun _ _ => .of_eq rfl rfl rfl rfl rfl List.suffix_rfl

/-! ### Computations that call values -/

@[grind ←]
theorem Obeys.pure (a : α) : Obeys x (pure a : Calling α) := fun _ _ => .pure a

@[grind ←]
theorem Obeys.throw (e : Stop) : Obeys x (throw e : Calling α) := fun _ _ => .throw e

@[grind ←]
theorem Obeys.lift {a : Eval α} (ha : Leaves x a) : Obeys x (liftM a : Calling α) := fun _ _ => ha

@[grind ←]
theorem Obeys.call (f : Value) (args : List Value) : Obeys x (call f args) := fun _ h => h f args

@[grind ←]
theorem Obeys.bind {a : Calling α} {f : α → Calling β} (ha : Obeys x a) (hf : ∀ v, Obeys x (f v)) :
    Obeys x (a >>= f) := fun caller h => (ha caller h).bind fun v => hf v caller h

@[grind ←]
theorem Obeys.ending {a : Calling α} {next : Except Stop α → Calling β} (ha : Obeys x a)
    (hnext : ∀ r, Obeys x (next r)) : Obeys x (ending a next) :=
  fun caller h => (ha caller h).settle fun r => hnext r caller h

/-! ### Computations that call values and give variables values -/

@[grind ←]
theorem Does.pure (a : α) : Does x (pure a : Calling α) := fun _ _ => .pure a

theorem Obeys.does {a : Calling α} (ha : Obeys x a) : Does x a := fun caller h => (ha caller h).runs

@[grind ←]
theorem Does.lift {a : Eval α} (ha : Runs x a) : Does x (liftM a : Calling α) := fun _ _ => ha

@[grind ←]
theorem Does.bind {a : Calling α} {f : α → Calling β} (ha : Does x a) (hf : ∀ v, Does x (f v)) :
    Does x (a >>= f) := fun caller h => (ha caller h).bind fun v => hf v caller h

end

end Eval

end BraceScript
