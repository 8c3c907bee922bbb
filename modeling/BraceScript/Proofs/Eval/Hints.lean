import BraceScript.Entry
import BraceScript.Proofs.Eval.ReadyMade
import BraceScript.Proofs.Eval.Running

/-!
# The hints of parameters

The type of a parameter becomes a hint, which is code that is run when the function is defined. As
long as the names in hints mean what they usually do (`Usual`) and nothing but built-in values was
ever an item of a hint (`Untouched`), the value of a hint is that of a list of texts exactly if its
code is that of a list of texts (`eval_arrayHint`). Hints of equal items are one hint, so the main
step is that an item agrees only with items of its own kind (`agree_unlike`, `hintFor_item`).
-/

namespace BraceScript.Eval

open Code Lowering
open Entry (isTexts)
open Text (Points)

/-! ## What code is about -/

/-- The code of the hint of a list of texts. -/
def textsHint : Expr := .index (.name "List") (.name "str")

/-- The names in hints and in front of static methods, and what they mean. -/
def usualNames : Variables := [
  ("List", .listHint), ("Any", .core .any), ("str", .core .text), ("int", .core .int),
  ("float", .core .float), ("bool", .core .bool), ("staticmethod", .core .staticMethod)]

/-- The store binds the names in hints as it did before any class or library was loaded. -/
def Usual (s : Store) : Prop :=
  ∀ e ∈ usualNames, s.globals.get? e.1 = preludeNames.get? e.1

/-- Nothing gave the built-in names of hints another meaning, and no object was ever the item of a
hint. -/
structure Untouched (s : Store) : Prop where
  builtins : ∀ e ∈ usualNames, (s.module builtinsPlace).attrs.has e.1 = false
  items : ∀ v ∈ s.hints, isObject v = false

instance (s : Store) : Decidable (Untouched s) :=
  decidable_of_iff ((∀ e ∈ usualNames, (s.module builtinsPlace).attrs.has e.1 = false)
    ∧ ∀ v ∈ s.hints, isObject v = false) ⟨fun h => ⟨h.1, h.2⟩, fun h => ⟨h.builtins, h.items⟩⟩

theorem Usual.evolves {x : String} {s t : Store} (h : Usual s) (hst : Evolves x s t) : Usual t :=
  fun e he => hst.globals ▸ h e he

/-- What was never touched until later was not touched before. -/
theorem Untouched.of_later {s t : Store} (h : Untouched t)
    (hattrs : ∀ p y, (s.module p).attrs.has y → (t.module p).attrs.has y) (hhints : s.hints <:+ t.hints) :
    Untouched s where
  builtins e he := by
    have hlater := h.builtins e he
    rw [← Bool.not_eq_true] at hlater ⊢
    exact fun hnow => hlater (hattrs _ _ hnow)
  items v hv := h.items v (hhints.subset hv)

theorem Untouched.before {x : String} {s t : Store} (h : Untouched t) (hst : Evolves x s t) :
    Untouched s := h.of_later hst.attrs hst.hints

/-- The usual names are private to no class. -/
theorem privateName_usual {e : String × Value} (he : e ∈ usualNames) (cls : String) :
    privateName cls e.1 = e.1 := by
  have hprivate : isPrivate e.1 = false := by
    revert e
    decide +kernel
  rw [privateName, hprivate]
  rfl

theorem preludeNames_usual {e : String × Value} (he : e ∈ usualNames) :
    (preludeNames.get? e.1).or (builtinValue? e.1) = some e.2 := by
  simp only [usualNames, List.mem_cons, List.not_mem_nil, or_false] at he
  rcases he with rfl | rfl | rfl | rfl | rfl | rfl | rfl <;> rfl

/-- The usual names mean the usual things. -/
theorem valueOf_usual {s : Store} {frame : Frame} {name : String} {v : Value}
    (he : (name, v) ∈ usualNames) (hs : Usual s) (hut : Untouched s) (hown : frame.ownNames = [])
    (hlocal : s.locals.get? name = none) : valueOf frame name s = (.ok v, s) := by
  have hattr : (s.module builtinsPlace).attrs.get? name = none :=
    Option.not_isSome_iff_eq_none.mp (Bool.eq_false_iff.mp (hut.builtins _ he))
  have hmeans : (s.globals.get? name).or (builtinValue? name) = some v := by
    rw [hs _ he]
    exact preludeNames_usual he
  have hmeant : frame.meant name = name := privateName_usual he frame.className
  unfold valueOf
  simp only [hmeant]
  rw [bind_of_ok _ (get_eq_ok s), hlocal, hown]
  exact globalValue_eq_ok hattr hmeans

/-! ## Items of hints -/

/-- What can be the item of a hint of a parameter: a class, the text that names one, or a hint. -/
inductive IsItem : Value → Prop
  | cls (c : ClassRef) : IsItem (.cls c)
  | text (t : Points) : IsItem (.text t)
  | hint (v : Value) : IsItem (.hint v)

/-- Items of one kind; only equal classes are. -/
def Alike : Value → Value → Prop
  | .cls c, .cls d => c = d
  | .text _, .text _ => True
  | .hint _, .hint _ => True
  | _, _ => False

section
variable {v w : Value} {caller : Caller} {s t : Store}

/-- Neither of two values of different kinds knows how to compare with the other one. -/
theorem compareFrom_unlike {agree : Value → Value → Calling Bool}
    {compare : BinaryOp → Value → Value → Calling Value} (hv : IsItem v) (hw : isObject w = false)
    (hvw : ¬ Alike v w) :
    compareFrom agree compare .eq v w caller s = (.ok none, s)
      ∧ compareFrom agree compare .eq w v caller s = (.ok none, s) := by
  cases hv with
  | cls c =>
    cases w with
    | object => cases hw
    | cls d =>
      have hcd : (c == d) = false := beq_false_of_ne hvw
      have hdc : (d == c) = false := beq_false_of_ne (Ne.symm hvw)
      have hresult (b : Bool) (hb : b = false) :
          ((Except.ok ((if b then some true else none).map Value.bool), s) :
            Except Stop (Option Value) × Store) = (.ok none, s) := by rw [hb]; rfl
      exact ⟨hresult (c == d) hcd, hresult (d == c) hdc⟩
    | _ => exact ⟨rfl, rfl⟩
  | text t =>
    cases w with
    | object => cases hw
    | text => exact absurd trivial hvw
    | _ => exact ⟨rfl, rfl⟩
  | hint h =>
    cases w with
    | object => cases hw
    | hint => exact absurd trivial hvw
    | _ => exact ⟨rfl, rfl⟩

theorem same_unlike (hv : IsItem v) (hvw : ¬ Alike v w) : v.same w = false := by
  cases hv <;> cases w <;> first | rfl | exact absurd trivial hvw | exact beq_false_of_ne hvw

/-- Values of different kinds do not agree. -/
theorem agree_unlike (hv : IsItem v) (hw : isObject w = false) (hvw : ¬ Alike v w) :
    agree v w caller s = (.ok false, s) := by
  obtain ⟨n, hn⟩ : ∃ n, s.depth = n + 2 := ⟨s.depth - 2, by rw [Store.depth]; omega⟩
  have hsame := same_unlike hv hvw
  obtain ⟨hleft, hright⟩ : compareFrom (agreeUpTo n) (compareUpTo n) .eq v w caller s = (.ok none, s)
      ∧ compareFrom (agreeUpTo n) (compareUpTo n) .eq w v caller s = (.ok none, s) :=
    compareFrom_unlike hv hw hvw
  have horElse {a b : Calling (Option Value)} (ha : a caller s = (.ok none, s))
      (hb : b caller s = (.ok none, s)) : orElse a b caller s = (.ok none, s) := by
    rw [orElse, calling_bind_of_ok _ ha]
    exact hb
  have hcompare : compareUpTo (n + 1) .eq v w caller s = (.ok (.bool false), s) := by
    rw [compareUpTo, calling_get_bind]
    have hlast : (pure (.bool (v.same w)) : Eval Value) s = (.ok (.bool false), s) := by
      rw [hsame]
      rfl
    split
    · exact (calling_bind_of_ok _ (horElse hright hleft)).trans hlast
    · exact (calling_bind_of_ok _ (horElse hleft hright)).trans hlast
  rw [agree, calling_get_bind, hn, agreeUpTo, hsame, if_neg Bool.false_ne_true, calling_bind_of_ok _ hcompare]
  rfl

/-- The first value that agrees with an item is of its kind. -/
theorem earlier?_alike (hv : IsItem v) {ws : List Value} (hws : ∀ w ∈ ws, isObject w = false)
    {w : Value} (h : earlier? v ws caller s = (.ok (some w), t)) : Alike v w := by
  induction ws generalizing s with
  | nil => cases h
  | cons u us ih =>
    obtain ⟨hu, hus⟩ := List.forall_mem_cons.mp hws
    rw [earlier?, calling_bind_eq_ok] at h
    obtain ⟨found, r, hagree, h⟩ := h
    by_cases halike : Alike v u
    · cases found with
      | true =>
        cases h
        exact halike
      | false => exact ih hus h
    · rw [agree_unlike hv hu halike] at hagree
      cases hagree
      exact ih hus h

/-- The name of a class is kept as such. -/
theorem nameHint_ok {n : Points} (h : nameHint n caller s = (.ok v, t)) : v = .nameHint n := by
  unfold nameHint at h
  extract_lets source at h
  split at h
  · cases h
  · split at h
    · cases h
    · split at h
      · cases h
      · split at h
        · cases h
          rfl
        · cases h

/-- An item of a hint is kept as it is, but for the name of a class. -/
theorem listHintOf_item (hv : IsItem v) {h : Value} (hh : listHintOf v caller s = (.ok h, t)) :
    ∃ item, h = .hint item ∧ (item = .core .text ↔ v = .core .text) := by
  cases hv with
  | cls c =>
    cases hh
    exact ⟨.cls c, rfl, .rfl⟩
  | hint u =>
    cases hh
    exact ⟨.hint u, rfl, .rfl⟩
  | text n =>
    unfold listHintOf at hh
    rw [calling_get_bind] at hh
    obtain ⟨items, r, hitems, hh⟩ := calling_bind_eq_ok.mp hh
    change [Value.text n].mapM hintItem caller s = _ at hitems
    rw [List.mapM_cons] at hitems
    obtain ⟨item, r', hitem, hitems⟩ := calling_bind_eq_ok.mp hitems
    obtain rfl := nameHint_ok hitem
    cases hitems
    cases hh
    exact ⟨.nameHint n, rfl, by simp⟩

theorem isKey_item (hv : IsItem v) : isKey v caller s = (.ok true, s) := by
  obtain ⟨n, hn⟩ : ∃ n, s.depth = n + 1 := ⟨s.depth - 1, by rw [Store.depth]; omega⟩
  have hcheck : checkKey v caller s = (.ok (), s) := by
    rw [checkKey, calling_get_bind, hn, checkKeyUpTo, calling_get_bind]
    cases hv <;> rfl
  unfold isKey ending settle
  rw [hcheck]
  rfl

/-- The hint for an item is one of that item: an earlier item is taken in its place only if it is
equal. -/
theorem hintFor_item (hv : IsItem v) (hut : ∀ w ∈ s.hints, isObject w = false) {h : Value}
    (hh : hintFor v caller s = (.ok h, t)) :
    ∃ item, h = .hint item ∧ (item = .core .text ↔ v = .core .text) := by
  unfold hintFor at hh
  rw [calling_bind_of_ok _ (isKey_item hv), if_pos rfl, calling_get_bind, calling_bind_eq_ok] at hh
  obtain ⟨found, r, hfound, hh⟩ := hh
  cases found with
  | some w =>
    have halike := earlier?_alike hv hut hfound
    have hw : IsItem w := by
      cases hv <;> cases w <;> first | exact absurd halike id | constructor
    obtain ⟨item, rfl, hitem⟩ := listHintOf_item hw hh
    refine ⟨item, rfl, hitem.trans ?_⟩
    cases hv <;> cases w <;> simp_all [Alike]
  | none =>
    obtain ⟨h', r', hlist, hh⟩ := calling_bind_eq_ok.mp hh
    cases hh
    exact listHintOf_item hv hlist

end

/-! ## Code of hints -/

/-- The hint of a type is that of a list of texts exactly for the arrays of one rank whose element
type stands for texts. -/
theorem arrayHint_eq_textsHint {name : String} {rank : Nat} :
    arrayHint (elementHint name) rank = textsHint ↔
      rank = 1 ∧ basicTypes.lookup name = some "str" := by
  have helement : elementHint name = .name "str" ↔ basicTypes.lookup name = some "str" := by
    unfold elementHint
    cases basicTypes.lookup name <;> simp
  match rank with
  | 0 =>
    have hno : elementHint name ≠ textsHint := by
      unfold elementHint
      cases basicTypes.lookup name <;> exact Expr.noConfusion
    simp [arrayHint, hno]
  | 1 => simp [arrayHint, textsHint, helement]
  | n + 2 => simp [arrayHint, textsHint]

/-- The element types that stand for something built in are among the usual names. -/
theorem usual_of_basic {name ident : String} (h : basicTypes.lookup name = some ident) :
    ∃ c : Core, (ident, .core c) ∈ usualNames ∧ (c = .text ↔ ident = "str") := by
  obtain ⟨front, back, hsplit, -⟩ := List.lookup_eq_some_iff.mp h
  have hmem : (name, ident) ∈ basicTypes := by rw [hsplit]; simp
  have hident : ident ∈ ["str", "int", "float", "bool", "Any"] := by
    have hall : ∀ e ∈ basicTypes, e.2 ∈ ["str", "int", "float", "bool", "Any"] := by decide +kernel
    exact hall _ hmem
  simp only [List.mem_cons, List.not_mem_nil, or_false] at hident
  rcases hident with rfl | rfl | rfl | rfl | rfl
  · exact ⟨.text, by simp [usualNames], by decide⟩
  · exact ⟨.int, by simp [usualNames], by decide⟩
  · exact ⟨.float, by simp [usualNames], by decide⟩
  · exact ⟨.bool, by simp [usualNames], by decide⟩
  · exact ⟨.any, by simp [usualNames], by decide⟩

section
variable {x : String} {frame : Frame} {s t : Store} {v : Value}

/-- The value of a usual name. -/
theorem eval_usual (hown : frame.ownNames = []) (hs : Usual s) (hut : Untouched s)
    (hlocals : ∀ e ∈ usualNames, s.locals.get? e.1 = none) {name : String}
    (he : (name, v) ∈ usualNames) (n : Nat) : eval (n + 1) frame (.name name) s = (.ok v, s) := by
  unfold eval
  exact valueOf_usual he hs hut hown (hlocals _ he)

theorem eval_elementHint (hown : frame.ownNames = []) (hs : Usual s) (hsp : Spared x s)
    (hut : Untouched t) (hlocals : ∀ e ∈ usualNames, s.locals.get? e.1 = none) {name : String}
    {n : Nat} (h : eval n frame (elementHint name) s = (.ok v, t)) :
    IsItem v ∧ (v = .core .text ↔ basicTypes.lookup name = some "str") ∧ isTexts v = false := by
  have huts : Untouched s := hut.before ((eval_leaves n frame _).after hsp h).1
  cases n with
  | zero =>
    unfold eval at h
    cases h
  | succ n =>
    unfold elementHint at h
    cases hbasic : basicTypes.lookup name with
    | some ident =>
      obtain ⟨c, he, hc⟩ := usual_of_basic hbasic
      rw [hbasic] at h
      have hvalue := eval_usual hown hs huts hlocals he n
      cases hvalue.symm.trans h
      exact ⟨.cls _, by simp [hc], rfl⟩
    | none =>
      rw [hbasic] at h
      unfold eval at h
      cases h
      exact ⟨.text _, by simp [textValue], rfl⟩

/-- The value of the hint of a type. -/
theorem eval_arrayHint (hown : frame.ownNames = []) (hs : Usual s) (hsp : Spared x s)
    (hut : Untouched t) (hlocals : ∀ e ∈ usualNames, s.locals.get? e.1 = none) {name : String}
    {rank n : Nat} (h : eval n frame (arrayHint (elementHint name) rank) s = (.ok v, t)) :
    IsItem v ∧ (v = .core .text ↔ rank = 0 ∧ basicTypes.lookup name = some "str")
      ∧ (isTexts v ↔ rank = 1 ∧ basicTypes.lookup name = some "str") := by
  induction rank generalizing n t v with
  | zero =>
    obtain ⟨hitem, htext, hno⟩ := eval_elementHint hown hs hsp hut hlocals h
    exact ⟨hitem, by simp [htext], by simp [hno]⟩
  | succ rank ih =>
    cases n with
    | zero =>
      unfold eval at h
      cases h
    | succ n =>
      have huts : Untouched s := hut.before ((eval_leaves _ frame _).after hsp h).1
      rw [arrayHint, eval] at h
      obtain ⟨list, r, hlist, hrest⟩ := calling_bind_eq_ok.mp h
      obtain ⟨item, r', hinner, hindex⟩ := calling_bind_eq_ok.mp hrest
      obtain ⟨rfl, rfl⟩ : list = .listHint ∧ s = r := by
        change eval n frame (.name "List") s = _ at hlist
        cases n with
        | zero => cases hlist
        | succ n =>
          have hvalue := eval_usual hown hs huts hlocals (List.mem_cons_self) n
          cases hvalue.symm.trans hlist
          exact ⟨rfl, rfl⟩
      change eval n frame (arrayHint (elementHint name) rank) s = _ at hinner
      change hintFor item (apply n) r' = _ at hindex
      have hspr' := ((eval_leaves _ frame _).after hsp hinner).1.spared hsp
      have hutr' : Untouched r' :=
        hut.before (((hintFor_made item).obeys _ (apply_leaves n)).after hspr' hindex).1
      obtain ⟨hitem, htext, -⟩ := ih hutr' hinner
      obtain ⟨kept, rfl, hkept⟩ := hintFor_item hitem hutr'.items hindex
      refine ⟨.hint kept, by simp, ?_⟩
      have htexts : isTexts (.hint kept) ↔ kept = .core .text := by
        unfold isTexts
        split <;> simp_all
      rw [htexts, hkept, htext]
      simp

end

end BraceScript.Eval
