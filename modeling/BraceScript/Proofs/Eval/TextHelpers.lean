import BraceScript.Eval.Prelude
import BraceScript.Proofs.Eval.Fuel
import BraceScript.Proofs.Eval.Placeholders
import BraceScript.Proofs.Eval.ReadyMade

/-!
# Texts by the helpers

What the helpers for texts do in one step: the text of a text is the text itself, the digits of a
placeholder lead to the text of an argument, texts are joined by what they hold, and a value is added
to a text by its text. Wherever a helper can do without names (`Store.isDirect`) it does what it does
by names, as long as these mean what they mean at the start (`Store.Formats`).
-/

namespace BraceScript.Eval

open Text (Points)

/-! ## Names -/

/-- The names that the text of a text is looked up by. -/
def textNames : List String := ["isinstance", "bool", "float", "str"]

/-- The names that templates are filled by. -/
def formatNames : List String := ["_re", "_cs_str", "int"] ++ textNames

/-- What values are put together as text by means what it means at the start. -/
structure Store.Formats (s : Store) : Prop where
  names : s.Standard formatNames
  sub : (s.module (sharedPlace "re")).attrs.get? "sub" = some (.native .substitute)

section
variable {s : Store} {caller : Caller}

/-! ## Values by themselves -/

theorem textUpTo_text (n : Nat) (t : Points) : textUpTo n (.text t) = pure t := by
  cases n <;> rfl

theorem textUpTo_int (n : Nat) (i : Int) : textUpTo n (.int i) = shown (.int i) := by
  cases n <;> rfl

theorem plainScriptText_int (i : Int) : plainScriptText (.int i) = text (.int i) := rfl

theorem text_text (t : Points) : text (.text t) caller s = (.ok t, s) := by
  show textUpTo s.shownDepth (.text t) caller s = _
  rw [textUpTo_text]
  rfl

theorem apply_str_text (n : Nat) (t : Points) :
    apply (n + 1) (.core .text) [.text t] s = (.ok (.text t), s) := by
  show (text (.text t) >>= fun t => pure (.text t) : Calling Value) (apply n) s = _
  rw [calling_bind_of_ok _ (text_text t)]
  rfl

theorem apply_text (n : Nat) (v : Value) :
    apply (n + 1) (.native .text) [v] = scriptText v (apply n) := by
  have hbind : Native.text.signature.bind [v] = .ok ([v], []) := rfl
  exact apply_native n hbind

theorem mapM_zipIdx {α β : Type} {f : α × Nat → Calling β} {as : List α} {bs : List β}
    (h : List.Forall₂ (fun a b => ∀ i, f (a, i) caller s = (.ok b, s)) as bs) (k : Nat) :
    (as.zipIdx k).mapM f caller s = (.ok bs, s) := by
  induction h generalizing k with
  | nil => rfl
  | cons hab _ ih =>
    rw [List.zipIdx_cons, List.mapM_cons, calling_bind_of_ok _ (hab k),
      calling_bind_of_ok _ (ih (k + 1))]
    rfl

/-- Values are joined by the texts that they hold. -/
theorem joinTexts_eq {vs : List Value} {ts : List Points}
    (h : List.Forall₂ (fun v t => s.bare v = .text t) vs ts) (separator : Points) :
    joinTexts separator vs caller s = (.ok (.text (Points.intercalate separator ts)), s) := by
  unfold joinTexts
  rw [calling_get_bind]
  refine calling_bind_of_ok _ (mapM_zipIdx (h.imp fun v t hv i => ?_) 0)
  dsimp only
  rw [hv]
  rfl

theorem plus_text (a b : Points) :
    plus "+" (.text a) (.text b) caller s = (.ok (.text (a ++ b)), s) := rfl

/-! ## Places in tuples -/

theorem placeOf_int (kind : Sequence) (length : Nat) (i : Int) (outside : Fault) :
    placeOf kind length (.int i) outside caller s
      = (if fitsIndex i then
          match placeIn length i with
          | some n => pure n
          | none => fail outside
        else fail .indexTooLarge : Eval Nat) s := by
  have hindex : asIndex? (.int i) caller s = (.ok (some i), s) := rfl
  unfold placeOf
  rw [calling_bind_of_ok _ hindex]
  dsimp only
  split
  · cases placeIn length i <;> rfl
  · rfl

theorem index_tuple_bind (args : List Value) (i : Nat) : index (.tuple args) (.int i) caller s
    = (placeOf .tuple args.length (.int i) (.outOfRange .tuple) >>= fun i =>
        pure (args[i]?.getD .null)) caller s := by
  unfold index
  rw [calling_get_bind]
  dsimp only [Store.meaning?, Store.bare]
  unfold itemAt
  rw [calling_get_bind]
  dsimp only [sequenceKind?, Store.size?]
  rfl

/-- The item of a tuple at a place. -/
theorem index_tuple {args : List Value} {i : Nat} {v : Value} (hv : args[i]? = some v)
    (hcount : args.length ≤ indexBound) :
    index (.tuple args) (.int i) caller s = (.ok v, s) := by
  have hi : i < args.length := (List.getElem?_eq_some_iff.mp hv).1
  have hfits : fitsIndex i := by
    simp only [fitsIndex, Bool.and_eq_true, decide_eq_true_eq]
    omega
  have hin : placeIn args.length i = some i := by simp [placeIn, hi]
  have hplace : placeOf .tuple args.length (.int i) (.outOfRange .tuple) caller s
      = (.ok i, s) := by
    rw [placeOf_int, if_pos hfits, hin]
    rfl
  rw [index_tuple_bind, calling_bind_of_ok _ hplace, hv]
  rfl

theorem index_tuple_outside {args : List Value} {i : Nat} (hi : args[i]? = none) :
    Raised "IndexError" (index (.tuple args) (.int i) caller s) := by
  have hout : placeIn args.length i = none := by
    rw [List.getElem?_eq_none_iff] at hi
    simp [placeIn, hi]
  have hplace : Raised "IndexError"
      (placeOf .tuple args.length (.int i) (.outOfRange .tuple) caller s) := by
    rw [placeOf_int]
    split
    · rw [hout]
      exact raised_fail (.outOfRange .tuple) s
    · exact raised_fail .indexTooLarge s
  rw [index_tuple_bind]
  exact hplace.calling_bind _

end

section
variable {s : Store} (hs : s.Formats)
include hs

/-! ## Texts by name -/

theorem useName_text (n : Nat) (v : Value) :
    useName "_cs_str" [v] (apply n) s = apply n (.native .text) [v] s :=
  useName_standard hs.names (by decide) rfl [v]

/-- A text is of no other built-in class. -/
theorem isOf_text {name : String} (hname : name ∈ formatNames) {c : Core}
    (hcore : startValue? name = some (.core c)) (hc : c ≠ .any) (n : Nat) (t : Points) :
    isOf (.text t) name (apply (n + 1)) s
      = (.ok (((Core.ancestors .text).map ClassRef.core).contains (.core c)), s) := by
  rw [isOf_standard hs.names (by decide) hname hcore hc, ← isSubclass_core (s := s)]
  rfl

/-- The text of a text is the text. -/
theorem apply_text_text (n : Nat) (t : Points) :
    apply (n + 2) (.native .text) [.text t] s = (.ok (.text t), s) := by
  rw [apply_text, scriptText, calling_get_bind]
  cases s.isDirect [.text t] with
  | true =>
    show (text (.text t) >>= fun t => pure (.text t) : Calling Value) (apply (n + 1)) s = _
    rw [calling_bind_of_ok _ (text_text t)]
    rfl
  | false =>
    have hbool : ((Core.ancestors .text).map ClassRef.core).contains (.core .bool) = false := by
      decide
    have hfloat : ((Core.ancestors .text).map ClassRef.core).contains (.core .float) = false := by
      decide
    show textByNames (.text t) (apply (n + 1)) s = _
    unfold textByNames
    dsimp only
    rw [calling_bind_of_ok _ (isOf_text hs (by decide) rfl (by decide) n t), hbool,
      if_neg Bool.false_ne_true,
      calling_bind_of_ok _ (isOf_text hs (by decide) rfl (by decide) n t), hfloat,
      if_neg Bool.false_ne_true, pure_bind, if_neg Bool.false_ne_true,
      useName_standard hs.names (by decide) rfl]
    exact apply_str_text n t

/-! ## Placeholders by name -/

theorem attrOf_sub {caller : Caller} : attrOf (sharedModule "re") "sub" caller s
    = (.ok (.native .substitute), s) := by
  have hattr : s.attribute? (sharedModule "re") "sub" = some (.native .substitute) := by
    show ((((s.module (sharedPlace "re")).attrs.get? "sub").orElse _).orElse _) = _
    rw [hs.sub]
    rfl
  unfold attrOf
  rw [calling_get_bind, hattr]
  rfl

/-- The digits of a placeholder, read by the name of the class of integers. -/
theorem useName_int {ds : List Nat} (hne : ds ≠ []) (hds : ∀ d ∈ ds, isDigitCode d)
    (hlimit : ds.length ≤ Number.digitLimit) (n : Nat) :
    useName "int" [.text ⟨ds⟩] (apply (n + 1)) s = (.ok (.int (indexOf ds)), s) := by
  have hread : toInteger (.text ⟨ds⟩) (apply n) s = (.ok (indexOf ds), s) := by
    show (check (readInt 10 ⟨ds⟩) : Eval Int) s = _
    rw [readInt_digits hne hds hlimit]
    rfl
  rw [useName_standard hs.names (f := .core .int) (by decide) rfl]
  show (toInteger (.text ⟨ds⟩) >>= fun k => pure (.int k) : Calling Value) (apply n) s = _
  rw [calling_bind_of_ok _ hread]
  rfl

section
variable {args : List Value} {ds : List Nat} (hne : ds ≠ []) (hds : ∀ d ∈ ds, isDigitCode d)
  (hlimit : ds.length ≤ Number.digitLimit)
include hne hds hlimit

theorem apply_replacement (n : Nat) :
    apply (n + 3) (.method (.tuple args) (.native .replacement)) [.text ⟨ds⟩] s
      = (index (.tuple args) (.int (indexOf ds)) >>= fun v => call (.native .text) [v])
        (apply (n + 1)) s := by
  have hbind : Native.replacement.signature.bind [.tuple args, .text ⟨ds⟩]
      = .ok ([.tuple args, .text ⟨ds⟩], []) := rfl
  show apply (n + 2) (.native .replacement) [.tuple args, .text ⟨ds⟩] s = _
  rw [apply_native (n + 1) hbind]
  show replacementByNames (.tuple args) (.text ⟨ds⟩) (apply (n + 1)) s = _
  unfold replacementByNames
  rw [calling_bind_of_ok _ (globalValue_standard hs.names (x := "_cs_str")
      (v := .native .text) (by decide) rfl),
    calling_bind_of_ok _ (useName_int hs hne hds hlimit n)]

/-- The replacement of a placeholder is the text of its argument. -/
theorem apply_replacement_some {v : Value} (hv : args[indexOf ds]? = some v)
    (hcount : args.length ≤ indexBound) (n : Nat) :
    apply (n + 3) (.method (.tuple args) (.native .replacement)) [.text ⟨ds⟩] s
      = apply (n + 1) (.native .text) [v] s := by
  rw [apply_replacement hs hne hds hlimit, calling_bind_of_ok _ (index_tuple hv hcount)]
  rfl

theorem apply_replacement_none (hv : args[indexOf ds]? = none) (n : Nat) :
    Raised "IndexError"
      (apply (n + 3) (.method (.tuple args) (.native .replacement)) [.text ⟨ds⟩] s) := by
  rw [apply_replacement hs hne hds hlimit]
  exact (index_tuple_outside hv).calling_bind _

end

end

/-! ## Sums -/

section
variable {s t : Store} {v : Value} {k : Nat}

/-- The text of a value, without names. -/
theorem plainScriptText_of_apply {x : Except Stop Points} (hdirect : s.isDirect [v] = true)
    (hv : apply (k + 1) (.native .text) [v] s = (x.map .text, t)) :
    plainScriptText v (apply k) s = (x, t) := by
  rw [apply_text, scriptText, calling_get_bind, hdirect] at hv
  replace hv : (plainScriptText v >>= fun p => pure (.text p) : Calling Value) (apply k) s
    = (x.map .text, t) := hv
  rcases hplain : plainScriptText v (apply k) s with ⟨e | p, t'⟩
  · rw [calling_bind_of_error _ hplain] at hv
    cases x <;> cases hv
    rfl
  · rw [calling_bind_of_ok _ hplain] at hv
    cases x <;> cases hv
    rfl

/-- Adding a value to a text adds its text. -/
theorem apply_add (hs : s.Formats) {x : Except Stop Points} (hx : x ≠ .error .outOfFuel)
    (hv : apply (k + 2) (.native .text) [v] s = (x.map .text, t)) (a : Points) :
    apply (k + 3) (.native .add) [.text a, v] s = (x.map fun b => .text (a ++ b), t) := by
  have hbind : Native.add.signature.bind [.text a, v] = .ok ([.text a, v], []) := rfl
  have hobject : s.isDirect [.text a, v] = s.isDirect [v] := by simp [Store.isDirect, isObject]
  rw [apply_native (k + 2) hbind]
  show scriptSum (.text a) v (apply (k + 2)) s = _
  unfold scriptSum
  rw [calling_get_bind, hobject]
  cases hdirect : s.isDirect [v] with
  | true =>
    have hmore := apply_further (Nat.le_succ (k + 2)) hv (by cases x <;> simp_all [Except.map])
    have hplain := plainScriptText_of_apply hdirect hmore
    show (text (.text a) >>= fun b => plainScriptText v >>= fun c => pure (.text (b ++ c)) :
      Calling Value) (apply (k + 2)) s = _
    rw [calling_bind_of_ok _ (text_text a)]
    cases x with
    | error e => rw [calling_bind_of_error _ hplain]; rfl
    | ok b => rw [calling_bind_of_ok _ hplain]; rfl
  | false =>
    have htext : ((Core.ancestors .text).map ClassRef.core).contains (.core .text) = true := by
      decide
    have hname := (useName_text hs (k + 2) v).trans hv
    rw [if_neg Bool.false_ne_true,
      calling_bind_of_ok _ (isOf_text hs (by decide) rfl (by decide) (k + 1) a), htext,
      calling_bind_of_ok _
        (isOf_standard hs.names (by decide) (by decide) rfl (by decide) (k + 1) v),
      Bool.true_or, if_pos rfl,
      calling_bind_of_ok _ ((useName_text hs (k + 2) _).trans (apply_text_text hs k a))]
    cases x with
    | error e => rw [calling_bind_of_error _ hname]; rfl
    | ok b => rw [calling_bind_of_ok _ hname]; exact plus_text a b

end

end BraceScript.Eval
