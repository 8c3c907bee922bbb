import BraceScript.Code.Faults
import BraceScript.Lowering.Stmt
import BraceScript.Proofs.Eval.Running

/-!
# Compound assignments

The target of an assignment denotes a place: a variable, an attribute of a value or an item of one.
Code finds it by evaluating the parts of the target. A compound assignment with `-=` or `*=`, and
`++` and `--`, find the place once, look at it and store the result there (`exec_inPlace`). The
other ones name their target twice, so they find a place again when the result is there, and store
it at that one (`exec_helper`). This is the same place where no part of the target can change its
value in between (`Fixed`). `compound_assignment` puts this together.
-/

namespace BraceScript.Lowering

open Syntax Eval
open Code (selfName ident AugmentOp targetKind?)

/-! ## Places -/

/-- Where a value can be stored. -/
inductive Place
  | name (x : String)
  | attr (self : Value) (x : String)
  | item (list place : Value)

namespace Place

/-- The value at a place. -/
def read (frame : Frame) : Place → Calling Value
  | .name x => valueOf frame x
  | .attr self x => attrOf self (frame.meant x)
  | .item list place => Eval.index list place

/-- Stores a value at a place. -/
def write (frame : Frame) (v : Value) : Place → Calling Unit
  | .name x => assignName frame x v
  | .attr self x => setAttribute self (frame.meant x) v
  | .item list place => setIndex list place v

end Place

/-- The name of the object or class that a bare name is a member of, if it is one. -/
def Scope.owner? (s : Scope) (x : String) : Option String :=
  match s.meaning x with
  | .staticMember => if s.inClassBody then none else some (ident s.names.type)
  | .instanceMember => some selfName
  | .variable | .global => none

/-- The name that a bare name becomes. -/
def Scope.identOf (s : Scope) (x : String) : String :=
  match s.meaning x with
  | .staticMember | .instanceMember => ident x
  | .variable | .global => globalIdent x

theorem Scope.codeOf_eq (s : Scope) (x : String) : s.codeOf x = match s.owner? x with
    | some owner => .attr (.name owner) (s.identOf x)
    | none => .name (s.identOf x) := by
  unfold Scope.codeOf Scope.owner? Scope.identOf
  cases s.meaning x with
  | staticMember => cases s.inClassBody <;> rfl
  | _ => rfl

/-- The codes of the parts of a target, which are evaluated to find its place. -/
def targetParts (s : Scope) : Target → List Code.Expr
  | .name t => ((s.owner? t.text).map .name).toList
  | .member e _ => [codeOf s e]
  | .index e i => [codeOf s e, codeOf s i]

/-- Finds the place that a target denotes. -/
def locate (s : Scope) (frame : Frame) (n : Nat) : Target → Eval Place
  | .name t =>
    match s.owner? t.text with
    | some owner => do return .attr (← eval n frame (.name owner)) (s.identOf t.text)
    | none => pure (.name (s.identOf t.text))
  | .member e x => do return .attr (← eval n frame (codeOf s e)) (ident x.text)
  | .index e i => do
    let list ← eval n frame (codeOf s e)
    return .item list (← eval n frame (codeOf s i))

theorem targetKind?_trail (f : Code.Expr → Code.Expr) (c : Code.Expr) :
    (c.trail f = f c) ∨ targetKind? (c.trail f) = some "expression" := by
  cases c with
  | binary op l r =>
    cases op with
    | mul => exact .inr rfl
    | _ => exact .inl rfl
  | _ => exact .inl rfl

/-- Code that can be assigned to names a variable, or an attribute or an item of something. -/
theorem targetCode_cases {s : Scope} {t : Target} (ht : targetKind? (targetCode s t) = none) :
    (∃ x, targetCode s t = .name x ∧ targetParts s t = []
      ∧ ∀ frame n, locate s frame n t = pure (.name x))
    ∨ (∃ c x, targetCode s t = .attr c x ∧ targetParts s t = [c]
      ∧ ∀ frame n, locate s frame n t = do return .attr (← eval n frame c) x)
    ∨ ∃ c i, targetCode s t = .index c i ∧ targetParts s t = [c, i]
      ∧ ∀ frame n, locate s frame n t = do
        let list ← eval n frame c
        return .item list (← eval n frame i) := by
  cases t with
  | name t =>
    cases howner : s.owner? t.text with
    | none =>
      refine .inl ⟨s.identOf t.text, ?_, ?_, fun frame n => ?_⟩
      · rw [targetCode, s.codeOf_eq, howner]
      · rw [targetParts, howner]
        rfl
      · rw [locate, howner]
    | some owner =>
      refine .inr (.inl ⟨.name owner, s.identOf t.text, ?_, ?_, fun frame n => ?_⟩)
      · rw [targetCode, s.codeOf_eq, howner]
      · rw [targetParts, howner]
        rfl
      · rw [locate, howner]
  | member e x =>
    refine .inr (.inl ⟨codeOf s e, ident x.text, ?_, rfl, fun _ _ => rfl⟩)
    rw [targetCode, memberCode] at ht ⊢
    split at ht
    · cases ht
    · next hlength =>
      rw [if_neg hlength]
      rcases targetKind?_trail (.withAttr (ident x.text)) (codeOf s e) with htrail | htrail
      · rw [htrail] at ht ⊢
        cases hcode : codeOf s e with
        | number n =>
          rw [hcode, Code.Expr.withAttr] at ht
          rw [Code.Expr.withAttr]
          split at ht
          · cases ht
          · next hfraction => rw [if_neg hfraction]
        | _ => rfl
      · rw [htrail] at ht
        cases ht
  | index e i =>
    refine .inr (.inr ⟨codeOf s e, codeOf s i, ?_, rfl, fun _ _ => rfl⟩)
    rcases targetKind?_trail (.index · (codeOf s i)) (codeOf s e) with htrail | htrail
    · exact htrail
    · rw [targetCode, htrail] at ht
      cases ht

/-! ## What compound assignments do -/

/-- The operator of code that a compound assignment uses, if it is one of code. -/
def inPlace? : AssignOp → Option AugmentOp
  | .sub => some .sub
  | .mul => some .mul
  | _ => none

/-- The operator of code that a step by one uses. -/
def stepOp : StepOp → AugmentOp
  | .increment => .add
  | .decrement => .sub

/-- The helper that a compound assignment uses, if it uses one. -/
def helper? : AssignOp → Option String
  | .add => some "_cs_add"
  | .div => some "_cs_div"
  | .mod => some "_cs_mod"
  | _ => none

/-- Changes the value at a place by an operator. The place is found once. -/
def changeInPlace (frame : Frame) (n : Nat) (find : Eval Place) (op : AugmentOp) (e : Code.Expr) :
    Eval Flow := callingBy (apply n) do
  let place ← find
  let old ← place.read frame
  let new ← augmented op old (← eval n frame e)
  place.write frame new
  return .next

/-- Changes the value at a place by a helper. The result is stored at a place that is made of the
first one. -/
def changeByHelper (frame : Frame) (n : Nat) (find : Eval Place) (again : Place → Eval Place)
    (helper : String) (e : Code.Expr) : Eval Flow := do
  let f ← valueOf frame helper
  let place ← find
  let old ← callingBy (apply n) (place.read frame)
  let v ← eval (n + 1) frame e
  let new ← apply (n + 2) f [old, v]
  let place ← again place
  callingBy (apply (n + 2)) (place.write frame new)
  return .next

section
variable {s : Scope} {t : Target} (frame : Frame) (n : Nat)

/-- The value of the code of a target is the one at its place. -/
theorem eval_targetCode (ht : targetKind? (targetCode s t) = none) :
    eval (n + 1) frame (targetCode s t)
      = locate s frame n t >>= fun place => callingBy (apply n) (place.read frame) := by
  rcases targetCode_cases ht with
    ⟨x, hcode, -, hfind⟩ | ⟨c, x, hcode, -, hfind⟩ | ⟨c, i, hcode, -, hfind⟩
  · rw [hcode, hfind]
    rfl
  · rw [hcode, hfind, bind_assoc]
    rfl
  · rw [hcode, hfind, bind_assoc]
    simp only [bind_assoc]
    rfl

/-- A value that the code of a target is given is stored at its place. -/
theorem store_targetCode (ht : targetKind? (targetCode s t) = none) (v : Value) :
    store (n + 1) frame (targetCode s t) v
      = locate s frame n t >>= fun place => callingBy (apply n) (place.write frame v) := by
  rcases targetCode_cases ht with
    ⟨x, hcode, -, hfind⟩ | ⟨c, x, hcode, -, hfind⟩ | ⟨c, i, hcode, -, hfind⟩
  · rw [hcode, hfind]
    rfl
  · rw [hcode, hfind, bind_assoc]
    rfl
  · rw [hcode, hfind, bind_assoc]
    simp only [bind_assoc]
    rfl

/-- An operator of code finds the place of a target once. -/
theorem exec_inPlace (ht : targetKind? (targetCode s t) = none) (op : AugmentOp) (e : Code.Expr) :
    exec (n + 2) frame (.augment (targetCode s t) op e)
      = changeInPlace frame n (locate s frame n t) op e := by
  have hexec (c : Code.Expr) : exec (n + 2) frame (.augment c op e)
      = update (n + 1) frame c op e >>= fun _ => pure .next := rfl
  rcases targetCode_cases ht with
    ⟨x, hcode, -, hfind⟩ | ⟨c, x, hcode, -, hfind⟩ | ⟨c, i, hcode, -, hfind⟩
  · rw [hcode, hexec, hfind]
    show (valueOf frame x >>= fun old => eval n frame e >>= fun v =>
      augmented op old v (apply n) >>= fun new => assignName frame x new) >>= _ = _
    simp only [bind_assoc]
    rfl
  · rw [hcode, hexec, hfind]
    show (eval n frame c >>= fun self => attrOf self (frame.meant x) (apply n) >>= fun old =>
      eval n frame e >>= fun v => augmented op old v (apply n) >>= fun new =>
        setAttribute self (frame.meant x) new (apply n)) >>= _ = _
    simp only [bind_assoc]
    show _ = (eval n frame c >>= fun self => pure (Place.attr self x)) >>= _
    rw [bind_assoc]
    rfl
  · rw [hcode, hexec, hfind]
    show (eval n frame c >>= fun list => eval n frame i >>= fun place =>
      Eval.index list place (apply n) >>= fun old => eval n frame e >>= fun v =>
        augmented op old v (apply n) >>= fun new => setIndex list place new (apply n)) >>= _ = _
    simp only [bind_assoc]
    show _ = (eval n frame c >>= fun list => eval n frame i >>= fun place =>
      pure (Place.item list place)) >>= _
    simp only [bind_assoc]
    rfl

/-- A helper does not see the place, which is found again for what it gives. -/
theorem exec_helper (ht : targetKind? (targetCode s t) = none) (helper : String) (e : Code.Expr) :
    exec (n + 4) frame (.assign (targetCode s t) (.apply helper [targetCode s t, e]))
      = changeByHelper frame n (locate s frame n t) (fun _ => locate s frame (n + 2) t) helper
        e := by
  have hexec (c : Code.Expr) : exec (n + 4) frame (.assign c (.apply helper [c, e]))
      = (valueOf frame helper >>= fun f => [c, e].mapM (eval (n + 1) frame) >>= fun args =>
        (if isBareSuper f args then liftM (superIn frame) else call f args : Calling Value)
          (apply (n + 2))) >>= fun v => store (n + 3) frame c v >>= fun _ => pure .next := rfl
  have hcall (f : Value) (old v : Value) : isBareSuper f [old, v] = false := by
    unfold isBareSuper
    split
    · next h => cases h
    · rfl
  unfold changeByHelper
  rw [hexec]
  simp only [List.mapM_cons, List.mapM_nil, bind_assoc, pure_bind, hcall, Bool.false_eq_true,
    if_false, eval_targetCode _ _ ht, store_targetCode _ _ ht]
  rfl

end

/-! ## Places that are found again -/

/-- Two stores with the same variables and the same names of the program. -/
structure SameNames (σ τ : Store) : Prop where
  locals : τ.locals = σ.locals
  globals : τ.globals = σ.globals

/-- In every store some attribute is assigned nowhere. -/
theorem exists_spared (σ : Store) : ∃ x, Spared x σ := by
  let assigned := σ.functions.toList.flatMap fun f =>
    (attrsSetAll f.body).map (Code.privateName f.className)
  obtain ⟨x, hx⟩ := Infinite.exists_notMem_finset ("_stream_name" :: assigned).toFinset
  rw [List.mem_toFinset, List.mem_cons, not_or] at hx
  refine ⟨x, fun heq => hx.1 heq.symm, fun p y hy heq => hx.2 ?_⟩
  unfold Store.function at hy heq
  cases hp : σ.functions[p]? with
  | none =>
    rw [hp] at hy
    cases hy
  | some f =>
    rw [hp] at hy heq
    refine List.mem_flatMap.mpr ⟨f, ?_, List.mem_map.mpr ⟨y, hy, heq⟩⟩
    exact Array.mem_toList_iff.mpr (Array.mem_of_getElem? hp)

/-- What leaves the variables alone, whatever attribute is spared, keeps all names. -/
theorem SameNames.after {α : Type} {a : Eval α} (ha : ∀ x, Leaves x a) {σ τ τ' : Store}
    {r : Except Stop α} (h : SameNames σ τ) (hr : a τ = (r, τ')) : SameNames σ τ' := by
  obtain ⟨x, hx⟩ := exists_spared τ
  obtain ⟨hevolves, hlocals⟩ := (ha x).after hx hr
  exact ⟨hlocals.trans h.locals, hevolves.globals.trans h.globals⟩

/-- Whether nothing can change the value of code: it is a literal, or a name of a variable or of the
program. -/
def Fixed (frame : Frame) (σ : Store) : Code.Expr → Prop
  | .name x => frame.ownNames.contains (frame.meant x) ∨ σ.locals.has (frame.meant x)
    ∨ σ.globals.has (frame.meant x)
  | .number _ | .text _ | .true | .false | .none => True
  | _ => False

theorem globalValue_of_get? {σ : Store} {x : String} {v : Value} (h : σ.globals.get? x = some v) :
    globalValue x σ = (.ok v, σ) := by
  unfold globalValue
  rw [bind_of_ok _ (get_eq_ok σ), h]
  rfl

/-- A name that was found once is found again. -/
theorem valueOf_again {frame : Frame} {σ τ τ' ρ : Store} {x : String}
    (hx : frame.ownNames.contains (frame.meant x) ∨ σ.locals.has (frame.meant x)
      ∨ σ.globals.has (frame.meant x))
    (hτ : SameNames σ τ) {v : Value} (h : valueOf frame x τ = (.ok v, τ')) (hρ : SameNames σ ρ) :
    valueOf frame x ρ = (.ok v, ρ) := by
  rw [valueOf_apply, hτ.locals] at h
  rw [valueOf_apply, hρ.locals]
  unfold Bindings.has at hx
  cases hlocal : σ.locals.get? (frame.meant x) with
  | some w =>
    rw [hlocal] at h
    cases h
    rfl
  | none =>
    rw [hlocal] at h hx
    by_cases hown : frame.ownNames.contains (frame.meant x)
    · simp only [if_pos hown] at h
      cases h
    · simp only [if_neg hown] at h ⊢
      -- The name is no variable, so it is bound in the program.
      cases hglobal : σ.globals.get? (frame.meant x) with
      | some w =>
        rw [globalValue_of_get? (hτ.globals ▸ hglobal)] at h
        cases h
        exact globalValue_of_get? (hρ.globals ▸ hglobal)
      | none =>
        rw [hglobal] at hx
        rcases hx with hx | hx | hx
        · exact absurd hx hown
        · cases hx
        · cases hx

/-- What was found once is found again. -/
theorem Fixed.eval_again {frame : Frame} {σ τ τ' ρ : Store} {c : Code.Expr} (hc : Fixed frame σ c)
    (hτ : SameNames σ τ) {n : Nat} {v : Value} (h : eval n frame c τ = (.ok v, τ'))
    (hρ : SameNames σ ρ) (m : Nat) : eval (m + 1) frame c ρ = (.ok v, ρ) := by
  cases n with
  | zero => cases h
  | succ n =>
    cases c with
    | name x => exact valueOf_again hc hτ h hρ
    | number | text | «true» | «false» | none =>
      cases h
      rfl
    | _ => exact hc.elim

/-- The place of a target whose parts are fixed is found again. -/
theorem locate_again {s : Scope} {t : Target} (ht : targetKind? (targetCode s t) = none)
    {frame : Frame} {σ τ τ' ρ : Store} (hparts : ∀ c ∈ targetParts s t, Fixed frame σ c)
    (hτ : SameNames σ τ) {n : Nat} {place : Place} (h : locate s frame n t τ = (.ok place, τ'))
    (hρ : SameNames σ ρ) (m : Nat) : locate s frame (m + 1) t ρ = (.ok place, ρ) := by
  rcases targetCode_cases ht with ⟨x, -, hc, hfind⟩ | ⟨c, x, -, hc, hfind⟩ | ⟨c, i, -, hc, hfind⟩
  · rw [hfind] at h ⊢
    cases h
    rfl
  · rw [hc, List.forall_mem_singleton] at hparts
    rw [hfind] at h ⊢
    obtain ⟨self, υ, hself, h⟩ := bind_eq_ok.mp h
    cases h
    rw [bind_of_ok _ (hparts.eval_again hτ hself hρ m)]
    rfl
  · rw [hc, List.forall_mem_cons, List.forall_mem_singleton] at hparts
    rw [hfind] at h ⊢
    obtain ⟨list, υ, hlist, h⟩ := bind_eq_ok.mp h
    have hυ : SameNames σ υ := hτ.after (fun _ => eval_leaves n frame c) hlist
    obtain ⟨item, υ', hitem, h⟩ := bind_eq_ok.mp h
    cases h
    rw [bind_of_ok _ (hparts.1.eval_again hτ hlist hρ m),
      bind_of_ok _ (hparts.2.eval_again hυ hitem hρ m)]
    rfl

/-- Looking at a place keeps all names. -/
theorem Place.read_leaves {x : String} (place : Place) (frame : Frame) (n : Nat) :
    Leaves x (callingBy (apply n) (place.read frame)) := by
  cases place with
  | name y => exact valueOf_leaves frame y
  | attr self y => exact (attrOf_made self _).obeys _ (apply_leaves n)
  | item list place => exact (index_made list place).obeys _ (apply_leaves n)

theorem locate_leaves {x : String} (s : Scope) (frame : Frame) (n : Nat) (t : Target) :
    Leaves x (locate s frame n t) := by
  cases t with
  | name t =>
    rw [locate]
    split
    · exact (eval_leaves n frame _).bind fun _ => .pure _
    · exact .pure _
  | member e y => exact (eval_leaves n frame _).bind fun _ => .pure _
  | index e i =>
    exact (eval_leaves n frame _).bind fun _ => (eval_leaves n frame _).bind fun _ => .pure _

/-- What comes after a computation matters for how it ends only. -/
theorem bind_congr_of_ok {α β : Type} {a : Eval α} {f g : α → Eval β} {σ : Store}
    (h : ∀ v τ, a σ = (.ok v, τ) → f v τ = g v τ) : (a >>= f) σ = (a >>= g) σ := by
  rw [stateBind_apply, stateBind_apply]
  rcases ha : a σ with ⟨_ | v, τ⟩
  · rfl
  · exact h v τ ha

/-- The result of a helper is stored at the place that was looked at if the parts of the target are
fixed. -/
theorem changeByHelper_again {s : Scope} {t : Target} (ht : targetKind? (targetCode s t) = none)
    {frame : Frame} {σ : Store} (hparts : ∀ c ∈ targetParts s t, Fixed frame σ c) (n : Nat)
    (helper : String) (e : Code.Expr) :
    changeByHelper frame n (locate s frame n t) (fun _ => locate s frame (n + 2) t) helper e σ
      = changeByHelper frame n (locate s frame n t) pure helper e σ := by
  have h₀ : SameNames σ σ := ⟨rfl, rfl⟩
  refine bind_congr_of_ok fun f τ₁ hf => ?_
  have h₁ := h₀.after (fun _ => valueOf_leaves frame helper) hf
  refine bind_congr_of_ok fun place τ₂ hplace => ?_
  have h₂ := h₁.after (fun _ => locate_leaves s frame n t) hplace
  refine bind_congr_of_ok fun old τ₃ hold => ?_
  have h₃ := h₂.after (fun _ => place.read_leaves frame n) hold
  refine bind_congr_of_ok fun v τ₄ hv => ?_
  have h₄ := h₃.after (fun _ => eval_leaves (n + 1) frame e) hv
  refine bind_congr_of_ok fun new τ₅ hnew => ?_
  have h₅ := h₄.after (fun _ => apply_leaves (n + 2) f [old, v]) hnew
  rw [bind_of_ok _ (locate_again ht hparts h₁ hplace h₅ (n + 1))]
  rfl

/-! ## Compound assignments -/

/-- What cannot be assigned cannot be changed either. -/
theorem grammarFault?_compound {target : Code.Expr} {kind : String}
    (h : targetKind? target = some kind) (e : Code.Expr) :
    (∀ op, (assignCode op target e).grammarFault?.isSome)
      ∧ ∀ op, (stepCode op target).grammarFault?.isSome := by
  have hassign (e : Code.Expr) : (Code.Stmt.assign target e).grammarFault?.isSome := by
    rw [Code.Stmt.grammarFault?, Code.assignFault?, h]
    cases Code.grammarFault? false target with
    | some f => rfl
    | none =>
      show (if _ then some _ else _ : Option Code.Fault).isSome = true
      split
      · rfl
      · cases Code.grammarFault? false e <;> rfl
  have haugment (op : AugmentOp) (e : Code.Expr) :
      (Code.Stmt.augment target op e).grammarFault?.isSome := by
    rw [Code.Stmt.grammarFault?, Code.augmentFault?, h]
    cases Code.grammarFault? false target with
    | some f => rfl
    | none => cases Code.grammarFault? false e <;> rfl
  refine ⟨fun op => ?_, fun op => ?_⟩
  · cases op with
    | set | add | div | mod => exact hassign _
    | sub | mul => exact haugment _ _
  · cases op <;> exact haugment _ _

/-- What a compound assignment and a step by one do, for every target. What cannot be assigned is
refused. An operator of code evaluates the parts of the target once and stores its result at the
place that they denote. With a helper this holds where nothing can change the value of a part; in
general the parts are evaluated again when the helper is done, and its result is stored at the place
that they denote then. -/
theorem compound_assignment (s : Scope) (t : Target) (e : Expr) :
    (∀ kind, targetKind? (targetCode s t) = some kind →
      (∀ op, (assignCode op (targetCode s t) (codeOf s e)).grammarFault?.isSome)
        ∧ ∀ op, (stepCode op (targetCode s t)).grammarFault?.isSome)
    ∧ (targetKind? (targetCode s t) = none → ∀ frame n,
      (∀ op code, inPlace? op = some code →
        exec (n + 2) frame (assignCode op (targetCode s t) (codeOf s e))
          = changeInPlace frame n (locate s frame n t) code (codeOf s e))
      ∧ (∀ op, exec (n + 2) frame (stepCode op (targetCode s t))
          = changeInPlace frame n (locate s frame n t) (stepOp op) (.number "1"))
      ∧ ∀ op helper, helper? op = some helper →
        exec (n + 4) frame (assignCode op (targetCode s t) (codeOf s e))
            = changeByHelper frame n (locate s frame n t) (fun _ => locate s frame (n + 2) t) helper
              (codeOf s e)
          ∧ ∀ σ, (∀ c ∈ targetParts s t, Fixed frame σ c) →
            exec (n + 4) frame (assignCode op (targetCode s t) (codeOf s e)) σ
              = changeByHelper frame n (locate s frame n t) pure helper (codeOf s e) σ) := by
  refine ⟨fun kind hkind => grammarFault?_compound hkind _, fun ht frame n => ?_⟩
  refine ⟨fun op code hop => ?_, fun op => ?_, fun op helper hop => ?_⟩
  · cases op with
    | sub | mul =>
      cases hop
      exact exec_inPlace frame n ht _ _
    | _ => cases hop
  · cases op <;> exact exec_inPlace frame n ht _ _
  · have hexec : exec (n + 4) frame (assignCode op (targetCode s t) (codeOf s e))
        = changeByHelper frame n (locate s frame n t) (fun _ => locate s frame (n + 2) t) helper
          (codeOf s e) := by
      cases op with
      | add | div | mod =>
        cases hop
        exact exec_helper frame n ht _ _
      | _ => cases hop
    refine ⟨hexec, fun σ hparts => ?_⟩
    rw [hexec]
    exact changeByHelper_again ht hparts n helper _

/-- The target of `a[i] += 1`, where `a` and `i` are parameters. -/
theorem compound_assignment_item :
    let s : Scope := ⟨⟨"P", ["F"], []⟩, true, ["a", "i"], false⟩
    let frame : Frame := ⟨"P", ["a", "i"], none⟩
    let name (x : String) : Expr := .name ⟨.name, x, .start⟩
    let t : Target := .index (name "a") (name "i")
    let one : Expr := .number ⟨.number, "1", .start⟩
    targetKind? (targetCode s t) = none ∧ (∀ c ∈ targetParts s t, Fixed frame (.empty "") c)
      ∧ exec 10 frame (assignCode .add (targetCode s t) (codeOf s one)) (.empty "")
        = changeByHelper frame 6 (locate s frame 6 t) pure "_cs_add" (codeOf s one)
          (.empty "") := by
  intro s frame name t one
  have ht : targetKind? (targetCode s t) = none := by decide
  have hcodes : targetParts s t = [.name "a", .name "i"] := by rfl
  have hparts : ∀ c ∈ targetParts s t, Fixed frame (.empty "") c := by
    rw [hcodes, List.forall_mem_cons, List.forall_mem_singleton]
    exact ⟨.inl (by decide), .inl (by decide)⟩
  have hassign := (compound_assignment s t one).2 ht frame 6
  exact ⟨ht, hparts, (hassign.2.2 .add "_cs_add" rfl).2 _ hparts⟩

end BraceScript.Lowering
