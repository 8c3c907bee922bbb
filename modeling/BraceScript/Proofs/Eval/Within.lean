import BraceScript.Proofs.Eval.Running

/-!
# Runs side by side

`Within V a b` compares a computation `a` in one store with `b` in another one, where the variables of
the two scopes are related by `V` and nothing else differs. Where `a` ends, `b` ends in the same way,
and their stores are related like this again; where `a` runs out of fuel, `b` has written and read at
least as much. Each way of putting computations together keeps this, and operations keep it whatever
the relation is, since they do not look at variables.
-/

namespace BraceScript.Eval

open Code

/-- A store with other exceptions that are being handled. -/
def Store.handling (s : Store) (es : List Value) : Store := { s with handled := es }

/-! ## Runs side by side -/

/-- A relation between the variables of two scopes. -/
abbrev Linked := Variables → Variables → Prop

/-- Two stores that differ in the variables of the current scope only, which are related. -/
structure Paired (V : Linked) (s t : Store) : Prop where
  rest : t = s.scoped t.locals
  names : V s.locals t.locals

/-- How far one run gets beside another one: it ends alike, or the other one ran out of fuel before
it wrote and read more. -/
inductive Meets (V : Linked) {α : Type} : Except Stop α × Store → Except Stop α × Store → Prop
  | paired {r : Except Stop α} {s t : Store} (h : Paired V s t) : Meets V (r, s) (r, t)
  | ahead {r : Except Stop α} {s t : Store} (h : Ahead s t) : Meets V (.error .outOfFuel, s) (r, t)

/-- A computation that has no fuel to begin with. -/
def GivesUp {α : Type} (a : Eval α) : Prop := ∀ s, ∃ s', a s = (.error .outOfFuel, s') ∧ Ahead s' s

/-- The second of two computations gets as far as the first one wherever they start alike, and takes
back nothing that was written before. -/
structure Within (V : Linked) {α : Type} (a b : Eval α) : Prop where
  meets (s t : Store) (h : Paired V s t) : Meets V (a s) (b t)
  onward (t : Store) : Ahead t (b t).2

section
variable {V : Linked} {α β : Type} {s t u : Store}

theorem Paired.ahead (h : Paired V s t) : Ahead s t := by
  rw [h.rest]
  exact .of_eq rfl rfl rfl

/-- Stores that are alike with the same variables are the same. -/
theorem Paired.eq (h : Paired Eq s t) : t = s := by
  have hrest := h.rest
  rw [← h.names] at hrest
  exact hrest

theorem Paired.same (h : ∀ names, V names names) (s : Store) : Paired V s s := ⟨rfl, h _⟩

theorem Paired.flip (h : Paired V s t) : Paired (flip V) t s := by
  refine ⟨?_, h.names⟩
  rw [h.rest]
  rfl

theorem Paired.mono {W : Linked} (hVW : ∀ a b, V a b → W a b) (h : Paired V s t) : Paired W s t :=
  ⟨h.rest, hVW _ _ h.names⟩

theorem Meets.mono {W : Linked} (hVW : ∀ a b, V a b → W a b) {x y : Except Stop α × Store}
    (h : Meets V x y) : Meets W x y := by
  cases h with
  | paired h => exact .paired (h.mono hVW)
  | ahead h => exact .ahead h

theorem Within.outOfFuel {b : Eval α} (h : ∀ t, Ahead t (b t).2) :
    Within V (throw .outOfFuel) b where
  meets _ t hst := .ahead (hst.ahead.trans (h t))
  onward := h

theorem Within.throw (e : Stop) : Within V (throw e : Eval α) (throw e) where
  meets _ _ h := .paired h
  onward t := .refl t

theorem Within.pure (a : α) : Within V (pure a : Eval α) (pure a) where
  meets _ _ h := .paired h
  onward t := .refl t

/-- A step that leaves the variables of the current scope alone. -/
theorem Within.step {g : Store → α × Store}
    (hscope : ∀ s names, g (s.scoped names) = ((g s).1, (g s).2.scoped names))
    (hahead : ∀ s, Ahead s (g s).2) : Within V (modifyGet g : Eval α) (modifyGet g) where
  meets s t h := by
    have hkept : (g s).2 = (g s).2.scoped s.locals := congrArg Prod.snd (hscope s s.locals)
    have ht : g t = ((g s).1, (g s).2.scoped t.locals) := by
      rw [h.rest, hscope]
      rfl
    show Meets V (.ok (g s).1, (g s).2) (.ok (g t).1, (g t).2)
    rw [ht]
    refine .paired ⟨rfl, ?_⟩
    rw [hkept]
    exact h.names
  onward := hahead

theorem Within.bound (name : String) : Within V (bound name) (bound name) :=
  .step (fun _ _ => rfl) fun s => .refl s

theorem GivesUp.throw : GivesUp (throw .outOfFuel : Eval α) := fun s => ⟨s, rfl, .refl s⟩

theorem Within.settle {a b : Eval α} {f g : Except Stop α → Eval β} (hab : Within V a b)
    (hfg : ∀ r, Within V (f r) (g r)) (hfuel : GivesUp (f (.error .outOfFuel))) :
    Within V (settle a f) (settle b g) where
  meets s t h := by
    have hmeets := hab.meets s t h
    show Meets V (f (a s).1 (a s).2) (g (b t).1 (b t).2)
    generalize a s = x at hmeets
    generalize b t = y at hmeets
    cases hmeets with
    | paired h => exact (hfg _).meets _ _ h
    | @ahead _ u _ h =>
      obtain ⟨u', hu, hahead⟩ := hfuel u
      rw [hu]
      exact .ahead (hahead.trans (h.trans ((hfg _).onward _)))
  onward t := (hab.onward t).trans ((hfg _).onward _)

theorem bind_eq_settle (a : Eval α) (f : α → Eval β) : a >>= f = settle a fun
    | .ok v => f v
    | .error e => throw e := by
  funext s
  rw [stateBind_apply]
  unfold settle
  rcases a s with ⟨_ | _, _⟩ <;> rfl

theorem Within.bind {a b : Eval α} {f g : α → Eval β} (hab : Within V a b)
    (hfg : ∀ v, Within V (f v) (g v)) : Within V (a >>= f) (b >>= g) := by
  rw [bind_eq_settle, bind_eq_settle]
  refine hab.settle (fun r => ?_) .throw
  cases r with
  | ok v => exact hfg v
  | error e => exact .throw e

theorem Within.map {a b : Eval α} (hab : Within V a b) (f : α → β) :
    Within V (f <$> a) (f <$> b) := hab.bind fun v => .pure (f v)

theorem Within.mapM {f g : α → Eval β} {as : List α} (hfg : ∀ a ∈ as, Within V (f a) (g a)) :
    Within V (as.mapM f) (as.mapM g) := by
  induction as with
  | nil => exact .pure []
  | cons a as ih =>
    obtain ⟨ha, has⟩ := List.forall_mem_cons.mp hfg
    rw [List.mapM_cons, List.mapM_cons]
    exact ha.bind fun _ => (ih has).bind fun _ => .pure _

/-- A computation that finds the same in both stores. -/
theorem Within.looks {f g : Store → Eval β} (hsame : ∀ s t, Paired V s t → g t = g s)
    (hfg : ∀ s, Within V (f s) (g s)) : Within V (get >>= f) (get >>= g) where
  meets s t h := by
    have hmeets := (hfg s).meets s t h
    show Meets V (f s s) (g t t)
    rwa [hsame s t h]
  onward t := (hfg t).onward t

/-- What gets as far as a computation that gets further does so too. -/
theorem Within.trans {a b c : Eval α} (hab : Within Eq a b) (hbc : Within V b c) :
    Within V a c where
  meets s t h := by
    have hfirst := hab.meets s s (.same (fun _ => rfl) s)
    have hsecond := hbc.meets s t h
    generalize a s = x at hfirst
    generalize b s = y at hfirst hsecond
    generalize c t = z at hsecond
    cases hfirst with
    | paired hxy =>
      rw [hxy.eq] at hsecond
      exact hsecond
    | ahead hxy =>
      cases hsecond with
      | paired hyz => exact .ahead (hxy.trans hyz.ahead)
      | ahead hyz => exact .ahead (hxy.trans hyz)
  onward := hbc.onward

/-- What does something else in other stores only gets as far. -/
theorem Within.of_agree {a b b' : Eval α} (h : Within V a b)
    (hagree : ∀ s t, Paired V s t → b' t = b t) (honward : ∀ t, Ahead t (b' t).2) :
    Within V a b' where
  meets s t hst := by
    rw [hagree s t hst]
    exact h.meets s t hst
  onward := honward

theorem Within.agree_of {a a' b : Eval α} (h : Within V a b)
    (hagree : ∀ s t, Paired V s t → a' s = a s) : Within V a' b where
  meets s t hst := by
    rw [hagree s t hst]
    exact h.meets s t hst
  onward := h.onward

/-- A variable that only the second store has may be given a value there. -/
theorem Within.assign_right {a b : Eval α} (h : Within V a b) (frame : Frame) {y : String} {v : Value}
    (hput : ∀ a b, V a b → V a (b.put (frame.meant y) v)) :
    Within V a (do assignName frame y v; b) where
  meets s t hst := by
    refine h.meets s _ ⟨?_, hput _ _ hst.names⟩
    rw [hst.rest]
    rfl
  onward t := by
    have hassign : Ahead t (assignName frame y v t).2 := .of_eq rfl rfl rfl
    exact hassign.trans (h.onward _)

theorem Within.assign_left {a b : Eval α} (h : Within V a b) (frame : Frame) {y : String} {v : Value}
    (hput : ∀ a b, V a b → V (a.put (frame.meant y) v) b) :
    Within V (do assignName frame y v; a) b where
  meets s t hst := by
    refine h.meets _ t ⟨?_, hput _ _ hst.names⟩
    rw [hst.rest]
    rfl
  onward := h.onward

/-- No stores are related. -/
abbrev Nowhere : Linked := fun _ _ => False

/-- A computation beside itself, started from nowhere. -/
theorem Within.idle {a b : Eval α} (h : Within V a b) : Within Nowhere b b where
  meets _ _ hst := hst.names.elim
  onward := h.onward

/-! ### Scopes -/

/-- A scope of its own does not see the variables around it, and what is left of it is not seen. -/
theorem Within.withLocals {W : Linked} {a b : Eval α} (hab : Within W a b) {names : Variables}
    (hnames : W names names) : Within V (withLocals names a) (withLocals names b) where
  meets s t h := by
    have hstart : Paired W (s.scoped names) (t.scoped names) := by
      refine ⟨?_, hnames⟩
      rw [h.rest]
      rfl
    have hmeets := hab.meets _ _ hstart
    show Meets V ((a (s.scoped names)).1, (a (s.scoped names)).2.scoped s.locals)
      ((b (t.scoped names)).1, (b (t.scoped names)).2.scoped t.locals)
    generalize a (s.scoped names) = x at hmeets
    generalize b (t.scoped names) = y at hmeets
    cases hmeets with
    | paired hend =>
      rw [hend.rest]
      exact .paired ⟨rfl, h.names⟩
    | ahead hend => exact .ahead ⟨hend.output, hend.errors, hend.input⟩
  onward t := by
    have honward := hab.onward (t.scoped names)
    exact ⟨honward.output, honward.errors, honward.input⟩

theorem Within.whileHandling {a b : Eval α} (hab : Within V a b) (e : Value) :
    Within V (whileHandling e a) (whileHandling e b) where
  meets s t h := by
    have hhandled : t.handled = s.handled := by
      rw [h.rest]
      rfl
    have hmeets := hab.meets (s.handling (e :: s.handled)) (t.handling (e :: t.handled)) (by
      refine ⟨?_, h.names⟩
      rw [h.rest]
      rfl)
    show Meets V ((a (s.handling _)).1, (a (s.handling _)).2.handling s.handled)
      ((b (t.handling _)).1, (b (t.handling _)).2.handling t.handled)
    generalize a (s.handling (e :: s.handled)) = x at hmeets
    generalize b (t.handling (e :: t.handled)) = y at hmeets
    cases hmeets with
    | paired hend =>
      refine .paired ⟨?_, hend.names⟩
      rw [hend.rest, hhandled]
      rfl
    | ahead hend => exact .ahead ⟨hend.output, hend.errors, hend.input⟩
  onward t := by
    have honward := hab.onward (t.handling (e :: t.handled))
    exact ⟨honward.output, honward.errors, honward.input⟩

end

/-! ## Operations -/

/-- An operation does what the calls do that it makes. -/
theorem Made.within {x : String} {V : Linked} {α : Type} {a : Calling α} (h : Made x a)
    {c d : Caller} (hcalls : ∀ f args, Within V (c f args) (d f args)) : Within V (a c) (a d) := by
  induction h with
  | throw e => exact .throw e
  | step g hamid hahead _ => exact .step (scoped_of_step hamid) hahead
  | lookup name _ => exact .bound name
  | call f args => exact hcalls f args
  | bind _ _ iha ihf => exact iha.bind ihf
  | ending _ _ hfuel iha ihnext => exact iha.settle ihnext (congrFun hfuel c ▸ .throw)

theorem Plain.within {x : String} {V : Linked} {α : Type} {a : Eval α} (h : Plain x a) :
    Within V a a :=
  Made.within h (c := fun _ _ => MonadExcept.throw .outOfFuel)
    (d := fun _ _ => MonadExcept.throw .outOfFuel) fun _ _ => .throw _

/-! ## Blocks and loops -/

section
variable {V : Linked}

theorem Within.runAll {f g : Stmt → Eval Flow} {ss : List Stmt}
    (hfg : ∀ s ∈ ss, Within V (f s) (g s)) : Within V (runAll f ss) (runAll g ss) := by
  induction ss with
  | nil => exact .pure _
  | cons s ss ih =>
    obtain ⟨hs, hss⟩ := List.forall_mem_cons.mp hfg
    refine hs.bind fun flow => ?_
    cases flow with
    | next => exact ih hss
    | brk | cont | ret => exact .pure _

/-- Loops of which each round follows that of the other one, as far as there is fuel for rounds. -/
theorem Within.rounds {α : Type} {f g : Nat → α → Eval Flow}
    (hf : ∀ a, f 0 a = MonadExcept.throw .outOfFuel) (hg : ∀ a, g 0 a = MonadExcept.throw .outOfFuel)
    (hround : ∀ n m, (∀ a, Within V (f n a) (g m a)) → ∀ a, Within V (f (n + 1) a) (g (m + 1) a))
    {n m : Nat} (hnm : n ≤ m) (a : α) : Within V (f n a) (g m a) := by
  have hsame (m : Nat) : ∀ a, Within V (f m a) (g m a) := by
    induction m with
    | zero =>
      intro a
      rw [hf, hg]
      exact .throw _
    | succ m ih => exact hround m m ih
  induction n generalizing m a with
  | zero =>
    rw [hf]
    exact .outOfFuel (hsame m a).onward
  | succ n ih =>
    cases m with
    | zero => exact absurd hnm (Nat.not_succ_le_zero n)
    | succ m => exact hround n m (ih (Nat.le_of_succ_le_succ hnm)) a

/-- A round of a loop, and what comes after it if the loop goes on. -/
def turn (condition : Eval Bool) (body after : Eval Flow) : Eval Flow := do
  if ← condition then
    match ← body with
    | .next | .cont => after
    | .brk => pure .next
    | .ret v => pure (.ret v)
  else pure .next

theorem Within.turn {c c' : Eval Bool} {b b' d d' : Eval Flow} (hc : Within V c c')
    (hb : Within V b b') (hd : Within V d d') : Within V (turn c b d) (turn c' b' d') := by
  refine hc.bind fun holds => ?_
  cases holds with
  | false => exact .pure _
  | true =>
    refine hb.bind fun flow => ?_
    cases flow with
    | next | cont => exact hd
    | brk | ret => exact .pure _

theorem Within.loopWhile {c c' : Eval Bool} {b b' : Eval Flow} (hc : Within V c c')
    (hb : Within V b b') {n m : Nat} (hnm : n ≤ m) :
    Within V (loopWhile c b n) (loopWhile c' b' m) :=
  Within.rounds (f := fun n _ => Eval.loopWhile c b n) (g := fun m _ => Eval.loopWhile c' b' m)
    (fun _ => rfl) (fun _ => rfl) (fun _ _ ih _ => hc.turn hb (ih ())) hnm ()

theorem Within.loopItems {f f' : Cursor → Eval (Option (Value × Cursor))} {b b' : Value → Eval Flow}
    (hf : ∀ c, Within V (f c) (f' c)) (hb : ∀ v, Within V (b v) (b' v)) (c : Cursor) {n m : Nat}
    (hnm : n ≤ m) : Within V (loopItems f b c n) (loopItems f' b' c m) := by
  refine Within.rounds (f := fun n c => Eval.loopItems f b c n)
    (g := fun m c => Eval.loopItems f' b' c m) (fun _ => rfl) (fun _ => rfl) (fun n m ih c => ?_)
    hnm c
  refine (hf c).bind fun item => ?_
  cases item with
  | none => exact .pure _
  | some item =>
    refine (hb item.1).bind fun flow => ?_
    cases flow with
    | next | cont => exact ih item.2
    | brk | ret => exact .pure _

/-! ## Exceptions -/

theorem Within.guarded {a b : Eval Flow} {f g : Value → Eval Flow} (hab : Within V a b)
    (hfg : ∀ e, Within V (f e) (g e)) : Within V (guarded a f) (guarded b g) := by
  refine hab.settle (fun r => ?_) .throw
  match r with
  | .ok flow => exact .pure flow
  | .error (.raised e) => exact (hfg e).whileHandling e
  | .error .outOfFuel => exact .throw _

theorem Within.finally_ {a b f g : Eval Flow} (hab : Within V a b) (hfg : Within V f g) :
    Within V (finally_ a f) (finally_ b g) := by
  refine hab.settle (fun r => ?_) .throw
  match r with
  | .ok flow =>
    refine hfg.bind fun flow' => ?_
    cases flow' <;> exact .pure _
  | .error (.raised e) =>
    refine (hfg.whileHandling e).bind fun flow' => ?_
    cases flow' with
    | next => exact .throw _
    | brk | cont | ret => exact .pure _
  | .error .outOfFuel => exact .throw _

/-! ## Names -/

/-- Scopes that code in a frame cannot tell apart by the names that a renaming keeps. -/
structure Indistinct (r : String → String) (frame : Frame) (V : Linked) : Prop where
  get {a b : Variables} (h : V a b) {y : String} (hy : r y = y) :
    b.get? (frame.meant y) = a.get? (frame.meant y)
  put {a b : Variables} (h : V a b) {y : String} (hy : r y = y) (v : Value) :
    V (a.put (frame.meant y) v) (b.put (frame.meant y) v)
  erase {a b : Variables} (h : V a b) {y : String} (hy : r y = y) :
    V (a.erase (frame.meant y)) (b.erase (frame.meant y))
  self {a b : Variables} (h : V a b) {p : Nat} {y : String} (hy : frame.self? = some (p, y)) :
    b.get? y = a.get? y

variable {r : String → String} {frame : Frame}

/-- The same scopes. -/
theorem Indistinct.same : Indistinct r frame Eq := by
  constructor <;> rintro a _ rfl <;> intros <;> rfl

theorem Indistinct.flip (h : Indistinct r frame V) : Indistinct r frame (flip V) where
  get hab _ hy := (h.get hab hy).symm
  put hab _ hy v := h.put hab hy v
  erase hab _ hy := h.erase hab hy
  self hab _ _ hy := (h.self hab hy).symm

theorem Within.globalValue (name : String) : Within V (globalValue name) (globalValue name) := by
  rw [globalValue_eq]
  refine (Within.bound name).bind fun v? => ?_
  cases v? with
  | none => exact (unbound_plain (x := "") name).within
  | some v => exact .pure v

theorem Indistinct.valueOf (h : Indistinct r frame V) {y : String} (hy : r y = y) :
    Within V (valueOf frame y) (valueOf frame y) := by
  refine .looks (fun s t hst => ?_) fun s => ?_
  · rw [h.get hst.names hy]
  · split
    · exact .pure _
    · split
      · exact (fail_plain (x := "") _).within
      · exact .globalValue _

theorem Indistinct.assignName (h : Indistinct r frame V) {y : String} (hy : r y = y) (v : Value) :
    Within V (assignName frame y v) (assignName frame y v) where
  meets s t hst := by
    refine .paired ⟨?_, h.put hst.names hy v⟩
    rw [hst.rest]
    rfl
  onward t := .of_eq rfl rfl rfl

theorem Indistinct.forgetName (h : Indistinct r frame V) {y : String} (hy : r y = y) :
    Within V (forgetName frame y) (forgetName frame y) where
  meets s t hst := by
    refine .paired ⟨?_, h.erase hst.names hy⟩
    rw [hst.rest]
    rfl
  onward t := .of_eq rfl rfl rfl

theorem Indistinct.superIn (h : Indistinct r frame V) : Within V (superIn frame) (superIn frame) := by
  refine .looks (fun s t hst => ?_) fun s => ?_
  · have hclass (p : Nat) : t.loadedClass p = s.loadedClass p := by
      rw [hst.rest]
      rfl
    split
    · rfl
    · next p y hself =>
      simp only [hclass, h.self hst.names hself]
  · split
    · exact (fail_plain (x := "") _).within
    · split
      · exact (superOf_plain (x := "") _ _).within
      · exact (fail_plain (x := "") _).within

/-! ## Handlers -/

/-- A handler as it is run: what it catches, the name for it, and its body. -/
abbrev Rescue := String × Option String × Eval Flow

/-- Runs the first handler that takes an exception, or raises it again. -/
def rescue (frame : Frame) (exception : Value) : List Rescue → Eval Flow
  | [] => raise exception
  | (type, name, body) :: hs => do
    if ← catches (← valueOf frame type) exception then
      match name with
      | none => body
      | some y =>
        assignName frame y exception
        settle body fun r => do
          forgetName frame y
          handle.ofExcept r
    else rescue frame exception hs

/-- A handler of code as it is run. -/
def asRescue (block : List Stmt → Eval Flow) : Handler → Rescue
  | .mk type name body => (type, name, block body)

theorem handle_eq_rescue (frame : Frame) (block : List Stmt → Eval Flow) (e : Value)
    (hs : List Handler) : handle frame block e hs = rescue frame e (hs.map (asRescue block)) := by
  induction hs with
  | nil => rfl
  | cons h hs ih =>
    obtain ⟨type, name, body⟩ := h
    unfold handle
    rw [ih]
    rfl

/-- Two handlers that catch the same under a name that is kept, the second of which gets as far as
the first one. -/
structure RescueWithin (r : String → String) (V : Linked) (h k : Rescue) : Prop where
  type : k.1 = h.1
  name : k.2.1 = h.2.1
  typeKept : r h.1 = h.1
  nameKept : ∀ y ∈ h.2.1, r y = y
  body : Within V h.2.2 k.2.2

theorem Indistinct.rescue (h : Indistinct r frame V) (e : Value) {hs ks : List Rescue}
    (hhs : List.Forall₂ (RescueWithin r V) hs ks) :
    Within V (rescue frame e hs) (rescue frame e ks) := by
  induction hhs with
  | nil => exact .throw _
  | @cons one other _ _ hone _ ih =>
    obtain ⟨type, name, body⟩ := one
    obtain ⟨type', name', body'⟩ := other
    obtain ⟨rfl, rfl, htype, hname, hbody⟩ := hone
    refine (h.valueOf htype).bind fun v => ?_
    refine ((catches_plain (x := "") v e).within).bind fun caught => ?_
    cases caught with
    | false => exact ih
    | true =>
      cases name' with
      | none => exact hbody
      | some y =>
        have hy : r y = y := hname y rfl
        refine (h.assignName hy e).bind fun _ => ?_
        -- The name is forgotten even without fuel, which nothing that is written shows.
        refine hbody.settle (fun res => (h.forgetName hy).bind fun _ => ?_) fun s => ?_
        · cases res with
          | ok flow => exact .pure flow
          | error e => exact .throw e
        · exact ⟨_, rfl, .of_eq rfl rfl rfl⟩

end

end BraceScript.Eval
