import BraceScript.Proofs.Eval.Flows

/-!
# Programs that do the same with enough fuel

Two programs need not spend fuel alike to do the same. A program is a computation for each amount of
fuel here: `Reaches V A B` says that `B` gets as far as `A` with any amount of fuel, as soon as it
has enough itself, and `Matches V A B` says this of both. So one ends if the other one does, in the
same way and with the same effects; and when neither ends, neither writes what the other one does
not. Each way of putting programs together keeps this.
-/

namespace BraceScript.Eval

open Code Filter

/-- With enough fuel, the second of two programs gets as far as the first one with any. -/
def Reaches (V : Linked) {α : Type} (A B : Nat → Eval α) : Prop :=
  ∀ n, ∀ᶠ m in atTop, Within V (A n) (B m)

/-- Each of two programs gets as far as the other one. -/
structure Matches (V : Linked) {α : Type} (A B : Nat → Eval α) : Prop where
  there : Reaches V A B
  back : Reaches (flip V) B A

section
variable {V : Linked} {α : Type} {A B : Nat → Eval α} {s t : Store}

/-- Where one of the programs ends, the other one ends in the same way. -/
theorem Reaches.ends (h : Reaches V A B) (hst : Paired V s t) {n : Nat} {r : Except Stop α}
    {s' : Store} (hr : A n s = (r, s')) (hend : r ≠ .error .outOfFuel) :
    ∀ᶠ m in atTop, ∃ t', B m t = (r, t') ∧ Paired V s' t' := by
  filter_upwards [h n] with m hm
  have hmeets := hm.meets s t hst
  rw [hr] at hmeets
  generalize B m t = y at hmeets
  cases hmeets with
  | paired h => exact ⟨_, rfl, h⟩
  | ahead => exact absurd rfl hend

/-- What one of the programs has written and read, the other one writes and reads, ends it or not. -/
theorem Reaches.writes (h : Reaches V A B) (hst : Paired V s t) (n : Nat) :
    ∀ᶠ m in atTop, Ahead (A n s).2 (B m t).2 := by
  filter_upwards [h n] with m hm
  have hmeets := hm.meets s t hst
  generalize A n s = x at hmeets
  generalize B m t = y at hmeets
  cases hmeets with
  | paired h => exact h.ahead
  | ahead h => exact h

end

/-! ## Amounts of fuel -/

theorem eventually_of_succ {P : Nat → Prop} (h : ∀ᶠ m in atTop, P (m + 1)) :
    ∀ᶠ m in atTop, P m := by
  rw [← map_add_atTop_eq_nat 1]
  exact h

/-- What holds with enough fuel holds with some more. -/
theorem eventually_add {P : Nat → Prop} (h : ∀ᶠ m in atTop, P m) (k : Nat) :
    ∀ᶠ m in atTop, P (m + k) :=
  (tendsto_add_atTop_nat k).eventually h

section
variable {V : Linked} {α β : Type}

/-- A program that gets further with more fuel may have some more to begin with. -/
theorem Matches.of_succ {A B : Nat → Eval α} (hmono : ∀ n, Within Eq (B n) (B (n + 1)))
    (h : Matches V A fun m => B (m + 1)) : Matches V A B where
  there n := eventually_of_succ (h.there n)
  back n := by
    filter_upwards [h.back n] with m hm
    exact (hmono n).trans hm

theorem Matches.same {a : Eval α} (h : ∀ V : Linked, Within V a a) :
    Matches V (fun _ => a) fun _ => a :=
  ⟨fun _ => .of_forall fun _ => h V, fun _ => .of_forall fun _ => h (flip V)⟩

/-! ## Steps in order -/

/-- Putting two parts together, by themselves and with fuel for rounds. -/
theorem Matches.combine {A A' : Nat → Eval α} {B B' : Nat → Eval β}
    {F : Nat → Eval α → Eval β → Eval Flow}
    (hF : ∀ {W : Linked} {n m : Nat} {a a' : Eval α} {b b' : Eval β}, n ≤ m → Within W a a' →
      Within W b b' → Within W (F n a b) (F m a' b'))
    (hA : Matches V A A') (hB : Matches V B B') :
    Matches V (fun n => F n (A n) (B n)) fun m => F m (A' m) (B' m) where
  there n := by
    filter_upwards [hA.there n, hB.there n, eventually_ge_atTop n] with m ha hb hnm
    exact hF hnm ha hb
  back n := by
    filter_upwards [hA.back n, hB.back n, eventually_ge_atTop n] with m ha hb hnm
    exact hF hnm ha hb

/-- Runs a second part if the first one falls through. -/
def andThen (a b : Eval Flow) : Eval Flow := do
  match ← a with
  | .next => b
  | f => pure f

theorem Within.andThen {a a' b b' : Eval Flow} (ha : Within V a a') (hb : Within V b b') :
    Within V (andThen a b) (andThen a' b') := by
  refine ha.bind fun flow => ?_
  cases flow with
  | next => exact hb
  | brk | cont | ret => exact .pure _

theorem Matches.andThen {A A' B B' : Nat → Eval Flow} (hA : Matches V A A') (hB : Matches V B B') :
    Matches V (fun n => andThen (A n) (B n)) fun m => andThen (A' m) (B' m) :=
  .combine (F := fun _ => Eval.andThen) (fun _ ha hb => ha.andThen hb) hA hB

theorem andThen_assoc (a b c : Eval Flow) : andThen (andThen a b) c = andThen a (andThen b c) := by
  unfold andThen
  rw [bind_assoc]
  congr 1
  funext flow
  cases flow <;> rfl

theorem runAll_append (run : Code.Stmt → Eval Flow) (ss ts : List Code.Stmt) :
    runAll run (ss ++ ts) = andThen (runAll run ss) (runAll run ts) := by
  induction ss with
  | nil => rfl
  | cons s ss ih =>
    show andThen (run s) (runAll run (ss ++ ts)) = andThen (andThen (run s) (runAll run ss)) _
    rw [ih, andThen_assoc]

theorem andThen_next (a : Eval Flow) : andThen a (pure .next) = a := by
  unfold andThen
  conv_rhs => rw [← bind_pure a]
  congr 1
  funext flow
  cases flow <;> rfl

theorem runAll_singleton (run : Code.Stmt → Eval Flow) (s : Code.Stmt) : runAll run [s] = run s :=
  andThen_next (run s)

/-! ## Loops -/

/-- A loop with a head of three parts. The step comes after each round that falls through or goes on
with the next one, and not after any other. -/
def loopFor (condition : Eval Bool) (body step : Eval Flow) : Nat → Eval Flow
  | 0 => throw .outOfFuel
  | n + 1 => turn condition body do
    let _ ← step
    loopFor condition body step n

theorem Within.loopFor {c c' : Eval Bool} {b b' st st' : Eval Flow} (hc : Within V c c')
    (hb : Within V b b') (hst : Within V st st') {n m : Nat} (hnm : n ≤ m) :
    Within V (loopFor c b st n) (loopFor c' b' st' m) :=
  Within.rounds (f := fun n _ => Eval.loopFor c b st n) (g := fun m _ => Eval.loopFor c' b' st' m)
    (fun _ => rfl) (fun _ => rfl) (fun _ _ ih _ => hc.turn hb (hst.bind fun _ => ih ())) hnm ()

theorem Matches.loopFor {c c' : Nat → Eval Bool} {b b' st st' : Nat → Eval Flow}
    (hc : Matches V c c') (hb : Matches V b b') (hst : Matches V st st') :
    Matches V (fun n => loopFor (c n) (b n) (st n) n) fun m => loopFor (c' m) (b' m) (st' m) m where
  there n := by
    filter_upwards [hc.there n, hb.there n, hst.there n, eventually_ge_atTop n] with m hc hb hst hnm
    exact hc.loopFor hb hst hnm
  back n := by
    filter_upwards [hc.back n, hb.back n, hst.back n, eventually_ge_atTop n] with m hc hb hst hnm
    exact hc.loopFor hb hst hnm

theorem Matches.loopWhile {c c' : Nat → Eval Bool} {b b' : Nat → Eval Flow}
    (hc : Matches V c c') (hb : Matches V b b') :
    Matches V (fun n => loopWhile (c n) (b n) n) fun m => loopWhile (c' m) (b' m) m :=
  .combine (F := fun n c b => Eval.loopWhile c b n) (fun hnm hc hb => hc.loopWhile hb hnm) hc hb

/-! ### Where the step stands -/

/-- A loop whose body has the step at its end is the loop with the step in its head, unless the body
goes on with the next round before it ends. -/
theorem loopWhile_andThen (c : Eval Bool) {b st : Eval Flow} (hb : Flows (· ≠ .cont) b)
    (hst : Flows (· = .next) st) (n : Nat) : loopWhile c (andThen b st) n = loopFor c b st n := by
  induction n with
  | zero => rfl
  | succ n ih =>
    show turn c (andThen b st) (loopWhile c (andThen b st) n) = turn c b _
    unfold turn
    congr 1
    funext holds
    cases holds with
    | false => rfl
    | true =>
      show (andThen b st >>= _) = (b >>= _)
      unfold andThen
      rw [bind_assoc]
      refine hb.bind_congr fun flow hflow => ?_
      cases flow with
      | cont => exact absurd rfl hflow
      | brk | ret => rfl
      | next =>
        refine hst.bind_congr fun flow hflow => ?_
        rw [hflow]
        exact ih

/-- Without a step, nothing comes after a round. -/
theorem loopFor_next (c : Eval Bool) (b : Eval Flow) (n : Nat) :
    loopFor c b (pure .next) n = loopWhile c b n := by
  induction n with
  | zero => rfl
  | succ n ih =>
    show turn c b (loopFor c b (pure .next) n) = turn c b _
    rw [ih]

end

/-! ## Parts that match -/

section
variable {V : Linked} {r : String → String} {frame : Frame}

theorem Indistinct.matches_test (h : Indistinct r frame V) {c : Expr} (hc : c.rename r = c) :
    Matches V (fun n => test n frame c) fun m => test m frame c where
  there n := (eventually_ge_atTop n).mono fun _ hnm => (further hnm).test h hc
  back n := (eventually_ge_atTop n).mono fun _ hnm => (further hnm).test h.flip hc

theorem Indistinct.matches_exec (h : Indistinct r frame V) {s : Stmt} (hs : s.rename r = s) :
    Matches V (fun n => exec n frame s) fun m => exec m frame s where
  there n := (eventually_ge_atTop n).mono fun _ hnm => (further hnm).statement h hs
  back n := (eventually_ge_atTop n).mono fun _ hnm => (further hnm).statement h.flip hs

theorem Within.branch {c c' : Eval Bool} {a a' b b' : Eval Flow} (hc : Within V c c')
    (ha : Within V a a') (hb : Within V b b') : Within V (branch c a b) (branch c' a' b') := by
  refine hc.bind fun holds => ?_
  split
  · exact ha
  · exact hb

theorem Matches.branch {C C' : Nat → Eval Bool} {A A' B B' : Nat → Eval Flow} (hC : Matches V C C')
    (hA : Matches V A A') (hB : Matches V B B') :
    Matches V (fun n => branch (C n) (A n) (B n)) fun m => branch (C' m) (A' m) (B' m) where
  there n := by
    filter_upwards [hC.there n, hA.there n, hB.there n] with m hc ha hb
    exact hc.branch ha hb
  back n := by
    filter_upwards [hC.back n, hA.back n, hB.back n] with m hc ha hb
    exact hc.branch ha hb

theorem Indistinct.loopOver (h : Indistinct r frame V) {y : String} (hy : r y = y) {e : Expr}
    (he : e.rename r = e) {b b' : Eval Flow} (hb : Within V b b') {n m : Nat} (hnm : n ≤ m) :
    Within V (loopOver n frame y e b) (loopOver m frame y e b') := by
  have hfurther := further hnm
  have hstart : Within V (callingBy (apply n) do Cursor.start (← eval n frame e))
      (callingBy (apply m) do Cursor.start (← eval m frame e)) :=
    (hfurther.value h he).bind fun v => hfurther.operation (start_made v)
  refine hstart.bind fun cursor => ?_
  refine .loopItems (fun c => hfurther.operation (advance_made c)) (fun v => ?_) cursor hnm
  exact (h.assignName hy v).bind fun _ => hb

theorem Indistinct.matches_loopOver (h : Indistinct r frame V) {y : String} (hy : r y = y) {e : Expr}
    (he : e.rename r = e) {B B' : Nat → Eval Flow} (hB : Matches V B B') :
    Matches V (fun n => Eval.loopOver n frame y e (B n))
      fun m => Eval.loopOver m frame y e (B' m) where
  there n := by
    filter_upwards [hB.there n, eventually_ge_atTop n] with m hb hnm
    exact h.loopOver hy he hb hnm
  back n := by
    filter_upwards [hB.back n, eventually_ge_atTop n] with m hb hnm
    exact h.flip.loopOver hy he hb hnm

/-- Handlers that get as far as others with enough fuel, one by one. -/
structure RescuesMatch (r : String → String) (V : Linked) (A B : Nat → List Rescue) : Prop where
  there n : ∀ᶠ m in atTop, List.Forall₂ (RescueWithin r V) (A n) (B m)
  back n : ∀ᶠ m in atTop, List.Forall₂ (RescueWithin r (flip V)) (B n) (A m)

theorem RescuesMatch.nil : RescuesMatch r V (fun _ => []) fun _ => [] :=
  ⟨fun _ => .of_forall fun _ => .nil, fun _ => .of_forall fun _ => .nil⟩

theorem RescuesMatch.cons {type : String} {name : Option String} (htype : r type = type)
    (hname : ∀ y ∈ name, r y = y) {A B : Nat → Eval Flow} (hAB : Matches V A B)
    {As Bs : Nat → List Rescue} (hABs : RescuesMatch r V As Bs) :
    RescuesMatch r V (fun n => (type, name, A n) :: As n) fun m => (type, name, B m) :: Bs m where
  there n := by
    filter_upwards [hAB.there n, hABs.there n] with m hab habs
    exact .cons ⟨rfl, rfl, htype, hname, hab⟩ habs
  back n := by
    filter_upwards [hAB.back n, hABs.back n] with m hab habs
    exact .cons ⟨rfl, rfl, htype, hname, hab⟩ habs

theorem Indistinct.protect (h : Indistinct r frame V) {a b : Eval Flow} (hab : Within V a b)
    {hs ks : List Rescue} (hhs : List.Forall₂ (RescueWithin r V) hs ks) :
    Within V (protect frame a hs) (protect frame b ks) := by
  unfold Eval.protect
  cases hhs with
  | nil => exact hab
  | cons hone hrest => exact .guarded hab fun e => h.rescue e (.cons hone hrest)

theorem Indistinct.matches_protect (h : Indistinct r frame V) {A B : Nat → Eval Flow}
    (hAB : Matches V A B) {As Bs : Nat → List Rescue} (hABs : RescuesMatch r V As Bs) :
    Matches V (fun n => Eval.protect frame (A n) (As n))
      fun m => Eval.protect frame (B m) (Bs m) where
  there n := by
    filter_upwards [hAB.there n, hABs.there n] with m hab habs
    exact h.protect hab habs
  back n := by
    filter_upwards [hAB.back n, hABs.back n] with m hab habs
    exact h.flip.protect hab habs

theorem Matches.finally_ {A A' B B' : Nat → Eval Flow} (hA : Matches V A A') (hB : Matches V B B') :
    Matches V (fun n => finally_ (A n) (B n)) fun m => finally_ (A' m) (B' m) :=
  .combine (F := fun _ => Eval.finally_) (fun _ ha hb => ha.finally_ hb) hA hB

end

end BraceScript.Eval
