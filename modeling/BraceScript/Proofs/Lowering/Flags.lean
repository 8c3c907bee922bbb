import BraceScript.Proofs.Eval.Matching
import BraceScript.Proofs.Lowering.Hygiene

/-!
# Loops behind a flag

A loop that goes on somewhere in its body has its step at the start of each round, behind a flag that
is lowered before the first round and raised in every one. Once it is raised, such a loop does what
the loop with the step in its head does (`loopFor_within_flagged`, `flagged_within_loopFor`). Flags are
variables of their own: no other name of a function is one, not even after the name of a class was put
in front of it, so code cannot tell scopes apart that differ in flags (`Twin.indistinct`).
-/

namespace BraceScript.Eval

open Code Lowering Filter

/-! ## Loops behind a flag -/

section
variable (frame : Frame) (flag : String) (k : Nat) (c : Eval Bool) (b st : Eval Flow)

/-- A round whose step stands at its start behind a flag. -/
def flaggedRound : Eval Flow :=
  andThen (do if ← test (k + 1) frame (.name flag) then st else pure .next) do
    assignName frame flag (.bool true)
    if ← c then b else pure .brk

/-- A loop whose step stands at the start of its rounds behind a flag. -/
def flaggedRounds (n : Nat) : Eval Flow :=
  loopWhile (pure true) (flaggedRound frame flag k c b st) n

end

section
variable {frame : Frame} {flag : String} {k : Nat} {c : Eval Bool} {b st : Eval Flow}

theorem turn_eq (c : Eval Bool) (b d : Eval Flow) :
    turn (pure true) (do if ← c then b else pure .brk) d = turn c b d := by
  show ((c >>= _) >>= _) = (c >>= _)
  rw [bind_assoc]
  congr 1
  funext holds
  cases holds <;> rfl

/-- Where the flag is not raised, a round has no step. -/
theorem flaggedRounds_lowered {t : Store}
    (ht : t.locals.get? (frame.meant flag) = some (.bool false)) (n : Nat) :
    flaggedRounds frame flag k c b st (n + 1) t
      = (do
        assignName frame flag (.bool true)
        turn c b (flaggedRounds frame flag k c b st n)) t := by
  rw [← turn_eq c b]
  show (flaggedRound frame flag k c b st >>= _) t = _
  unfold flaggedRound andThen
  rw [bind_assoc, bind_assoc, stateBind_apply, test_name ht]
  rfl

/-- Where the flag is raised, a round begins with the step. -/
theorem flaggedRounds_raised (hst : Flows (· = .next) st) {t : Store}
    (ht : t.locals.get? (frame.meant flag) = some (.bool true)) (n : Nat) :
    flaggedRounds frame flag k c b st (n + 1) t
      = (do
        let _ ← st
        assignName frame flag (.bool true)
        turn c b (flaggedRounds frame flag k c b st n)) t := by
  rw [← turn_eq c b]
  show (flaggedRound frame flag k c b st >>= _) t = _
  unfold flaggedRound andThen
  rw [bind_assoc, bind_assoc, stateBind_apply, test_name ht]
  refine congrFun (hst.bind_congr fun flow hflow => ?_) t
  rw [hflow]
  rfl

theorem flaggedRounds_idle (hc : Within Nowhere c c) (hb : Within Nowhere b b)
    (hst : Within Nowhere st st) (n : Nat) :
    Within Nowhere (flaggedRounds frame flag k c b st n) (flaggedRounds frame flag k c b st n) := by
  have hnowhere : Indistinct id frame Nowhere := by
    constructor <;> intro _ _ h <;> exact h.elim
  refine .loopWhile (.pure _)
    (.andThen (((further le_rfl).test hnowhere rfl).bind fun holds => ?_) ?_)
    le_rfl
  · split
    · exact hst
    · exact .pure _
  · refine (hnowhere.assignName rfl _).bind fun _ => hc.bind fun holds => ?_
    split
    · exact hb
    · exact .pure _

variable {V : Linked} {c' : Eval Bool} {b' st' : Eval Flow}

/-- The loop with the step in its head is within the loop behind a flag, once the flag is raised. -/
theorem loopFor_within_flagged
    (hraised : ∀ x y, V x y → y.get? (frame.meant flag) = some (.bool true))
    (hput : ∀ x y, V x y → V x (y.put (frame.meant flag) (.bool true)))
    (hc : Within V c' c) (hb : Within V b' b) (hst : Within V st' st) (hnext : Flows (· = .next) st)
    {n m : Nat} (hnm : n ≤ m) :
    Within V (loopFor c' b' st' n) (turn c b (flaggedRounds frame flag k c b st m)) := by
  have honward (m : Nat) : Within Nowhere (flaggedRounds frame flag k c b st m)
      (flaggedRounds frame flag k c b st m) :=
    flaggedRounds_idle hc.idle hb.idle hst.idle m
  induction n generalizing m with
  | zero => exact .outOfFuel (hc.idle.turn hb.idle (honward m)).onward
  | succ n ih =>
    obtain ⟨m, rfl⟩ := Nat.exists_eq_add_one_of_ne_zero (Nat.ne_zero_of_lt hnm)
    refine hc.turn hb ?_
    -- The next round begins with the step, since the flag is raised now.
    have hround : Within V (do let _ ← st'; loopFor c' b' st' n) (do
        let _ ← st
        assignName frame flag (.bool true)
        turn c b (flaggedRounds frame flag k c b st m)) :=
      hst.bind fun _ => (ih (Nat.le_of_succ_le_succ hnm)).assign_right frame hput
    refine hround.of_agree (fun s t hst => ?_) (honward _).onward
    exact flaggedRounds_raised hnext (hraised _ _ hst.names) m

/-- The loop behind a flag is within the loop with the step in its head, once the flag is raised. -/
theorem flagged_within_loopFor
    (hraised : ∀ x y, V x y → x.get? (frame.meant flag) = some (.bool true))
    (hput : ∀ x y, V x y → V (x.put (frame.meant flag) (.bool true)) y)
    (hc : Within V c c') (hb : Within V b b') (hst : Within V st st') (hnext : Flows (· = .next) st)
    {n m : Nat} (hnm : n < m) :
    Within V (turn c b (flaggedRounds frame flag k c b st n)) (loopFor c' b' st' m) := by
  induction n generalizing m with
  | zero =>
    obtain ⟨m, rfl⟩ := Nat.exists_eq_add_one_of_ne_zero (Nat.ne_zero_of_lt hnm)
    refine hc.turn hb (.outOfFuel ?_)
    exact (hst.idle.bind fun _ => hc.idle.loopFor hb.idle hst.idle (le_refl m)).onward
  | succ n ih =>
    obtain ⟨m, rfl⟩ := Nat.exists_eq_add_one_of_ne_zero (Nat.ne_zero_of_lt hnm)
    refine hc.turn hb ?_
    have hround : Within V (do
        let _ ← st
        assignName frame flag (.bool true)
        turn c b (flaggedRounds frame flag k c b st n)) (do let _ ← st'; loopFor c' b' st' m) :=
      hst.bind fun _ => (ih (Nat.lt_of_succ_lt_succ hnm)).assign_left frame hput
    refine hround.agree_of fun s t hst => ?_
    exact flaggedRounds_raised hnext (hraised _ _ hst.names) n

end
/-! ## The code of a loop behind a flag -/

theorem exec_guard (n : Nat) (frame : Frame) (c : Expr) :
    exec (n + 2) frame (.ite (.unary .not c) [.brk] .none)
      = (do if ← test n frame c then pure .next else pure .brk) := by
  rw [exec_branch, branch, test_not, bind_assoc]
  congr 1
  funext holds
  cases holds <;> rfl

section
variable (frame : Frame) (flag : String)

theorem exec_assign_bool (k : Nat) :
    exec (k + 2) frame (.assign (.name flag) .true) = (do
      assignName frame flag (.bool true)
      pure .next)
    ∧ exec (k + 2) frame (.assign (.name flag) .false) = (do
      assignName frame flag (.bool false)
      pure .next) :=
  ⟨rfl, rfl⟩

/-- Assigning a flag falls through. -/
theorem andThen_assign (y : String) (v : Value) (a : Eval Flow) :
    andThen (do assignName frame y v; pure .next) a = (do assignName frame y v; a) := rfl

theorem runAll_flaggedLoop (k : Nat) (condition : Expr) (step : Stmt) (body : List Stmt) :
    runAll (exec (k + 3) frame) (flaggedLoop flag condition step body) = (do
      assignName frame flag (.bool false)
      flaggedRounds frame flag k (test k frame condition) (runAll (exec (k + 2) frame) body)
        (exec (k + 1) frame step) (k + 2)) := by
  have hround : runAll (exec (k + 2) frame) (.ite (.name flag) [step] .none
      :: .assign (.name flag) .true :: .ite (.unary .not condition) [.brk] .none :: body)
      = flaggedRound frame flag k (test k frame condition) (runAll (exec (k + 2) frame) body)
        (exec (k + 1) frame step) := by
    show andThen (exec (k + 2) frame (.ite _ _ _)) (andThen (exec (k + 2) frame (.assign _ _))
      (andThen (exec (k + 2) frame (.ite _ _ _)) (runAll (exec (k + 2) frame) body))) = _
    rw [exec_branch, runAll_singleton, (exec_assign_bool frame flag k).1, andThen_assign, exec_guard]
    unfold flaggedRound
    congr 2
    funext _
    unfold andThen
    rw [bind_assoc]
    congr 1
    funext holds
    cases holds <;> rfl
  show andThen (exec (k + 3) frame (.assign _ _)) (runAll (exec (k + 3) frame) [.while _ _]) = _
  rw [(exec_assign_bool frame flag (k + 1)).2, andThen_assign, runAll_singleton]
  congr 1
  funext _
  rw [exec_while, hround]
  rfl

end

end BraceScript.Eval

namespace BraceScript.Lowering

open Code Eval Filter

/-! ## Flags -/

/-- Whether a name is that of a flag. -/
def isFlag (x : String) : Bool := x == flagName (Nat.ofDigitChars 10 (x.toList.drop 13) 0)

theorem toList_flagName (n : Nat) :
    (flagName n).toList = "_for_started_".toList ++ Nat.toDigits 10 n := by
  unfold flagName
  rw [String.toList_append]
  exact congrArg _ Nat.toList_repr

/-- The number of a flag is in its name. -/
theorem ofDigitChars_flagName (n : Nat) :
    Nat.ofDigitChars 10 ((flagName n).toList.drop 13) 0 = n := by
  rw [toList_flagName]
  exact Nat.ofDigitChars_ten_toDigits

theorem isFlag_flagName (n : Nat) : isFlag (flagName n) := by
  rw [isFlag, ofDigitChars_flagName]
  exact beq_self_eq_true _

theorem isFlag_iff {x : String} : isFlag x ↔ ∃ n, x = flagName n := by
  refine ⟨fun h => ⟨_, eq_of_beq h⟩, ?_⟩
  rintro ⟨n, rfl⟩
  exact isFlag_flagName n

theorem flagName_injective {n m : Nat} (h : flagName n = flagName m) : n = m := by
  rw [← ofDigitChars_flagName n, h, ofDigitChars_flagName]

/-- Names of flags have no two underscores in a row. -/
theorem flagName_isChain (n : Nat) :
    List.IsChain (fun c d => ¬ (c = '_' ∧ d = '_')) (flagName n).toList := by
  have hdigits : ∀ c ∈ Nat.toDigits 10 n, c ≠ '_' := by
    rintro c hc rfl
    have hdigit := Nat.isDigit_of_mem_toDigits (by decide) (by decide) hc
    exact absurd hdigit (by decide)
  rw [toList_flagName, List.isChain_append]
  refine ⟨by decide, ?_, ?_⟩
  · refine List.Pairwise.isChain (List.pairwise_of_forall_mem_list fun c hc d hd => ?_)
    exact fun h => hdigits c hc h.1
  · intro c hc d hd h
    exact hdigits d (List.mem_of_mem_head? hd) h.2

theorem meant_flagName (frame : Frame) (n : Nat) : frame.meant (flagName n) = flagName n := by
  unfold Frame.meant privateName isPrivate
  rw [toList_flagName]
  rfl

/-- Names that are private to a class are no flags, and other names are no flags if they are none as
they are written. -/
theorem isFlag_meant (frame : Frame) {x : String} (h : isFlag x = false) :
    isFlag (frame.meant x) = false := by
  unfold Frame.meant privateName
  dsimp only
  split
  · next hprivate =>
    rw [Bool.eq_false_iff, Ne, isFlag_iff]
    rintro ⟨n, hn⟩
    have hchain := flagName_isChain n
    rw [← hn, String.toList_append, List.isChain_append] at hchain
    have hprefix := hchain.2.1
    simp only [isPrivate, Bool.and_eq_true, List.isPrefixOf_iff_prefix] at hprivate
    obtain ⟨⟨⟨rest, hrest⟩, -⟩, -⟩ := hprivate
    rw [← hrest] at hprefix
    exact (List.isChain_cons_cons.mp hprefix).1 ⟨rfl, rfl⟩
  · exact h

/-- The renaming that keeps every name but those of flags. -/
def renameFlags (x : String) : String := if isFlag x then x ++ "_" else x

theorem renameFlags_eq_self {x : String} : renameFlags x = x ↔ isFlag x = false := by
  unfold renameFlags
  split
  · next h =>
    refine ⟨fun heq => ?_, fun hnot => absurd h (by simp [hnot])⟩
    simpa using congrArg String.length heq
  · next h => exact ⟨fun _ => Bool.eq_false_of_not_eq_true h, fun _ => rfl⟩

/-! ## Variables that are no flags -/

theorem get?_erase_of_ne {α : Type} (bs : Bindings α) {x y : String} (h : y ≠ x) :
    (bs.erase x).get? y = bs.get? y := by
  induction bs with
  | nil => rfl
  | cons e bs ih =>
    obtain ⟨z, a⟩ := e
    by_cases hz : z = x
    · simp [Bindings.erase, Bindings.get?, hz, h.symm]
    · simp [Bindings.erase, Bindings.get?, hz, ih]

/-- The variables that are no flags. -/
def unflagged (bs : Variables) : Variables := bs.filter fun e => !isFlag e.1

section
variable {x : String}

@[simp]
theorem unflagged_nil : unflagged [] = [] := rfl

theorem unflagged_cons (x : String) (v : Value) (bs : Variables) :
    unflagged ((x, v) :: bs) = if isFlag x then unflagged bs else (x, v) :: unflagged bs := by
  unfold unflagged
  cases h : isFlag x <;> simp [h]

theorem get?_unflagged (hx : isFlag x = false) (bs : Variables) :
    (unflagged bs).get? x = bs.get? x := by
  induction bs with
  | nil => rfl
  | cons e bs ih =>
    obtain ⟨z, a⟩ := e
    rw [unflagged_cons]
    by_cases hz : z = x
    · simp [Bindings.get?, hz, hx]
    · cases hflag : isFlag z <;> simp [Bindings.get?, hz, ih]

theorem unflagged_put (hx : isFlag x = false) (bs : Variables) (v : Value) :
    unflagged (bs.put x v) = (unflagged bs).put x v := by
  induction bs with
  | nil => simp [Bindings.put, unflagged_cons, hx]
  | cons e bs ih =>
    obtain ⟨z, b⟩ := e
    by_cases hz : z = x
    · simp [Bindings.put, unflagged_cons, hz, hx]
    · cases hflag : isFlag z <;> simp [Bindings.put, unflagged_cons, hz, hflag, ih]

theorem unflagged_put_flag (n : Nat) (bs : Variables) (v : Value) :
    unflagged (bs.put (flagName n) v) = unflagged bs := by
  induction bs with
  | nil => simp [Bindings.put, unflagged_cons, isFlag_flagName]
  | cons e bs ih =>
    obtain ⟨z, b⟩ := e
    by_cases hz : z = flagName n
    · simp [Bindings.put, unflagged_cons, hz, isFlag_flagName]
    · simp [Bindings.put, unflagged_cons, hz, ih]

theorem unflagged_erase (hx : isFlag x = false) (bs : Variables) :
    unflagged (bs.erase x) = (unflagged bs).erase x := by
  induction bs with
  | nil => rfl
  | cons e bs ih =>
    obtain ⟨z, b⟩ := e
    by_cases hz : z = x
    · simp [Bindings.erase, unflagged_cons, hz, hx]
    · cases hflag : isFlag z <;> simp [Bindings.erase, unflagged_cons, hz, hflag, ih]

end

/-! ## Scopes with and without flags -/

/-- Variables that are the same but for flags, where some flags of the second ones are raised. -/
structure Twin (up : Set Nat) (a b : Variables) : Prop where
  others : unflagged b = unflagged a
  raised : ∀ i ∈ up, b.get? (flagName i) = some (.bool true)

section
variable {up : Set Nat} {a b : Variables}

theorem Twin.get (h : Twin up a b) {x : String} (hx : isFlag x = false) : b.get? x = a.get? x := by
  rw [← get?_unflagged hx b, h.others, get?_unflagged hx a]

theorem Twin.put (h : Twin up a b) {x : String} (hx : isFlag x = false) (v : Value) :
    Twin up (a.put x v) (b.put x v) := by
  refine ⟨?_, fun i hi => ?_⟩
  · rw [unflagged_put hx, unflagged_put hx, h.others]
  · have hne : flagName i ≠ x := fun heq => by simp [← heq, isFlag_flagName] at hx
    rw [Bindings.get?_put_of_ne _ _ hne, h.raised i hi]

theorem Twin.erase (h : Twin up a b) {x : String} (hx : isFlag x = false) :
    Twin up (a.erase x) (b.erase x) := by
  refine ⟨?_, fun i hi => ?_⟩
  · rw [unflagged_erase hx, unflagged_erase hx, h.others]
  · have hne : flagName i ≠ x := fun heq => by simp [← heq, isFlag_flagName] at hx
    rw [get?_erase_of_ne _ hne, h.raised i hi]

theorem Twin.mono {down : Set Nat} (hdown : down ⊆ up) (h : Twin up a b) : Twin down a b :=
  ⟨h.others, fun i hi => h.raised i (hdown hi)⟩

/-- A flag may be raised. -/
theorem Twin.raise (h : Twin up a b) (i : Nat) :
    Twin (insert i up) a (b.put (flagName i) (.bool true)) := by
  refine ⟨?_, fun j hj => ?_⟩
  · rw [unflagged_put_flag, h.others]
  · by_cases hij : j = i
    · rw [hij, Bindings.get?_put_self]
    · have hne : flagName j ≠ flagName i := fun heq => hij (flagName_injective heq)
      rw [Bindings.get?_put_of_ne _ _ hne, h.raised j (hj.resolve_left hij)]

/-- A flag may be lowered that was not known to be raised. -/
theorem Twin.lower (h : Twin up a b) {i : Nat} (hi : i ∉ up) :
    Twin up a (b.put (flagName i) (.bool false)) := by
  refine ⟨?_, fun j hj => ?_⟩
  · rw [unflagged_put_flag, h.others]
  · have hne : flagName j ≠ flagName i := fun heq => hi (flagName_injective heq ▸ hj)
    rw [Bindings.get?_put_of_ne _ _ hne, h.raised j hj]

/-- A frame whose first parameter is no flag. -/
def Unflagged (frame : Frame) : Prop := ∀ p x, frame.self? = some (p, x) → isFlag x = false

/-- Code without flags cannot tell such scopes apart. -/
theorem Twin.indistinct {frame : Frame} (hframe : Unflagged frame) (up : Set Nat) :
    Indistinct renameFlags frame (Twin up) where
  get h _ hy := h.get (isFlag_meant frame (renameFlags_eq_self.mp hy))
  put h _ hy v := h.put (isFlag_meant frame (renameFlags_eq_self.mp hy)) v
  erase h _ hy := h.erase (isFlag_meant frame (renameFlags_eq_self.mp hy))
  self h _ _ hy := h.get (hframe _ _ hy)

end

/-! ## Loops behind a flag -/

section
variable {frame : Frame} {i k n : Nat} {up : Set Nat} {c : Eval Bool} {a b st : Eval Flow}

/-- In its first round, a loop behind a flag lowers and raises its flag and does no step. -/
theorem flaggedRounds_start (t : Store) :
    (do
      assignName frame (flagName i) (.bool false)
      flaggedRounds frame (flagName i) k c b st (n + 1)) t
      = turn c b (flaggedRounds frame (flagName i) k c b st n)
        (t.scoped ((t.locals.put (flagName i) (.bool false)).put (flagName i) (.bool true))) := by
  show flaggedRounds frame (flagName i) k c b st (n + 1)
    (t.scoped (t.locals.put (frame.meant (flagName i)) (.bool false))) = _
  rw [meant_flagName, flaggedRounds_lowered]
  · show turn c b _ (t.scoped (Bindings.put _ (frame.meant (flagName i)) _)) = _
    rw [meant_flagName]
    rfl
  · rw [meant_flagName]
    exact Bindings.get?_put_self _ _ _

theorem paired_start (hi : i ∉ up) {s t : Store} (h : Paired (Twin up) s t) :
    Paired (Twin (insert i up)) s
      (t.scoped ((t.locals.put (flagName i) (.bool false)).put (flagName i) (.bool true))) := by
  refine ⟨?_, (h.names.lower hi).raise i⟩
  rw [h.rest]
  rfl

theorem within_flagged_start (hi : i ∉ up)
    (h : Within (Twin (insert i up)) a (turn c b (flaggedRounds frame (flagName i) k c b st n)))
    (honward : ∀ t, Ahead t (flaggedRounds frame (flagName i) k c b st (n + 1) t).2) :
    Within (Twin up) a (do
      assignName frame (flagName i) (.bool false)
      flaggedRounds frame (flagName i) k c b st (n + 1)) where
  meets s t hst := by
    rw [flaggedRounds_start]
    exact (h.meets _ _ (paired_start hi hst)).mono fun _ _ => Twin.mono (Set.subset_insert i up)
  onward t := by
    have hlower : Ahead t (assignName frame (flagName i) (.bool false) t).2 := .of_eq rfl rfl rfl
    exact hlower.trans (honward _)

theorem flagged_start_within (hi : i ∉ up)
    (h : Within (flip (Twin (insert i up)))
      (turn c b (flaggedRounds frame (flagName i) k c b st n)) a) :
    Within (flip (Twin up)) (do
      assignName frame (flagName i) (.bool false)
      flaggedRounds frame (flagName i) k c b st (n + 1)) a where
  meets s t hst := by
    rw [flaggedRounds_start]
    exact (h.meets _ _ (paired_start hi hst.flip).flip).mono fun _ _ =>
      Twin.mono (Set.subset_insert i up)
  onward := h.onward

/-- Code gets further with more fuel. -/
theorem runAll_mono (frame : Frame) (ss : List Stmt) (n : Nat) :
    Within Eq (runAll (exec n frame) ss) (runAll (exec (n + 1) frame) ss) :=
  (further (Nat.le_succ n)).block (r := id) .same (Stmt.renameAll_id ss)

/-- The loop behind a flag does what the loop with its step in the head does. -/
theorem matches_flaggedLoop {c : Nat → Eval Bool} {b st : Nat → Eval Flow} {condition : Expr}
    {step : Stmt} {body : List Stmt} (hi : i ∉ up)
    (hc : Matches (Twin (insert i up)) c fun m => test m frame condition)
    (hb : Matches (Twin (insert i up)) b fun m => runAll (exec m frame) body)
    (hst : Matches (Twin (insert i up)) st fun m => exec m frame step)
    (hnext : ∀ m, Flows (· = .next) (exec m frame step)) :
    Matches (Twin up) (fun n => loopFor (c n) (b n) (st n) n)
      fun m => runAll (exec m frame) (flaggedLoop (flagName i) condition step body) := by
  have hmono := runAll_mono frame (flaggedLoop (flagName i) condition step body)
  -- The loop, its rounds and what stands in them take a step of fuel each.
  refine .of_succ hmono (.of_succ (fun n => hmono _)
    (.of_succ (fun n => hmono _) ⟨fun n => ?_, fun n => ?_⟩))
  · filter_upwards [hc.there n, eventually_add (hb.there n) 2, eventually_add (hst.there n) 1,
      eventually_ge_atTop n] with m hc hb hst hnm
    rw [runAll_flaggedLoop]
    refine within_flagged_start hi ?_ (flaggedRounds_idle hc.idle hb.idle hst.idle _).onward
    refine loopFor_within_flagged (fun _ _ h => ?_) (fun x y h => ?_) hc hb hst (hnext _)
      (Nat.le_succ_of_le hnm)
    · rw [meant_flagName]
      exact h.raised i (Set.mem_insert i up)
    · rw [meant_flagName]
      exact (h.raise i).mono (Set.subset_insert i _)
  · filter_upwards [hc.back n, hb.back (n + 2), hst.back (n + 1), eventually_gt_atTop (n + 1)]
      with m hc hb hst hnm
    rw [runAll_flaggedLoop]
    refine flagged_start_within hi ?_
    refine flagged_within_loopFor (fun _ _ h => ?_) (fun x y h => ?_) hc hb hst (hnext _) hnm
    · rw [meant_flagName]
      exact h.raised i (Set.mem_insert i up)
    · rw [meant_flagName]
      exact (Twin.raise h i).mono (Set.subset_insert i _)

end

end BraceScript.Lowering
