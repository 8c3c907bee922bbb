import BraceScript.Proofs.Lowering.Flags

/-!
# Loops with a head of three parts

`perform` does what a statement says without turning it into code first: a `for` loop runs what
comes first once, then tests, runs its body and steps, where the step comes after rounds that fall
through or go on, and after no other round. Only expressions and simple statements are run as their
code. The code of a statement does the same as the statement (`stmtCode_matches`), whether the step
stands at the end of the body or behind a flag, as long as no name of the source is that of a flag.
-/

namespace BraceScript.Lowering

open Syntax Eval Filter
open Code (ident)

/-! ## Statements -/

section
variable (s : Scope) (frame : Frame) (n : Nat)

/-- Whether the condition of a `for` head holds; without one it does. -/
def performTest : Option Expr → Eval Bool
  | none => pure true
  | some c => test n frame (codeOf s c)

/-- Does the step of a `for` head, if there is one. -/
def performStep : Option ForStep → Eval Flow
  | none => pure .next
  | some st => exec n frame (forStepCode s st)

mutual

/-- Does what a statement says. -/
def perform : Stmt → Eval Flow
  | .declare d => exec n frame (declareCode s d)
  | .assign t op e => exec n frame (assignCode op (targetCode s t) (codeOf s e))
  | .step t op => exec n frame (stepCode op (targetCode s t))
  | .ite c b r => branch (test n frame (codeOf s c)) (performAll b) (performElse r)
  | .while c b => loopWhile (test n frame (codeOf s c)) (performAll b) n
  | .for i c st b => andThen (runAll (exec n frame) (forInitCode s i))
    (loopFor (performTest s frame n c) (performAll b) (performStep s frame n st) n)
  | .foreach _ x e b => loopOver n frame (ident x.text) (codeOf s e) (performAll b)
  | .ret e => exec n frame (.ret (e.map (codeOf s)))
  | .brk => pure .brk
  | .cont => pure .cont
  | .throw e => exec n frame (.raise (e.map (codeOf s)))
  | .attempt b hs none => protect frame (performAll b) (performHandlers hs)
  | .attempt b hs (some f) =>
    finally_ (protect frame (performAll b) (performHandlers hs)) (performAll f)
  | .expr e => exec n frame (.expr (codeOf s e))
  | .block b => performAll b

/-- Does what statements say, up to one after which the next is not reached. -/
def performAll : List Stmt → Eval Flow
  | [] => pure .next
  | st :: ss => andThen (perform st) (performAll ss)

/-- Does what the rest of a conditional says. -/
def performElse : Else → Eval Flow
  | .none => pure .next
  | .block b => performAll b
  | .elseIf c b r => branch (test n frame (codeOf s c)) (performAll b) (performElse r)

/-- What handlers catch and do. -/
def performHandlers : List Handler → List Rescue
  | [] => []
  | .mk f b :: hs =>
    ((filterCode f).1, (filterCode f).2, performAll b) :: performHandlers hs

end

end

/-! ## Numbers of flags -/

theorem le_loopCode (c : Option Code.Expr) (st : Option Code.Stmt) (b : List Code.Stmt) (n : Nat) :
    n ≤ (loopCode c st b n).2 := by
  unfold loopCode
  cases st with
  | none => exact le_rfl
  | some st =>
    dsimp only
    split
    · exact Nat.le_succ n
    · exact le_rfl

mutual

theorem le_stmtCode (s : Scope) (n : Nat) : ∀ st : Stmt, n ≤ (stmtCode s n st).2
  | .declare _ | .assign .. | .step .. | .ret _ | .brk | .cont | .throw _ | .expr _ => le_rfl
  | .ite _ b r => (le_bodyCode s n b).trans (le_elseCode s _ r)
  | .while _ b | .foreach _ _ _ b | .block b => le_bodyCode s n b
  | .for _ _ _ b => (le_bodyCode s n b).trans (le_loopCode _ _ _ _)
  | .attempt b hs none => (le_bodyCode s n b).trans (le_handlersCode s _ hs)
  | .attempt b hs (some f) =>
    (le_bodyCode s n b).trans ((le_handlersCode s _ hs).trans (le_bodyCode s _ f))

theorem le_bodyCode (s : Scope) (n : Nat) : ∀ ss : List Stmt, n ≤ (bodyCode s n ss).2
  | [] => le_rfl
  | st :: ss => (le_stmtCode s n st).trans (le_bodyCode s _ ss)

theorem le_elseCode (s : Scope) (n : Nat) : ∀ r : Else, n ≤ (elseCode s n r).2
  | .none => le_rfl
  | .block b => le_bodyCode s n b
  | .elseIf _ b r => (le_bodyCode s n b).trans (le_elseCode s _ r)

theorem le_handlersCode (s : Scope) (n : Nat) : ∀ hs : List Handler, n ≤ (handlersCode s n hs).2
  | [] => le_rfl
  | .mk _ b :: hs => (le_bodyCode s n b).trans (le_handlersCode s _ hs)

end

/-! ## Names of the source -/

/-- Whether a name of the source looks like a flag. -/
def Flaglike (x : String) : Prop := "_for_started_".toList <+: x.toList

instance (x : String) : Decidable (Flaglike x) :=
  inferInstanceAs (Decidable ("_for_started_".toList <+: x.toList))

/-- The name that is used. -/
def NameUse.name : NameUse → String
  | .bare x | .declared x | .type x => x

theorem isFlag_of_not_flaglike {x : String} (h : ¬ Flaglike x) : isFlag x = false := by
  rw [Bool.eq_false_iff, Ne, isFlag_iff]
  rintro ⟨n, rfl⟩
  refine h ?_
  unfold Flaglike
  rw [toList_flagName]
  exact List.prefix_append _ _

theorem isFlag_ident {x : String} (h : ¬ Flaglike x) : isFlag (ident x) = false := by
  have hreserved : ∀ y ∈ Code.selfName :: Code.reservedWords, ¬ Flaglike (y ++ "_") := by decide
  refine isFlag_of_not_flaglike ?_
  unfold Code.ident
  split
  · next hx =>
    refine hreserved x ?_
    simpa [or_comm] using hx
  · exact h

/-- A scope of a class whose name does not look like a flag. -/
theorem isFlag_useIdent {s : Scope} (hs : ¬ Flaglike s.names.type) {u : NameUse}
    (hu : ¬ Flaglike u.name) : isFlag (u.ident s) = false := by
  cases u with
  | bare x =>
    unfold NameUse.ident
    dsimp only
    split
    · split
      · exact isFlag_ident hu
      · exact isFlag_ident hs
    · exact isFlag_of_not_flaglike (by decide)
    all_goals
      unfold Scope.globalIdent
      split
      · exact isFlag_of_not_flaglike (by decide)
      · exact isFlag_ident hu
  | declared x | type x => exact isFlag_ident hu

/-- Lowering puts no flag into code but where it says so. -/
theorem renames_flags : Renames (.uniform id) id renameFlags where
  bare _ := rfl
  other _ := rfl
  helper := by
    have hhelpers : ∀ x ∈ helperIdents, ¬ Flaglike x := by decide
    exact fun x hx => renameFlags_eq_self.mpr (isFlag_of_not_flaglike (hhelpers x hx))

/-- Names none of which looks like a flag. -/
def NoneFlaglike (us : List NameUse) : Prop := ∀ u ∈ us, ¬ Flaglike u.name

section
variable {s : Scope} (hs : ¬ Flaglike s.names.type)
include hs

theorem fits_flags {u : NameUse} (hu : ¬ Flaglike u.name) : Fits id renameFlags s s u := by
  have hkept := renameFlags_eq_self.mpr (isFlag_useIdent hs hu)
  cases u with
  | bare x => exact (rename_codeOf hkept).symm
  | declared x => exact hkept.symm
  | type x => exact hkept

theorem codeOf_kept {e : Expr} (he : NoneFlaglike (uses e)) :
    (codeOf s e).rename renameFlags = codeOf s e := by
  have hcode := codeOf_exchange renames_flags e fun u hu => fits_flags hs (he u hu)
  rw [Expr.exchange_id] at hcode
  exact hcode.symm

theorem optionCode_kept {e : Option Expr} (he : NoneFlaglike (optionUses e)) :
    (e.map (codeOf s)).map (Code.Expr.rename renameFlags) = e.map (codeOf s) := by
  cases e with
  | none => rfl
  | some e => rw [Option.map_some, Option.map_some, codeOf_kept hs he]

theorem targetCode_kept {t : Target} (ht : NoneFlaglike (targetUses t)) :
    (targetCode s t).rename renameFlags = targetCode s t := by
  cases t with
  | name t => exact codeOf_kept hs (e := .name t) ht
  | member e x => exact codeOf_kept hs (e := .member e x) ht
  | index e i => exact codeOf_kept hs (e := .index e i) ht

theorem assignCode_kept (op : AssignOp) {t : Target} {e : Expr}
    (h : NoneFlaglike (targetUses t ++ uses e)) :
    (assignCode op (targetCode s t) (codeOf s e)).rename renameFlags
      = assignCode op (targetCode s t) (codeOf s e) := by
  obtain ⟨ht, he⟩ := List.forall_mem_append.mp h
  rw [rename_assignCode renames_flags, targetCode_kept hs ht, codeOf_kept hs he]

theorem stepCode_kept (op : StepOp) {t : Target} (ht : NoneFlaglike (targetUses t)) :
    (stepCode op (targetCode s t)).rename renameFlags = stepCode op (targetCode s t) := by
  rw [rename_stepCode, targetCode_kept hs ht]

theorem declareCode_kept {d : Declaration} (hd : NoneFlaglike (declarationUses d)) :
    (declareCode s d).rename renameFlags = declareCode s d := by
  obtain ⟨hname, hvalue⟩ := List.forall_mem_cons.mp hd
  have hname : renameFlags (ident d.name.text) = ident d.name.text :=
    renameFlags_eq_self.mpr (isFlag_ident hname)
  unfold declareCode
  rw [Code.Stmt.rename, Code.Expr.rename, hname]
  congr 1
  cases hd : d.value with
  | none => exact rename_defaultValue _ _
  | some e =>
    rw [hd] at hvalue
    exact codeOf_kept hs hvalue

theorem forInitCode_kept {i : Option ForInit} (hi : NoneFlaglike (forInitUses i)) :
    Code.Stmt.renameAll renameFlags (forInitCode s i) = forInitCode s i := by
  match i with
  | none => rfl
  | some (.declare d) =>
    rw [forInitCode, Code.Stmt.renameAll, declareCode_kept hs hi]
    rfl
  | some (.assign t op e) =>
    rw [forInitCode, Code.Stmt.renameAll, assignCode_kept hs op hi]
    rfl

theorem forStepCode_kept {st : ForStep} (hst : NoneFlaglike (forStepUses (some st))) :
    (forStepCode s st).rename renameFlags = forStepCode s st := by
  cases st with
  | assign t op e => exact assignCode_kept hs op hst
  | step t op => exact stepCode_kept hs op hst
  | expr e => rw [forStepCode, Code.Stmt.rename, codeOf_kept hs hst]

theorem filterCode_kept {f : Option CatchFilter} (hf : NoneFlaglike (filterUses f)) :
    renameFlags (filterCode f).1 = (filterCode f).1
      ∧ ∀ y ∈ (filterCode f).2, renameFlags y = y := by
  have hfits (u : NameUse) (hu : u ∈ filterUses f) : Fits id renameFlags s s u :=
    fits_flags hs (hf u hu)
  have hcode := filterCode_exchange renames_flags f hfits
  have hsame : f.map (CatchFilter.exchange (.uniform id)) = f := by
    rcases f with _ | ⟨type, _ | name⟩ <;> rfl
  rw [hsame] at hcode
  refine ⟨(congrArg Prod.fst hcode).symm, fun y hy => ?_⟩
  have hname := (congrArg Prod.snd hcode).symm
  rw [Option.mem_def] at hy
  rw [Prod.map_snd, hy] at hname
  exact Option.some.inj hname

end

/-! ## Steps -/

theorem forStepCode_flows (s : Scope) (frame : Frame) (st : ForStep) (n : Nat) :
    Flows (· = .next) (exec n frame (forStepCode s st)) := by
  have hnext : Flow.next = .next := rfl
  cases n with
  | zero => exact .throw _
  | succ n =>
    rcases st with ⟨t, op, e⟩ | ⟨t, op⟩ | e
    · cases op
      all_goals first
        | exact .bind fun v => .calling fun _ => .pure hnext
        | exact .bind fun _ => .pure hnext
    · cases op <;> exact .bind fun _ => .pure hnext
    · exact .bind fun _ => .pure hnext

/-! ## Code that does what statements say -/

section
variable {s : Scope} {frame : Frame} {up : Set Nat}

theorem matches_blockCode {V : Linked} {A : Nat → Eval Flow} {ss : List Code.Stmt}
    (h : Matches V A fun m => runAll (exec m frame) ss) :
    Matches V A fun m => runAll (exec m frame) (blockCode ss) := by
  cases ss with
  | nil => exact .of_succ (runAll_mono frame _) h
  | cons => exact h

/-- Code whose parts take a step of fuel. -/
theorem matches_singleton {V : Linked} {A B : Nat → Eval Flow} {c : Code.Stmt}
    (hcode : ∀ m, exec (m + 1) frame c = B m) (h : Matches V A B) :
    Matches V A fun m => runAll (exec m frame) [c] := by
  refine .of_succ (runAll_mono frame _) ?_
  simp only [runAll_singleton, hcode]
  exact h

variable (hs : ¬ Flaglike s.names.type) (hframe : Unflagged frame)
include hframe

theorem matches_simple {c : Code.Stmt} (hc : c.rename renameFlags = c) :
    Matches (Twin up) (fun n => exec n frame c) fun m => runAll (exec m frame) [c] := by
  simp only [runAll_singleton]
  exact (Twin.indistinct hframe up).matches_exec hc

include hs

theorem matches_test {e : Expr} (he : NoneFlaglike (uses e)) :
    Matches (Twin up) (fun n => test n frame (codeOf s e)) fun m => test m frame (codeOf s e) :=
  (Twin.indistinct hframe up).matches_test (codeOf_kept hs he)

theorem matches_performTest {c : Option Expr} (hc : NoneFlaglike (optionUses c)) :
    Matches (Twin up) (performTest s frame · c)
      fun m => test m frame ((c.map (codeOf s)).getD .true) := by
  cases c with
  | some c => exact matches_test hs hframe hc
  | none =>
    refine .of_succ (fun n => (further (Nat.le_succ n)).test .same (r := id) rfl) ?_
    exact .same fun _ => .pure true

theorem matches_forInitCode {i : Option ForInit} (hi : NoneFlaglike (forInitUses i)) :
    Matches (Twin up) (fun n => runAll (exec n frame) (forInitCode s i))
      fun m => runAll (exec m frame) (forInitCode s i) where
  there n := (eventually_ge_atTop n).mono fun _ hnm =>
    (further hnm).block (Twin.indistinct hframe up) (forInitCode_kept hs hi)
  back n := (eventually_ge_atTop n).mono fun _ hnm =>
    (further hnm).block (Twin.indistinct hframe up).flip (forInitCode_kept hs hi)

/-- The code of a loop does what the loop says when the code of its body does what the body says:
each of the three forms that the code can take. -/
theorem matches_loopCode {c : Option Expr} {st : Option ForStep} {b : Nat → Eval Flow}
    {body : List Code.Stmt} {k : Nat} (hc : NoneFlaglike (optionUses c))
    (hst : NoneFlaglike (forStepUses st))
    (hb : ∀ up : Set Nat, (∀ i ∈ up, k < i) →
      Matches (Twin up) b fun m => runAll (exec m frame) body)
    (hup : ∀ i ∈ up, (loopCode (c.map (codeOf s)) (st.map (forStepCode s)) body k).2 < i) :
    Matches (Twin up)
      (fun n => loopFor (performTest s frame n c) (b n) (performStep s frame n st) n)
      fun m => runAll (exec m frame)
        (loopCode (c.map (codeOf s)) (st.map (forStepCode s)) body k).1 := by
  have hup' : ∀ i ∈ up, k < i := fun i hi => (le_loopCode _ _ _ _).trans_lt (hup i hi)
  have htest : Matches (Twin up) (performTest s frame · c)
      fun m => test m frame ((c.map (codeOf s)).getD .true) :=
    matches_performTest hs hframe hc
  cases st with
  | none =>
    -- Without a step, this is a `while` loop.
    refine matches_singleton (fun m => exec_while m frame _ body) ?_
    simp only [performStep, loopFor_next]
    exact htest.loopWhile (hb up hup')
  | some st =>
    have hstep {up : Set Nat} : Matches (Twin up) (fun n => exec n frame (forStepCode s st))
        fun m => exec m frame (forStepCode s st) :=
      (Twin.indistinct hframe up).matches_exec (forStepCode_kept hs hst)
    simp only [loopCode, Option.map_some] at hup ⊢
    split at hup
    · -- The body goes on somewhere, so the step stands behind a flag.
      next hcontinues =>
      rw [if_pos hcontinues]
      have hnew : k + 1 ∉ up := fun hmem => lt_irrefl _ (hup _ hmem)
      have hraised : ∀ i ∈ insert (k + 1) up, k < i := by
        rintro i (rfl | hi)
        · exact Nat.lt_succ_self k
        · exact hup' i hi
      exact matches_flaggedLoop hnew (matches_performTest hs hframe hc) (hb _ hraised) hstep
        (forStepCode_flows s frame st)
    · -- The body falls through or leaves the loop, so the step stands at its end.
      next hcontinues =>
      rw [if_neg hcontinues]
      have hflows (m : Nat) : Flows (· ≠ .cont) (runAll (exec m frame) body) :=
        .runAll nofun fun _ hmem =>
          exec_flows m frame (continues_of_mem (Bool.eq_false_of_not_eq_true hcontinues) hmem)
      refine matches_singleton (B := fun m => loopFor (test m frame ((c.map (codeOf s)).getD .true))
        (runAll (exec m frame) body) (exec m frame (forStepCode s st)) m) (fun m => ?_) ?_
      · rw [exec_while, runAll_append, runAll_singleton,
          loopWhile_andThen _ (hflows m) (forStepCode_flows s frame st m)]
      · exact htest.loopFor (hb up hup') hstep

end

section
variable {s : Scope} {frame : Frame}

mutual

/-- The code of a statement does what the statement says, in scopes that differ in flags. -/
theorem stmtCode_matches (hcls : ¬ Flaglike s.names.type) (hframe : Unflagged frame) {up : Set Nat}
    (k : Nat) : ∀ st : Stmt, NoneFlaglike (stmtUses st) →
    (∀ i ∈ up, (stmtCode s k st).2 < i) →
    Matches (Twin up) (perform s frame · st) fun m => runAll (exec m frame) (stmtCode s k st).1
  | .declare d, h, _ => matches_simple hframe (declareCode_kept hcls h)
  | .assign t op e, h, _ => matches_simple hframe (assignCode_kept hcls op h)
  | .step t op, h, _ => matches_simple hframe (stepCode_kept hcls op h)
  | .ite c b r, h, hup => by
    obtain ⟨h, hr⟩ := List.forall_mem_append.mp h
    obtain ⟨hc, hb⟩ := List.forall_mem_append.mp h
    have hup' : ∀ i ∈ up, (bodyCode s k b).2 < i := fun i hi =>
      (le_elseCode s _ r).trans_lt (hup i hi)
    refine matches_singleton (fun m => exec_branch m frame _ _ _) ?_
    exact (matches_test hcls hframe hc).branch
      (matches_blockCode (bodyCode_matches hcls hframe k b hb hup'))
      (elseCode_matches hcls hframe _ r hr hup)
  | .while c b, h, hup => by
    obtain ⟨hc, hb⟩ := List.forall_mem_append.mp h
    refine matches_singleton (fun m => exec_while m frame _ _) ?_
    exact (matches_test hcls hframe hc).loopWhile
      (matches_blockCode (bodyCode_matches hcls hframe k b hb hup))
  | .for i c st b, h, hup => by
    obtain ⟨h, hb⟩ := List.forall_mem_append.mp h
    obtain ⟨h, hst⟩ := List.forall_mem_append.mp h
    obtain ⟨hi, hc⟩ := List.forall_mem_append.mp h
    simp only [stmtCode, runAll_append]
    refine (matches_forInitCode hcls hframe hi).andThen ?_
    refine matches_loopCode hcls hframe hc hst (fun up hup => ?_) hup
    exact matches_blockCode (bodyCode_matches hcls hframe k b hb hup)
  | .foreach _ x e b, h, hup => by
    obtain ⟨hx, h⟩ := List.forall_mem_cons.mp h
    obtain ⟨he, hb⟩ := List.forall_mem_append.mp h
    have hx : renameFlags (ident x.text) = ident x.text :=
      renameFlags_eq_self.mpr (isFlag_ident hx)
    refine matches_singleton (fun m => exec_forIn m frame _ _ _) ?_
    exact (Twin.indistinct hframe up).matches_loopOver hx (codeOf_kept hcls he)
      (matches_blockCode (bodyCode_matches hcls hframe k b hb hup))
  | .ret e, h, _ => by
    refine matches_simple hframe ?_
    rw [Code.Stmt.rename, optionCode_kept hcls h]
  | .brk, _, _ | .cont, _, _ => matches_singleton (fun _ => rfl) (.same fun _ => .pure _)
  | .throw e, h, _ => by
    refine matches_simple hframe ?_
    rw [Code.Stmt.rename, optionCode_kept hcls h]
  | .attempt b hs none, h, hup => by
    obtain ⟨hb, hhs⟩ := List.forall_mem_append.mp h
    have hup' : ∀ i ∈ up, (bodyCode s k b).2 < i := fun i hi =>
      (le_handlersCode s _ hs).trans_lt (hup i hi)
    refine matches_singleton (fun m => exec_attempt m frame _ _ none) ?_
    exact (Twin.indistinct hframe up).matches_protect
      (matches_blockCode (bodyCode_matches hcls hframe k b hb hup'))
      (handlersCode_matches hcls hframe _ hs hhs hup)
  | .attempt b hs (some f), h, hup => by
    obtain ⟨h, hf⟩ := List.forall_mem_append.mp h
    obtain ⟨hb, hhs⟩ := List.forall_mem_append.mp h
    have hup' : ∀ i ∈ up, (handlersCode s (bodyCode s k b).2 hs).2 < i := fun i hi =>
      (le_bodyCode s _ f).trans_lt (hup i hi)
    have hup'' : ∀ i ∈ up, (bodyCode s k b).2 < i := fun i hi =>
      (le_handlersCode s _ hs).trans_lt (hup' i hi)
    refine matches_singleton (fun m => exec_attempt m frame _ _ (some _)) ?_
    have hguarded := (Twin.indistinct hframe up).matches_protect
      (matches_blockCode (bodyCode_matches hcls hframe k b hb hup''))
      (handlersCode_matches hcls hframe _ hs hhs hup')
    exact hguarded.finally_ (matches_blockCode (bodyCode_matches hcls hframe _ f hf hup))
  | .expr e, h, _ => by
    refine matches_simple hframe ?_
    rw [Code.Stmt.rename, codeOf_kept hcls h]
  | .block b, h, hup => matches_blockCode (bodyCode_matches hcls hframe k b h hup)

theorem bodyCode_matches (hcls : ¬ Flaglike s.names.type) (hframe : Unflagged frame) {up : Set Nat}
    (k : Nat) : ∀ ss : List Stmt, NoneFlaglike (bodyUses ss) →
    (∀ i ∈ up, (bodyCode s k ss).2 < i) →
    Matches (Twin up) (performAll s frame · ss) fun m => runAll (exec m frame) (bodyCode s k ss).1
  | [], _, _ => .same fun _ => .pure _
  | st :: ss, h, hup => by
    obtain ⟨hst, hss⟩ := List.forall_mem_append.mp h
    have hup' : ∀ i ∈ up, (stmtCode s k st).2 < i := fun i hi =>
      (le_bodyCode s _ ss).trans_lt (hup i hi)
    simp only [bodyCode, runAll_append]
    exact (stmtCode_matches hcls hframe k st hst hup').andThen
      (bodyCode_matches hcls hframe _ ss hss hup)

theorem elseCode_matches (hcls : ¬ Flaglike s.names.type) (hframe : Unflagged frame) {up : Set Nat}
    (k : Nat) : ∀ r : Else, NoneFlaglike (elseUses r) →
    (∀ i ∈ up, (elseCode s k r).2 < i) →
    Matches (Twin up) (performElse s frame · r) fun m => execTail m frame (elseCode s k r).1
  | .none, _, _ => .same fun _ => .pure _
  | .block b, h, hup => matches_blockCode (bodyCode_matches hcls hframe k b h hup)
  | .elseIf c b r, h, hup => by
    obtain ⟨h, hr⟩ := List.forall_mem_append.mp h
    obtain ⟨hc, hb⟩ := List.forall_mem_append.mp h
    have hup' : ∀ i ∈ up, (bodyCode s k b).2 < i := fun i hi =>
      (le_elseCode s _ r).trans_lt (hup i hi)
    have htest : Matches (Twin up) (fun n => test n frame (codeOf s c))
        fun m => test m frame (codeOf s c) :=
      matches_test hcls hframe hc
    have hcode := matches_singleton (fun m => exec_branch m frame (codeOf s c) _ _)
      (htest.branch
        (matches_blockCode (bodyCode_matches hcls hframe k b hb hup'))
        (elseCode_matches hcls hframe _ r hr hup))
    simp only [runAll_singleton] at hcode
    exact hcode

theorem handlersCode_matches (hcls : ¬ Flaglike s.names.type) (hframe : Unflagged frame)
    {up : Set Nat} (k : Nat) : ∀ hs : List Handler,
    NoneFlaglike (handlerUses hs) → (∀ i ∈ up, (handlersCode s k hs).2 < i) →
    RescuesMatch renameFlags (Twin up) (performHandlers s frame · hs)
      fun m => (handlersCode s k hs).1.map (asRescue (runAll (exec m frame)))
  | [], _, _ => .nil
  | .mk f b :: hs, h, hup => by
    obtain ⟨h, hhs⟩ := List.forall_mem_append.mp h
    obtain ⟨hf, hb⟩ := List.forall_mem_append.mp h
    have hup' : ∀ i ∈ up, (bodyCode s k b).2 < i := fun i hi =>
      (le_handlersCode s _ hs).trans_lt (hup i hi)
    obtain ⟨htype, hname⟩ := filterCode_kept hcls hf
    exact .cons htype hname (matches_blockCode (bodyCode_matches hcls hframe k b hb hup'))
      (handlersCode_matches hcls hframe _ hs hhs hup)

end

/-- Who calls a member cannot tell at all whether its body runs or the code of its body does. -/
theorem body_matches (hcls : ¬ Flaglike s.names.type) (hframe : Unflagged frame) (k : Nat)
    {b : List Stmt} (h : NoneFlaglike (bodyUses b)) (params : Variables) (V : Linked) :
    Matches V (fun n => withLocals params (Flow.value <$> performAll s frame n b))
      fun m => withLocals params (Flow.value <$> runAll (exec m frame) (bodyCode s k b).1) := by
  have hbody : Matches (Twin ∅) (performAll s frame · b)
      fun m => runAll (exec m frame) (bodyCode s k b).1 :=
    bodyCode_matches hcls hframe k b h fun _ => False.elim
  have hparams : Twin ∅ params params := ⟨rfl, fun _ => False.elim⟩
  refine ⟨fun n => ?_, fun n => ?_⟩
  · filter_upwards [hbody.there n] with m hm
    exact (hm.map Flow.value).withLocals hparams
  · filter_upwards [hbody.back n] with m hm
    exact (hm.map Flow.value).withLocals hparams

end

end BraceScript.Lowering
