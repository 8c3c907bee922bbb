import BraceScript.Lowering.Stmt
import BraceScript.Proofs.Eval.ReadyMade
import Mathlib

/-!
# Division of integers
The helper for `/` puts the quotient together from absolute values and signs, and the helper for `%`
takes its multiple away from the dividend. Both calculate the quotient without its fraction and what
is left, whether or not they do without names (`apply_divide_int`, `apply_remainder_int`). There is
one pair of such numbers (`IsDivision.unique`), so this says what division does for all integers
(`integer_division`).
-/

namespace BraceScript.Eval

/-! ## Quotients and remainders -/

/-- `q` is the quotient of two integers without its fraction, and `r` is what is left. -/
structure IsDivision (a b q r : Int) : Prop where
  sum : a = b * q + r
  small : |r| < |b|
  sign : r = 0 ∨ r.sign = a.sign

section
variable {a b q r : Int}

theorem IsDivision.nonneg (h : IsDivision a b q r) (ha : 0 ≤ a) : 0 ≤ r := by
  rcases h.sign with hr | hr
  · exact hr.ge
  · rwa [← Int.sign_nonneg_iff, hr, Int.sign_nonneg_iff]

theorem IsDivision.nonpos (h : IsDivision a b q r) (ha : a ≤ 0) : r ≤ 0 := by
  rcases h.sign with hr | hr
  · exact hr.le
  · rwa [← Int.sign_nonpos_iff, hr, Int.sign_nonpos_iff]

theorem isDivision_tdiv (a : Int) (hb : b ≠ 0) :
    IsDivision a b (a.tdiv b) (a - b * a.tdiv b) := by
  rw [← Int.tmod_def]
  refine ⟨(Int.mul_tdiv_add_tmod a b).symm, ?_, ?_⟩
  · rw [Int.abs_eq_natAbs, Int.abs_eq_natAbs, Int.natAbs_tmod, Int.ofNat_lt]
    exact Nat.mod_lt _ (Int.natAbs_pos.mpr hb)
  · rw [Int.sign_tmod]
    by_cases hdvd : b ∣ a
    · exact .inl (Int.tmod_eq_zero_of_dvd hdvd)
    · exact .inr (if_neg hdvd)

theorem IsDivision.unique {q' r' : Int} (h : IsDivision a b q r) (h' : IsDivision a b q' r') :
    q' = q ∧ r' = r := by
  have hsum : b * q' + r' = b * q + r := h'.sum.symm.trans h.sum
  -- both remainders lie on the same side of zero
  have hsmall : |r - r'| < |b| := by
    have hr := abs_lt.mp h.small
    have hr' := abs_lt.mp h'.small
    rw [abs_lt]
    rcases le_total 0 a with ha | ha
    · have := h.nonneg ha
      have := h'.nonneg ha
      omega
    · have := h.nonpos ha
      have := h'.nonpos ha
      omega
  have hdvd : |b| ∣ r - r' := by
    rw [abs_dvd]
    exact ⟨q' - q, by rw [mul_sub]; omega⟩
  have hr : r - r' = 0 := Int.eq_zero_of_abs_lt_dvd hdvd hsmall
  have hb : b ≠ 0 := abs_pos.mp ((abs_nonneg r).trans_lt h.small)
  exact ⟨mul_left_cancel₀ hb (by omega), by omega⟩

/-- The quotient without its fraction is that of the absolute values, with the sign that the signs
say. -/
theorem tdiv_eq_of_signs (a b : Int) : a.tdiv b
    = if decide (0 ≤ a) == decide (0 ≤ b) then (|a|).fdiv |b| else -(|a|).fdiv |b| := by
  rw [Int.fdiv_eq_ediv_of_nonneg _ (abs_nonneg b), ← Int.tdiv_eq_ediv_of_nonneg (abs_nonneg a)]
  rcases lt_or_ge a 0 with ha | ha <;> rcases lt_or_ge b 0 with hb | hb
  · simp [abs_of_neg, not_le.mpr, ha, hb, Int.neg_tdiv, Int.tdiv_neg]
  · simp [abs_of_neg, abs_of_nonneg, ha, hb, Int.neg_tdiv]
  · simp [abs_of_neg, abs_of_nonneg, ha, hb, Int.tdiv_neg]
  · simp [abs_of_nonneg, ha, hb]

end

/-! ## Operations on integers -/

section
variable {caller : Caller} {s : Store}

/-- An operator between integers is calculated with. -/
theorem kindOn_int (op : ArithmeticOp) (v a b : Int) :
    kindOn op (.int v) (.int a) (.int b) caller s
      = (check (op.numbers (.int a) (.int b)) >>= fun c => some <$> c.give : Eval _) s := rfl

theorem combine?_int (op : ArithmeticOp) (a b : Int) : combine? op (.int a) (.int b) caller s
    = orElse (kindOn op (.int a) (.int a) (.int b)) (kindOn op (.int b) (.int a) (.int b))
      caller s := rfl

theorem combine?_int_ok {op : ArithmeticOp} {a b c : Int}
    (h : op.numbers (.int a) (.int b) = .ok (.int c)) :
    combine? op (.int a) (.int b) caller s = (.ok (some (.int c)), s) := by
  have hkind : kindOn op (.int a) (.int a) (.int b) caller s = (.ok (some (.int c)), s) := by
    rw [kindOn_int, h]
    rfl
  rw [combine?_int, orElse, calling_bind_of_ok _ hkind]
  rfl

theorem combine?_int_raised {op : ArithmeticOp} {a b : Int} {f : Fault}
    (h : op.numbers (.int a) (.int b) = .error f) :
    Raised f.type (combine? op (.int a) (.int b) caller s) := by
  rw [combine?_int, orElse]
  refine Raised.calling_bind ?_ _
  rw [kindOn_int, h]
  exact (raised_fail f s).bind _

theorem minus_int (sign : String) (a b : Int) :
    minus sign (.int a) (.int b) caller s = (.ok (.int (a - b)), s) :=
  calling_bind_of_ok _ (combine?_int_ok rfl)

theorem product_int (sign : String) (a b : Int) :
    product sign (.int a) (.int b) caller s = (.ok (.int (a * b)), s) :=
  calling_bind_of_ok _ (combine?_int_ok rfl)

theorem floorRatio_int (a : Int) {b : Int} (hb : b ≠ 0) :
    quotientBy .floorRatio (.int a) (.int b) caller s = (.ok (.int (a.fdiv b)), s) :=
  calling_bind_of_ok _ (combine?_int_ok (by simp [ArithmeticOp.numbers, floorDivide, hb]))

theorem floorRatio_zero (a : Int) :
    Raised "ZeroDivisionError" (quotientBy .floorRatio (.int a) (.int 0) caller s) :=
  (combine?_int_raised (f := .divisionByZero) rfl).calling_bind _

theorem compareValues_ge_int (a b : Int) :
    compareValues .ge (.int a) (.int b) caller s = (.ok (.bool (decide (b ≤ a))), s) := by
  have hcompare : compareValues .ge (.int a) (.int b) caller s
      = (.ok (.bool (compare a b != .lt)), s) := rfl
  have hholds : (compare a b != .lt) = decide (b ≤ a) := by
    rw [Bool.eq_iff_iff, bne_iff_ne, decide_eq_true_iff, Ne, compare_lt_iff_lt, not_lt]
  rw [hcompare, hholds]

theorem relate_eq_bool (p q : Bool) :
    relate .eq (.bool p) (.bool q) caller s = (.ok (p == q), s) := by
  cases p <;> cases q <;> rfl

theorem negative_int (a : Int) : negative (.int a) caller s = (.ok (.int (-a)), s) := rfl

theorem apply_absolute (n : Nat) (a : Int) :
    apply (n + 1) (.native .absolute) [.int a] s = (.ok (.int |a|), s) := by
  rw [Int.abs_eq_natAbs]
  rfl

end

/-! ## The helpers -/

/-- A computation gave an integer and left the store alone, or raised what a fault becomes. -/
def Gives (s : Store) (c : Except Fault Int) (r : Except Stop Value × Store) : Prop :=
  match c with
  | .ok n => r = (.ok (.int n), s)
  | .error f => Raised f.type r

theorem gives_check (s : Store) (c : Except Fault Int) :
    Gives s c ((check c >>= fun n => pure (.int n) : Eval Value) s) := by
  cases c with
  | ok n => rfl
  | error f => exact (raised_fail f s).bind _

/-- The names that the division of integers looks up. -/
def divisionNames : List String := ["isinstance", "int", "bool", "abs", "_is_integer", "_cs_div"]

section
variable {s : Store} (hs : s.Standard divisionNames)
include hs

theorem apply_isInteger_int (n : Nat) (a : Int) :
    apply (n + 2) (.native .isInteger) [.int a] s = (.ok (.bool true), s) := by
  have hbind : Native.isInteger.signature.bind [.int a] = .ok ([.int a], []) := rfl
  have hisBool := isOf_standard hs (by decide) (by decide) (x := "bool") rfl (by decide) n
    (.int a)
  have hint : s.isSubclass (s.classOf (.int a)) (.core .int) = true :=
    (isSubclass_core .int .int).trans (by decide)
  have hbool : s.isSubclass (s.classOf (.int a)) (.core .bool) = false :=
    (isSubclass_core .int .bool).trans (by decide)
  rw [apply_native (n + 1) hbind]
  show isIntegerByNames (.int a) (apply (n + 1)) s = _
  unfold isIntegerByNames
  rw [calling_bind_of_ok _ (globalValue_standard hs (by decide) (x := "isinstance")
      (v := .native .isInstance) rfl),
    calling_bind_of_ok _ (globalValue_standard hs (by decide) (x := "int") (v := .core .int) rfl),
    calling_bind_of_ok _ (call_isInstance n (.int a) (by decide)), hint]
  show (isOf (.int a) "bool" >>= fun b => pure (Value.bool !b)) (apply (n + 1)) s = _
  rw [calling_bind_of_ok _ hisBool, hbool]
  rfl

theorem areIntegersByNames_int (n : Nat) (a b : Int) :
    areIntegersByNames (.int a) (.int b) (apply (n + 2)) s = (.ok true, s) := by
  have hinteger (c : Int) :
      useName "_is_integer" [.int c] (apply (n + 2)) s = (.ok (.bool true), s) := by
    rw [useName_standard hs (f := .native .isInteger) (by decide) rfl, apply_isInteger_int hs]
  unfold areIntegersByNames
  rw [calling_bind_of_ok _ (hinteger a)]
  show (useName "_is_integer" [.int b] >>= truth) (apply (n + 2)) s = _
  rw [calling_bind_of_ok _ (hinteger b)]
  rfl

theorem useName_abs_int (n : Nat) (a : Int) :
    useName "abs" [.int a] (apply (n + 1)) s = (.ok (.int |a|), s) := by
  rw [useName_standard hs (f := .native .absolute) (by decide) rfl, apply_absolute]

/-- The quotient that is put together from absolute values and signs. -/
theorem quotientByNames_int (n : Nat) (a b : Int) :
    Gives s (divideInt a b) (quotientByNames (.int a) (.int b) (apply (n + 1)) s) := by
  unfold quotientByNames
  rw [calling_bind_of_ok _ (useName_abs_int hs n a), calling_bind_of_ok _ (useName_abs_int hs n b)]
  by_cases hb : b = 0
  · subst hb
    exact (floorRatio_zero |a|).calling_bind _
  · rw [calling_bind_of_ok _ (floorRatio_int |a| (abs_ne_zero.mpr hb)),
      calling_bind_of_ok _ (compareValues_ge_int a 0),
      calling_bind_of_ok _ (compareValues_ge_int b 0), calling_bind_of_ok _ (relate_eq_bool _ _),
      divideInt, if_neg hb, tdiv_eq_of_signs]
    cases decide (0 ≤ a) == decide (0 ≤ b) <;> rfl

/-- Whether or not the helper does without names, it calculates the quotient. -/
theorem apply_divide_int (n : Nat) (a b : Int) :
    Gives s (divideInt a b) (apply (n + 3) (.native .divide) [.int a, .int b] s) := by
  have hbind : Native.divide.signature.bind [.int a, .int b] = .ok ([.int a, .int b], []) := rfl
  rw [apply_native (n + 2) hbind]
  show Gives s _ (scriptQuotient (.int a) (.int b) (apply (n + 2)) s)
  unfold scriptQuotient
  rw [calling_get_bind]
  cases s.isDirect [.int a, .int b] with
  | true => exact gives_check s _
  | false =>
    show Gives s _ ((areIntegersByNames (.int a) (.int b) >>= _ : Calling Value) (apply (n + 2)) s)
    rw [calling_bind_of_ok _ (areIntegersByNames_int hs n a b)]
    exact quotientByNames_int hs (n + 1) a b

/-- The remainder is calculated from the quotient. -/
theorem apply_remainder_int (n : Nat) (a b : Int) :
    Gives s (remainderInt a b) (apply (n + 4) (.native .remainder) [.int a, .int b] s) := by
  have hbind : Native.remainder.signature.bind [.int a, .int b] = .ok ([.int a, .int b], []) := rfl
  rw [apply_native (n + 3) hbind]
  show Gives s _ (scriptRemainder (.int a) (.int b) (apply (n + 3)) s)
  unfold scriptRemainder
  rw [calling_get_bind]
  cases s.isDirect [.int a, .int b] with
  | true => exact gives_check s _
  | false =>
    have hquotient : Gives s (divideInt a b)
        (useName "_cs_div" [.int a, .int b] (apply (n + 3)) s) := by
      rw [useName_standard hs (f := .native .divide) (by decide) rfl]
      exact apply_divide_int hs n a b
    show Gives s _ ((areIntegersByNames (.int a) (.int b) >>= _ : Calling Value) (apply (n + 3)) s)
    rw [calling_bind_of_ok _ (areIntegersByNames_int hs (n + 1) a b)]
    show Gives s _ ((useName "_cs_div" [.int a, .int b] >>= fun q => product "*" (.int b) q >>=
      fun p => minus "-" (.int a) p) (apply (n + 3)) s)
    rw [remainderInt]
    cases hdivide : divideInt a b with
    | ok q =>
      rw [hdivide] at hquotient
      rw [calling_bind_of_ok _ hquotient, calling_bind_of_ok _ (product_int _ _ _), minus_int]
      rfl
    | error f =>
      rw [hdivide] at hquotient
      exact Raised.calling_bind hquotient _

end

/-! ## Assignments -/

/-- A compound assignment to a variable by a helper. -/
theorem exec_assign_apply {frame : Frame} {x helper : String} {e : Code.Expr} {s t : Store}
    {f old v new : Value} {n : Nat} (hf : valueOf frame helper s = (.ok f, s))
    (hx : valueOf frame x s = (.ok old, s)) (he : eval (n + 1) frame e s = (.ok v, t))
    (hnew : apply (n + 2) f [old, v] t = (.ok new, t)) :
    exec (n + 4) frame (.assign (.name x) (.apply helper [.name x, e])) s
      = (.ok .next, (assignName frame x new t).2) := by
  have hargs : evalAll (n + 2) frame [.name x, e] s = (.ok [old, v], t) := by
    show ([.name x, e].mapM (eval (n + 1) frame)) s = _
    have hname : eval (n + 1) frame (.name x) s = (.ok old, s) := hx
    rw [List.mapM_cons, bind_of_ok _ hname, List.mapM_cons, bind_assoc, bind_of_ok _ he]
    rfl
  have hbare : isBareSuper f [old, v] = false := by
    unfold isBareSuper
    split
    · next h => cases h
    · rfl
  have hcall : eval (n + 3) frame (.apply helper [.name x, e]) s = (.ok new, t) := by
    show (eval (n + 2) frame (.name helper) >>= fun f =>
      evalAll (n + 2) frame [.name x, e] >>= fun args =>
        (if isBareSuper f args then liftM (superIn frame) else call f args : Calling Value)
          (apply (n + 2))) s = _
    have hname : eval (n + 2) frame (.name helper) s = (.ok f, s) := hf
    rw [bind_of_ok _ hname, bind_of_ok _ hargs, hbare]
    exact hnew
  show (eval (n + 3) frame (.apply helper [.name x, e]) >>= fun v =>
    store (n + 3) frame (.name x) v >>= fun _ => pure Flow.next) s = _
  rw [bind_of_ok _ hcall]
  rfl

/-- Integers of any size and sign are divided without their fraction, and what is left has the sign
of the dividend; these two numbers are the only ones like that. Division by zero fails. Compound
assignments store the same quotient and remainder, so that the dividend can be put together again. -/
theorem integer_division {s : Store} (hs : s.Standard divisionNames) (n : Nat) (a b : Int) :
    (b ≠ 0 → ∃ q r, apply (n + 4) (.native .divide) [.int a, .int b] s = (.ok (.int q), s)
      ∧ apply (n + 4) (.native .remainder) [.int a, .int b] s = (.ok (.int r), s)
      ∧ q = a.tdiv b ∧ IsDivision a b q r
      ∧ (∀ q' r', IsDivision a b q' r' → q' = q ∧ r' = r)
      ∧ ∀ frame x e s₀, valueOf frame "_cs_div" s₀ = (.ok (.native .divide), s₀) →
        valueOf frame "_cs_mod" s₀ = (.ok (.native .remainder), s₀) →
        valueOf frame x s₀ = (.ok (.int a), s₀) → eval (n + 3) frame e s₀ = (.ok (.int b), s) →
        exec (n + 6) frame (Lowering.assignCode .div (.name x) e) s₀
            = (.ok .next, (assignName frame x (.int q) s).2)
          ∧ exec (n + 6) frame (Lowering.assignCode .mod (.name x) e) s₀
            = (.ok .next, (assignName frame x (.int r) s).2)
          ∧ q * b + r = a)
    ∧ (b = 0 → Raised "ZeroDivisionError" (apply (n + 4) (.native .divide) [.int a, .int b] s)
      ∧ Raised "ZeroDivisionError" (apply (n + 4) (.native .remainder) [.int a, .int b] s)) := by
  have hquotient := apply_divide_int hs (n + 1) a b
  have hremainder := apply_remainder_int hs n a b
  refine ⟨fun hb => ?_, fun hb => ?_⟩
  · have hdivision := isDivision_tdiv a hb
    have hdivide : divideInt a b = .ok (a.tdiv b) := if_neg hb
    rw [hdivide] at hquotient
    rw [remainderInt, hdivide] at hremainder
    refine ⟨a.tdiv b, a - b * a.tdiv b, hquotient, hremainder, rfl, hdivision,
      fun q' r' h => hdivision.unique h, fun frame x e s₀ hdiv hmod hx he => ⟨?_, ?_, ?_⟩⟩
    · exact exec_assign_apply hdiv hx he hquotient
    · exact exec_assign_apply hmod hx he hremainder
    · rw [mul_comm]
      exact add_sub_cancel _ _
  · subst hb
    exact ⟨hquotient, hremainder⟩

/-- A store with two variables, one of which is negative. -/
def dividendStore : Store := { prelude "" with locals := [("x", .int (-7)), ("y", .int 2)] }

/-- The frame of these variables. -/
def dividendFrame : Frame := ⟨"P", ["x", "y"], none⟩

theorem integer_division_negative :
    dividendStore.Standard divisionNames
      ∧ ∃ q r, apply 4 (.native .divide) [.int (-7), .int 2] dividendStore
            = (.ok (.int q), dividendStore)
        ∧ apply 4 (.native .remainder) [.int (-7), .int 2] dividendStore
            = (.ok (.int r), dividendStore)
        ∧ q = -3 ∧ IsDivision (-7) 2 q r
        ∧ exec 6 dividendFrame (Lowering.assignCode .div (.name "x") (.name "y")) dividendStore
            = (.ok .next, (assignName dividendFrame "x" (.int q) dividendStore).2)
        ∧ exec 6 dividendFrame (Lowering.assignCode .mod (.name "x") (.name "y")) dividendStore
            = (.ok .next, (assignName dividendFrame "x" (.int r) dividendStore).2)
        ∧ q * 2 + r = -7 := by
  have hs : dividendStore.Standard divisionNames := standard_of_start rfl rfl _
  obtain ⟨q, r, hquotient, hremainder, hq, hdivision, -, hassign⟩ :=
    (integer_division hs 0 (-7) 2).1 (by decide)
  have hstores := hassign dividendFrame "x" (.name "y") dividendStore rfl rfl rfl rfl
  exact ⟨hs, q, r, hquotient, hremainder, hq, hdivision, hstores⟩

end BraceScript.Eval
