import BraceScript.Text.Blank
import BraceScript.Text.Digit
import Mathlib

/-!
# Decimal digits

The decimal digits of all scripts are no blanks. The usual digits of a number are decimal digits
that write this number (`digitsValue_toDigits`).
-/

namespace BraceScript.Text

/-- A decimal digit belongs to a run of ten. -/
theorem exists_zero_of_isDigit {c : Char} (hc : isDigit c) :
    ∃ z ∈ zeroDigits, z ≤ c.toNat ∧ c.toNat < z + 10 := by
  unfold isDigit digitValue? at hc
  rw [Option.isSome_map, List.find?_isSome] at hc
  simpa using hc

theorem isBlank_of_isDigit {c : Char} (hc : isDigit c) : isBlank c = false := by
  have hapart : ∀ z ∈ zeroDigits, ∀ r ∈ blankRanges, z + 10 ≤ r.1 ∨ r.2 < z := by decide
  obtain ⟨z, hz, hle, hlt⟩ := exists_zero_of_isDigit hc
  refine Bool.eq_false_iff.mpr fun hblank => ?_
  obtain ⟨r, hr, hrange⟩ := List.any_eq_true.mp hblank
  have hinside : r.1 ≤ c.toNat ∧ c.toNat ≤ r.2 := by simpa using hrange
  have hbetween := hapart z hz r hr
  omega

/-- A value of a digit is below ten. -/
theorem digitValue?_lt {c : Char} {d : Nat} (h : digitValue? c = some d) : d < 10 := by
  obtain ⟨z, hz, rfl⟩ := Option.map_eq_some_iff.mp h
  have hrun := List.find?_some hz
  simp only [Bool.and_eq_true, decide_eq_true_eq] at hrun
  omega

/-- The first run is that of the usual digits. -/
theorem digitValue?_of_isDigit {c : Char} (hc : c.isDigit) :
    digitValue? c = some (c.toNat - '0'.toNat) := by
  have hrange : 48 ≤ c.toNat ∧ c.toNat < 48 + 10 := by
    simp only [Char.isDigit, Bool.and_eq_true, decide_eq_true_eq, ge_iff_le,
      UInt32.le_iff_toNat_le] at hc
    exact ⟨hc.1, Nat.lt_succ_of_le hc.2⟩
  unfold digitValue? zeroDigits
  rw [List.find?_cons_of_pos (by simpa using hrange)]
  rfl

theorem digitsValue_of_isDigit {cs : List Char} (hcs : ∀ c ∈ cs, c.isDigit) :
    digitsValue cs = Nat.ofDigitChars 10 cs 0 := by
  unfold digitsValue Nat.ofDigitChars
  refine List.foldl_ext _ _ 0 fun n c hc => ?_
  rw [digitValue?_of_isDigit (hcs c hc), Option.getD_some]

/-- The usual digits of a number write it. -/
theorem digitsValue_toDigits (n : Nat) : digitsValue (Nat.toDigits 10 n) = n := by
  rw [digitsValue_of_isDigit fun c hc => Nat.isDigit_of_mem_toDigits (by decide) (by decide) hc]
  exact Nat.ofDigitChars_ten_toDigits

end BraceScript.Text
