import BraceScript.Eval.Convert
import BraceScript.Eval.Template
import BraceScript.Proofs.Text.Digit
import Mathlib

/-!
# Templates as they are written

A template is written as parts: texts without opening braces, and placeholders with the digits of
an index. Taking it apart gives the parts back (`pieces_template`), since each opening brace is that
of a placeholder. The digits of a placeholder are read by the function that makes integers from
texts (`readInt_digits`) or at once (`readNumber_digits`), with the same limit on their number.
-/

namespace BraceScript.Eval

open Text (Points)

/-! ## Parts -/

/-- A part of a template. -/
inductive Part
  /-- Text without opening braces. -/
  | literal (codes : List Nat) (noBrace : '\x7b'.toNat ∉ codes)
  /-- A placeholder with the digits of an index. -/
  | place (digits : List Nat) (some : digits ≠ []) (all : ∀ d ∈ digits, isDigitCode d)

/-- The index that digits write. -/
def indexOf (digits : List Nat) : Nat := Text.digitsValue (digits.map Text.charOf)

namespace Part

/-- A part as it is written. -/
def codes : Part → List Nat
  | literal cs _ => cs
  | place ds _ _ => '\x7b'.toNat :: ds ++ ['\x7d'.toNat]

/-- What a part is taken for. -/
def pieces : Part → List Piece
  | literal cs _ => cs.map .code
  | place ds _ _ => [.argument ds]

/-- The index that a part asks for, if it is a placeholder. -/
def index? : Part → Option Nat
  | literal .. => none
  | place ds _ _ => some (indexOf ds)

/-- The digits of a placeholder are few enough to be read. -/
def Readable : Part → Prop
  | literal .. => True
  | place ds _ _ => ds.length ≤ Number.digitLimit

instance : DecidablePred Readable
  | literal .. => .isTrue trivial
  | place ds _ _ => inferInstanceAs (Decidable (ds.length ≤ Number.digitLimit))

end Part

/-- The template that parts make. -/
def template (parts : List Part) : Points := ⟨parts.flatMap Part.codes⟩

/-- The indices of the placeholders, in order. -/
def indices (parts : List Part) : List Nat := parts.filterMap Part.index?

@[simp]
theorem indices_literal (cs : List Nat) (hcs : '\x7b'.toNat ∉ cs) (parts : List Part) :
    indices (.literal cs hcs :: parts) = indices parts := rfl

@[simp]
theorem indices_place (ds : List Nat) (hne : ds ≠ []) (hds : ∀ d ∈ ds, isDigitCode d)
    (parts : List Part) :
    indices (.place ds hne hds :: parts) = indexOf ds :: indices parts := rfl

theorem placeholder?_digits {ds : List Nat} (hne : ds ≠ []) (hds : ∀ d ∈ ds, isDigitCode d)
    (rest : List Nat) : placeholder? (ds ++ '\x7d'.toNat :: rest) = some (ds, rest) := by
  have hclose : ¬isDigitCode '\x7d'.toNat := by decide
  obtain ⟨d, ds, rfl⟩ := List.exists_cons_of_ne_nil hne
  unfold placeholder?
  rw [List.takeWhile_append_of_pos hds, List.dropWhile_append_of_pos hds,
    List.takeWhile_cons_of_neg hclose, List.dropWhile_cons_of_neg hclose, List.append_nil]
  exact if_pos rfl

theorem pieces_append_literal {cs : List Nat} (hcs : '\x7b'.toNat ∉ cs) (rest : List Nat) :
    pieces (cs ++ rest) = cs.map .code ++ pieces rest := by
  induction cs with
  | nil => rfl
  | cons c cs ih =>
    obtain ⟨hc, hcs⟩ := List.ne_and_not_mem_of_not_mem_cons hcs
    rw [List.cons_append, pieces, if_neg hc.symm, ih hcs]
    rfl

theorem pieces_append_place {ds : List Nat} (hne : ds ≠ []) (hds : ∀ d ∈ ds, isDigitCode d)
    (rest : List Nat) :
    pieces ('\x7b'.toNat :: ds ++ ['\x7d'.toNat] ++ rest) = .argument ds :: pieces rest := by
  have hplace := placeholder?_digits hne hds rest
  rw [List.cons_append, List.cons_append, List.append_assoc, List.singleton_append, pieces,
    if_pos rfl]
  split
  · next ds' rest' h =>
    rw [hplace] at h
    cases h
    rfl
  · next h =>
    rw [hplace] at h
    cases h

/-- A template is taken apart into its parts. -/
theorem pieces_template (parts : List Part) :
    pieces (template parts).codes = parts.flatMap Part.pieces := by
  induction parts with
  | nil => rw [template, List.flatMap_nil, pieces, List.flatMap_nil]
  | cons part parts ih =>
    rw [template, List.flatMap_cons, List.flatMap_cons, ← ih]
    cases part with
    | literal cs hcs => exact pieces_append_literal hcs _
    | place ds hne hds => exact pieces_append_place hne hds _

/-! ## Digits -/

section
variable {cs : List Char} (hcs : ∀ c ∈ cs, Text.isDigit c)
include hcs

theorem trimNumber_digits : trimNumber cs = cs := by
  have hhead : ∀ l : List Char, (∀ c ∈ l, Text.isDigit c) → l.dropWhile isNumberBlank = l := by
    intro l hl
    cases l with
    | nil => rfl
    | cons c l =>
      refine List.dropWhile_cons_of_neg ?_
      rw [isNumberBlank, Text.isBlank_of_isDigit (hl c List.mem_cons_self)]
      simp
  unfold trimNumber
  rw [hhead cs hcs, hhead cs.reverse fun c hc => hcs c (List.mem_reverse.mp hc),
    List.reverse_reverse]

theorem takeSign_digits : Number.takeSign cs = (false, cs) := by
  unfold Number.takeSign
  split
  · exact absurd (hcs '-' List.mem_cons_self) (by decide)
  · exact absurd (hcs '+' List.mem_cons_self) (by decide)
  · rfl

/-- The values of digits, which all belong to base ten. -/
theorem digitRunIn_digits :
    Number.digitRunIn 10 cs = (cs.map fun c => (Text.digitValue? c).getD 0, []) := by
  induction cs with
  | nil => rw [Number.digitRunIn, List.map_nil]
  | cons c cs ih =>
    obtain ⟨hc, hcs⟩ := List.forall_mem_cons.mp hcs
    obtain ⟨d, hd⟩ := Option.isSome_iff_exists.mp hc
    have hdigit : (Number.digitIn? c).filter (· < 10) = some d := by
      rw [Number.digitIn?, hd]
      simp [Text.digitValue?_lt hd]
    rw [Number.digitRunIn, hdigit]
    dsimp only
    split
    · exact absurd (hcs '_' List.mem_cons_self) (by decide)
    · rw [ih hcs, List.map_cons, hd]
      rfl

end

/-- No mark stands for base ten. -/
theorem splitBase_ten (cs : List Char) : splitBase 10 cs = (10, cs) := by
  have hmark : ∀ b rest, baseMark? cs = some (b, rest) → b ≠ 10 := by
    rintro _ rest h rfl
    unfold baseMark? at h
    split at h
    · dsimp only at h
      split_ifs at h <;> cases h
    · cases h
  unfold splitBase
  split
  · next b rest h => rw [if_neg (by simp [(hmark b rest h).symm])]
  · rfl

/-- Digits are read as the integer that they write, unless there are too many. -/
theorem readInt_digits {ds : List Nat} (hne : ds ≠ []) (hds : ∀ d ∈ ds, isDigitCode d)
    (hlimit : ds.length ≤ Number.digitLimit) : readInt 10 ⟨ds⟩ = .ok (indexOf ds) := by
  have hchars : ∀ c ∈ ds.map Text.charOf, Text.isDigit c := List.forall_mem_map.mpr hds
  unfold readInt
  rw [Points.chars, trimNumber_digits hchars, takeSign_digits hchars]
  dsimp only
  rw [splitBase_ten]
  dsimp only
  rw [digitRunIn_digits hchars]
  simp only [List.head?_nil, List.length_map, not_lt.mpr hlimit, Number.Double.signed, indexOf,
    Text.digitsValue, List.foldl_map, List.isEmpty_nil]
  simp [hne]

theorem readNumber_digits {ds : List Nat} (hlimit : ds.length ≤ Number.digitLimit) :
    readNumber ds = .ok (indexOf ds) := if_neg (not_lt.mpr hlimit)

/-! ## Placeholders in order -/

theorem charOf_toNat (c : Char) : Text.charOf c.toNat = c := by
  unfold Text.charOf
  rw [dif_pos (show c.toNat.isValidChar from c.valid)]
  rfl

/-- The usual digits of a number as code points. -/
def decimal (i : Nat) : List Nat := (Nat.toDigits 10 i).map Char.toNat

theorem indexOf_decimal (i : Nat) : indexOf (decimal i) = i := by
  have hchars : Text.charOf ∘ Char.toNat = id := funext charOf_toNat
  rw [indexOf, decimal, List.map_map, hchars, List.map_id, Text.digitsValue_toDigits]

theorem isDigitCode_of_mem_decimal {i d : Nat} (hd : d ∈ decimal i) : isDigitCode d := by
  obtain ⟨c, hc, rfl⟩ := List.mem_map.mp hd
  have hdigit := Nat.isDigit_of_mem_toDigits (by decide) (by decide) hc
  rw [isDigitCode, charOf_toNat, Text.isDigit, Text.digitValue?_of_isDigit hdigit]
  rfl

/-- The placeholder of an index in its usual digits. -/
def Part.numbered (i : Nat) : Part :=
  .place (decimal i) (by simp [decimal, Nat.toDigits_ne_nil]) fun _ => isDigitCode_of_mem_decimal

/-- The template with the placeholders of the first indices, one behind the other. -/
def numberedParts (count : Nat) : List Part := (List.range count).map Part.numbered

theorem indices_numberedParts (count : Nat) : indices (numberedParts count) = List.range count := by
  rw [indices, numberedParts, List.filterMap_map]
  refine (List.filterMap_congr fun i _ => ?_).trans List.filterMap_some
  exact congrArg some (indexOf_decimal i)

/-- Places that a template can name have few enough digits. -/
theorem readable_numberedParts {count : Nat} (h : count ≤ 10 ^ Number.digitLimit) :
    ∀ part ∈ numberedParts count, part.Readable := by
  intro part hpart
  obtain ⟨i, hi, rfl⟩ := List.mem_map.mp hpart
  have hlt : i < 10 ^ Number.digitLimit := (List.mem_range.mp hi).trans_le h
  show (decimal i).length ≤ Number.digitLimit
  rw [decimal, List.length_map]
  exact Nat.toDigits_length 10 i _ (by decide) hlt

end BraceScript.Eval
