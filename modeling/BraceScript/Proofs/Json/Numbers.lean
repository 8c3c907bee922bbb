import BraceScript.Proofs.Json.Texts
import Mathlib

/-!
# Reading numbers

A number is taken off the front of a text as far as the text goes on with it (`Continues`). Every
part of it is taken off so, which gives the reader as a whole (`readNumber_of_not_continues`,
`readNumber_spec`). The only number that is not read is an integer with too many digits
(`readNumber_eq_digits_iff`).
-/

namespace BraceScript.JsonValue

/-! ## Reading numbers -/

/-- Whether a numeral goes on with a text: by a digit, a fraction or an exponent. -/
inductive Continues : List Char → Prop
  | digit {c : Char} {r : List Char} : c.isDigit → Continues (c :: r)
  | fraction {c : Char} {r : List Char} : c.isDigit → Continues ('.' :: c :: r)
  | exponent {e c : Char} {sign r : List Char} : (e = 'e' ∨ e = 'E') →
    IsSign sign → c.isDigit → Continues (e :: sign ++ c :: r)

theorem digits_append {ds rest : List Char} (hds : ∀ c ∈ ds, c.isDigit)
    (hrest : ∀ c r, rest = c :: r → ¬ c.isDigit) : digits (ds ++ rest) = ds := by
  unfold digits
  rw [List.takeWhile_append_of_pos hds]
  cases rest with
  | nil => simp
  | cons c r => rw [List.takeWhile_cons_of_neg (hrest c r rfl), List.append_nil]

theorem isDigit_of_digits {c : Char} {cs ds : List Char} (h : digits cs = ds) (hc : c ∈ ds) :
    c.isDigit :=
  List.mem_takeWhile_imp (h ▸ hc)

/-- The digits at the front, and a text that does not go on with digits. -/
theorem digits_spec (cs : List Char) :
    ∃ rest, cs = digits cs ++ rest ∧ ∀ c r, rest = c :: r → ¬ c.isDigit := by
  refine ⟨cs.dropWhile Char.isDigit, List.takeWhile_append_dropWhile.symm, fun c r h => ?_⟩
  have hhead := List.head?_dropWhile_not Char.isDigit cs
  rw [h] at hhead
  simpa using hhead

/-! Every part of a number is taken off the front of a text as far as it goes. -/

theorem wholeDigits_append {ds rest : List Char} (h : IsWhole ds)
    (hrest : ∀ c r, rest = c :: r → ¬ c.isDigit) : wholeDigits (ds ++ rest) = ds := by
  by_cases hzero : ds.head? = some '0'
  · rw [h.alone hzero]
    rfl
  · unfold wholeDigits
    split
    · next r heq =>
      cases ds with
      | nil => exact absurd rfl h.ne_nil
      | cons d ds =>
        rw [(List.cons.inj heq).1] at hzero
        exact absurd rfl hzero
    · exact digits_append h.digits hrest

theorem wholeDigits_spec (cs : List Char) : ∃ rest, cs = wholeDigits cs ++ rest
    ∧ (wholeDigits cs ≠ [] → IsWhole (wholeDigits cs))
    ∧ (wholeDigits cs ≠ ['0'] → ∀ c r, rest = c :: r → ¬ c.isDigit) := by
  unfold wholeDigits
  split
  · next r =>
    refine ⟨r, rfl, fun _ => ⟨by simp, ?_, fun _ => rfl⟩, fun h => absurd rfl h⟩
    rw [List.forall_mem_singleton]
    decide
  · next hzero =>
    obtain ⟨rest, hcs, hrest⟩ := digits_spec cs
    refine ⟨rest, hcs, fun hne => ⟨hne, fun c => isDigit_of_digits rfl, fun hhead => ?_⟩,
      fun _ => hrest⟩
    obtain ⟨r, hr⟩ := List.head?_eq_some_iff.mp hhead
    rw [hr] at hcs
    exact absurd hcs (hzero _)

/-- The fraction at the front of a text, with its point. -/
def pointOf (cs : List Char) : List Char :=
  if (fractionDigits cs).isEmpty then [] else '.' :: fractionDigits cs

theorem pointOf_append {f rest : List Char} (h : IsFraction f)
    (hdigit : ∀ c r, rest = c :: r → ¬ c.isDigit)
    (hpoint : ∀ c r, rest = '.' :: c :: r → ¬ c.isDigit) : pointOf (f ++ rest) = f := by
  rcases h with rfl | ⟨ds, rfl, hne, hds⟩
  · have hnone : fractionDigits rest = [] := by
      unfold fractionDigits
      split
      · next r =>
        obtain ⟨rest, hcs, -⟩ := digits_spec r
        cases hdigits : digits r with
        | nil => rfl
        | cons c ds =>
          refine absurd (isDigit_of_digits hdigits List.mem_cons_self) (hpoint c (ds ++ rest) ?_)
          rw [hdigits] at hcs
          rw [hcs]
          rfl
      · rfl
    unfold pointOf
    rw [List.nil_append, hnone]
    rfl
  · have hdigits : fractionDigits ('.' :: ds ++ rest) = ds := digits_append hds hdigit
    unfold pointOf
    rw [hdigits, if_neg (by simpa using hne)]

theorem pointOf_spec (cs : List Char) : ∃ rest, cs = pointOf cs ++ rest ∧ IsFraction (pointOf cs)
    ∧ (pointOf cs = [] → ∀ c r, rest = '.' :: c :: r → ¬ c.isDigit) := by
  by_cases hpoint : ∃ r, cs = '.' :: r
  · obtain ⟨r, rfl⟩ := hpoint
    have hfraction : fractionDigits ('.' :: r) = digits r := rfl
    obtain ⟨rest, hr, hrest⟩ := digits_spec r
    by_cases hne : digits r = []
    · refine ⟨'.' :: r, ?_, ?_⟩ <;> unfold pointOf <;> rw [hfraction, hne]
      · rfl
      · refine ⟨.inl rfl, fun _ c r' heq => hrest c r' ?_⟩
        rw [hne] at hr
        exact hr.symm.trans (List.cons.inj heq).2
    · have hdef : pointOf ('.' :: r) = '.' :: digits r := by
        unfold pointOf
        rw [hfraction, if_neg (by simpa using hne)]
      rw [hdef]
      exact ⟨rest, congrArg _ hr, .inr ⟨_, rfl, hne, fun c => isDigit_of_digits rfl⟩, by simp⟩
  · have hdef : pointOf cs = [] := by
      unfold pointOf fractionDigits
      split
      · next r => exact absurd ⟨r, rfl⟩ hpoint
      · rfl
    rw [hdef]
    exact ⟨cs, rfl, .inl rfl, fun _ c r heq => absurd ⟨_, heq⟩ hpoint⟩

/-- The sign at the front of a text, if there is one. -/
def frontSign : List Char → List Char
  | '+' :: _ => ['+']
  | '-' :: _ => ['-']
  | _ => []

theorem frontSign_append {sign cs : List Char} (h : IsSign sign) {c : Char} (hc : c.isDigit) :
    frontSign (sign ++ c :: cs) = sign := by
  rcases h with rfl | rfl | rfl
  · rw [List.nil_append]
    unfold frontSign
    split
    · next heq => rw [(List.cons.inj heq).1] at hc; exact absurd hc (by decide)
    · next heq => rw [(List.cons.inj heq).1] at hc; exact absurd hc (by decide)
    · rfl
  · rfl
  · rfl

theorem frontSign_spec (cs : List Char) :
    IsSign (frontSign cs) ∧ cs = frontSign cs ++ cs.drop (frontSign cs).length := by
  unfold frontSign
  split
  · exact ⟨.inr (.inl rfl), rfl⟩
  · exact ⟨.inr (.inr rfl), rfl⟩
  · exact ⟨.inl rfl, rfl⟩

theorem exponentPart_cons {e : Char} (he : e = 'e' ∨ e = 'E') (cs : List Char) :
    exponentPart (e :: cs) =
      if (digits (cs.drop (frontSign cs).length)).isEmpty then []
      else e :: frontSign cs ++ digits (cs.drop (frontSign cs).length) := by
  have hletter : (e = 'e' || e = 'E') = true := by simpa using he
  unfold exponentPart
  exact if_pos hletter

theorem exponentPart_other {cs : List Char} (h : ∀ e r, cs = e :: r → ¬ (e = 'e' ∨ e = 'E')) :
    exponentPart cs = [] := by
  cases cs with
  | nil => rfl
  | cons c cs =>
    have hletter : ¬ (c = 'e' || c = 'E') = true := by simpa using h c cs rfl
    unfold exponentPart
    exact if_neg hletter

theorem exponentPart_append {s rest : List Char} (h : IsExponent s) (hrest : ¬ Continues rest) :
    exponentPart (s ++ rest) = s := by
  have hdigit : ∀ c r, rest = c :: r → ¬ c.isDigit := fun c r heq hc => hrest (heq ▸ .digit hc)
  rcases h with rfl | ⟨e, sign, ds, rfl, he, hsign, hne, hds⟩
  · rw [List.nil_append]
    by_cases hletter : ∃ e r, rest = e :: r ∧ (e = 'e' ∨ e = 'E')
    · obtain ⟨e, r, rfl, he⟩ := hletter
      rw [exponentPart_cons he, if_pos]
      obtain ⟨hsign, hr⟩ := frontSign_spec r
      cases hdigits : digits (r.drop (frontSign r).length) with
      | nil => rfl
      | cons c ds =>
        refine absurd ?_ hrest
        obtain ⟨rest, hcs, -⟩ := digits_spec (r.drop (frontSign r).length)
        rw [hdigits] at hcs
        rw [hr, hcs]
        exact .exponent he hsign (isDigit_of_digits hdigits List.mem_cons_self)
    · exact exponentPart_other fun e r heq he => hletter ⟨e, r, heq, he⟩
  · obtain ⟨d, ds, rfl⟩ := List.exists_cons_of_ne_nil hne
    have hfront : frontSign (sign ++ (d :: ds ++ rest)) = sign :=
      frontSign_append hsign (hds d List.mem_cons_self)
    have hshape : e :: sign ++ (d :: ds) ++ rest = e :: (sign ++ (d :: ds ++ rest)) := by simp
    rw [hshape, exponentPart_cons he, hfront, List.drop_left, digits_append hds hdigit,
      if_neg (by simp)]

theorem exponentPart_spec (cs : List Char) : ∃ rest, cs = exponentPart cs ++ rest
    ∧ IsExponent (exponentPart cs)
    ∧ (exponentPart cs = [] → ∀ e sign c r, rest = e :: sign ++ c :: r → (e = 'e' ∨ e = 'E') →
      IsSign sign → ¬ c.isDigit) := by
  by_cases hletter : ∃ e r, cs = e :: r ∧ (e = 'e' ∨ e = 'E')
  · obtain ⟨e, r, rfl, he⟩ := hletter
    obtain ⟨hsign, hr⟩ := frontSign_spec r
    obtain ⟨rest, hdigits, hrest⟩ := digits_spec (r.drop (frontSign r).length)
    rw [exponentPart_cons he]
    by_cases hne : digits (r.drop (frontSign r).length) = []
    · rw [if_pos (by simpa using hne)]
      refine ⟨_, rfl, .inl rfl, fun _ e' sign c r' heq _ hsign' hc => ?_⟩
      have hr' : r = sign ++ c :: r' := (List.cons.inj heq).2
      rw [hr', frontSign_append hsign' hc, List.drop_left] at hne
      unfold digits at hne
      rw [List.takeWhile_cons_of_pos hc] at hne
      cases hne
    · rw [if_neg (by simpa using hne)]
      refine ⟨rest, ?_, .inr ⟨e, _, _, rfl, he, hsign, hne, fun c => isDigit_of_digits rfl⟩,
        by simp⟩
      rw [List.cons_append, List.cons_append, List.append_assoc, ← hdigits, ← hr]
  · rw [exponentPart_other fun e r heq he => hletter ⟨e, r, heq, he⟩]
    exact ⟨cs, rfl, .inl rfl, fun _ e sign c r heq he _ _ => hletter ⟨e, _, heq, he⟩⟩

/-! ### Whole numbers -/

theorem IsWhole.front {ds : List Char} (h : IsWhole ds) : ∃ c r, ds = c :: r ∧ c.isDigit := by
  obtain ⟨c, r, rfl⟩ := List.exists_cons_of_ne_nil h.ne_nil
  exact ⟨c, r, rfl, h.digits c List.mem_cons_self⟩

theorem signOf_front {negative : Bool} {cs behind : List Char} (hcs : cs = signOf negative ++ behind)
    (hsign : negative = false → behind.head? ≠ some '-') :
    (if cs.head? = some '-' then ['-'] else []) = signOf negative := by
  rw [hcs]
  cases negative with
  | false => exact if_neg (hsign rfl)
  | true => rfl

/-- The reader of numbers, part by part. -/
theorem readNumber_of_parts {negative : Bool} {cs whole point exponent behind rest rest' : List Char}
    (hcs : cs = signOf negative ++ behind) (hsign : negative = false → behind.head? ≠ some '-')
    (hwhole : wholeDigits behind = whole) (hne : whole ≠ []) (hbehind : behind = whole ++ rest)
    (hpoint : pointOf rest = point) (hrest : rest = point ++ rest')
    (hexponent : exponentPart rest' = exponent) :
    readNumber cs =
      if point = [] ∧ exponent = [] then
        if Number.digitLimit < whole.length then .error (.digits whole.length, cs)
        else .ok (.int (Number.Double.signed negative (Text.digitsValue whole)),
          rest'.drop exponent.length)
      else
        .ok (.float ((Number.readDouble?
          (String.ofList (signOf negative ++ whole ++ point ++ exponent))).getD 0),
          rest'.drop exponent.length) := by
  have hhead := signOf_front hcs hsign
  have hdrop : cs.drop (signOf negative).length = behind := by rw [hcs, List.drop_left]
  have hempty : (!(signOf negative).isEmpty) = negative := by cases negative <;> rfl
  have hpoint' : (if (fractionDigits rest).isEmpty then [] else '.' :: fractionDigits rest) = point :=
    hpoint
  have hdrop' : behind.drop whole.length = rest := by rw [hbehind, List.drop_left]
  have hdrop'' : rest.drop point.length = rest' := by rw [hrest, List.drop_left]
  unfold readNumber
  simp only [hhead, hdrop, hwhole, hdrop', hpoint', hdrop'', hexponent, hempty]
  rw [if_neg (by simpa using hne)]
  simp only [Bool.and_eq_true, List.isEmpty_iff]

/-- A number is read as far as it goes. -/
theorem readNumber_of_not_continues (negative : Bool) {whole fraction exponent rest : List Char}
    (hwhole : IsWhole whole) (hfraction : IsFraction fraction) (hexponent : IsExponent exponent)
    (hrest : ¬ Continues rest) :
    readNumber (signOf negative ++ whole ++ fraction ++ exponent ++ rest) =
      if fraction = [] ∧ exponent = [] then
        if Number.digitLimit < whole.length then
          .error (.digits whole.length, signOf negative ++ whole ++ fraction ++ exponent ++ rest)
        else .ok (.int (Number.Double.signed negative (Text.digitsValue whole)), rest)
      else
        .ok (.float ((Number.readDouble?
          (String.ofList (signOf negative ++ whole ++ fraction ++ exponent))).getD 0), rest) := by
  have hdigit : ∀ c r, exponent ++ rest = c :: r → ¬ c.isDigit ∧ (c = '.' → exponent = []) := by
    intro c r heq
    rcases hexponent with rfl | ⟨e, sign, ds, rfl, he, -⟩
    · rw [List.nil_append] at heq
      exact ⟨fun hc => hrest (heq ▸ .digit hc), fun _ => rfl⟩
    · rw [← (List.cons.inj heq).1]
      rcases he with rfl | rfl <;> exact ⟨by decide, fun h => absurd h (by decide)⟩
  have hpoint : pointOf (fraction ++ (exponent ++ rest)) = fraction := by
    refine pointOf_append hfraction (fun c r heq => (hdigit c r heq).1) fun c r heq hc => ?_
    have hnone := (hdigit _ _ heq).2 rfl
    rw [hnone, List.nil_append] at heq
    exact hrest (heq ▸ .fraction hc)
  have hrest' : ∀ c r, fraction ++ (exponent ++ rest) = c :: r → ¬ c.isDigit := by
    intro c r heq
    rcases hfraction with rfl | ⟨ds, rfl, -⟩
    · exact (hdigit c r heq).1
    · rw [← (List.cons.inj heq).1]
      decide
  obtain ⟨d, ds, hd, hdigits⟩ := hwhole.front
  have hbehind : (whole ++ (fraction ++ (exponent ++ rest))).head? ≠ some '-' := by
    rw [hd]
    rintro heq
    rw [Option.some.inj heq] at hdigits
    exact absurd hdigits (by decide)
  have hcs : signOf negative ++ whole ++ fraction ++ exponent ++ rest
      = signOf negative ++ (whole ++ (fraction ++ (exponent ++ rest))) := by simp
  have hread := readNumber_of_parts hcs (fun _ => hbehind)
    (wholeDigits_append hwhole hrest') hwhole.ne_nil rfl hpoint rfl
    (exponentPart_append hexponent hrest)
  rw [hread, List.drop_left]

/-- A text does not begin as a number, or it is taken apart as far as a number goes. -/
theorem readNumber_spec (cs : List Char) : readNumber cs = .error (.value, cs)
    ∨ ∃ negative whole fraction exponent rest,
      cs = signOf negative ++ whole ++ fraction ++ exponent ++ rest
        ∧ IsWhole whole ∧ IsFraction fraction ∧ IsExponent exponent
        ∧ (fraction = [] → exponent = [] → whole ≠ ['0'] → ¬ Continues rest)
        ∧ readNumber cs =
          if fraction = [] ∧ exponent = [] then
            if Number.digitLimit < whole.length then .error (.digits whole.length, cs)
            else .ok (.int (Number.Double.signed negative (Text.digitsValue whole)), rest)
          else
            .ok (.float ((Number.readDouble?
              (String.ofList (signOf negative ++ whole ++ fraction ++ exponent))).getD 0), rest) := by
  obtain ⟨negative, behind, hcs, hsign⟩ : ∃ negative behind, cs = signOf negative ++ behind
      ∧ (negative = false → behind.head? ≠ some '-') := by
    by_cases hdash : cs.head? = some '-'
    · obtain ⟨r, rfl⟩ := List.head?_eq_some_iff.mp hdash
      exact ⟨true, r, rfl, fun h => by cases h⟩
    · exact ⟨false, cs, rfl, fun _ => hdash⟩
  obtain ⟨rest, hbehind, hwhole, hdigit⟩ := wholeDigits_spec behind
  obtain ⟨rest', hrest, hfraction, hpoint⟩ := pointOf_spec rest
  obtain ⟨rest'', hrest', hexponent, hmore⟩ := exponentPart_spec rest'
  by_cases hne : wholeDigits behind = []
  · refine .inl ?_
    unfold readNumber
    simp only [signOf_front hcs hsign]
    rw [if_pos]
    rw [hcs, List.drop_left, hne]
    rfl
  · refine .inr ⟨negative, _, _, _, rest'', ?_, hwhole hne, hfraction, hexponent, ?_, ?_⟩
    · rw [List.append_assoc, List.append_assoc, List.append_assoc, ← hrest', ← hrest, ← hbehind,
        hcs]
    · intro hf he hzero hcontinues
      rw [he, List.nil_append] at hrest'
      rw [hrest', hf, List.nil_append] at hrest
      subst hrest hrest'
      cases hcontinues with
      | digit hc => exact hdigit hzero _ _ rfl hc
      | fraction hc => exact hpoint hf _ _ rfl hc
      | exponent hletter hsign hc => exact hmore he _ _ _ _ rfl hletter hsign hc
    · have hread := readNumber_of_parts hcs hsign rfl hne hbehind rfl hrest rfl
      have hdrop : rest'.drop (exponentPart rest').length = rest'' := by
        nth_rewrite 2 [hrest']
        exact List.drop_left
      rw [hdrop] at hread
      exact hread

/-- What is read as a number is one. -/
theorem written_of_readNumber {cs rest : List Char} {j : JsonValue}
    (h : readNumber cs = .ok (j, rest)) : ∃ s, cs = s ++ rest ∧ Written (.value j) s := by
  rcases readNumber_spec cs with hnone | ⟨negative, whole, fraction, exponent, rest', hcs, hwhole,
    hfraction, hexponent, -, hread⟩
  · rw [hnone] at h
    cases h
  · rw [hread] at h
    split at h
    · next hparts =>
      obtain ⟨rfl, rfl⟩ := hparts
      split at h
      · cases h
      · next hlimit =>
        obtain ⟨rfl, rfl⟩ := Prod.mk.inj (Except.ok.inj h)
        rw [List.append_nil, List.append_nil] at hcs
        exact ⟨_, hcs, .int hwhole (Nat.not_lt.mp hlimit)⟩
    · next hparts =>
      obtain ⟨rfl, rfl⟩ := Prod.mk.inj (Except.ok.inj h)
      refine ⟨_, hcs, .float hwhole hfraction hexponent ?_ rfl⟩
      rwa [Ne, List.append_eq_nil_iff]

/-- An integer with more digits than can be read, as far as the text goes on with it. -/
def Overlong (digits : Nat) (cs : List Char) : Prop :=
  ∃ negative whole rest, cs = signOf negative ++ whole ++ rest ∧ IsWhole whole
    ∧ whole.length = digits ∧ Number.digitLimit < digits ∧ ¬ Continues rest

/-- The only fault that is about a number with its digits. -/
theorem readNumber_eq_digits_iff {cs behind : List Char} {n : Nat} :
    readNumber cs = .error (.digits n, behind) ↔ behind = cs ∧ Overlong n cs := by
  constructor
  · intro h
    rcases readNumber_spec cs with hnone | ⟨negative, whole, fraction, exponent, rest, hcs, hwhole,
      -, -, hrest, hread⟩
    · rw [hnone] at h
      cases h
    · rw [hread] at h
      split at h
      · next hparts =>
        split at h
        · next hlimit =>
          obtain ⟨rfl, rfl⟩ := hparts
          obtain ⟨hdigits, hbehind⟩ := Prod.mk.inj (Except.error.inj h)
          have hlength := Fault.digits.inj hdigits
          rw [List.append_nil, List.append_nil] at hcs
          refine ⟨hbehind.symm, negative, whole, rest, hcs, hwhole, hlength, hlength ▸ hlimit, ?_⟩
          refine hrest rfl rfl ?_
          rintro rfl
          exact absurd hlimit (by decide)
        · cases h
      · cases h
  · rintro ⟨rfl, negative, whole, rest, rfl, hwhole, rfl, hlimit, hrest⟩
    have hread := readNumber_of_not_continues negative hwhole (.inl rfl) (.inl rfl) hrest
    simp only [List.append_nil] at hread
    rw [hread, if_pos ⟨trivial, trivial⟩, if_pos hlimit]

end BraceScript.JsonValue
