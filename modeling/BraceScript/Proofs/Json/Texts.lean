import BraceScript.Proofs.Json.Grammar
import Mathlib

/-!
# Reading texts

What stands between quotes is read if it is a text in the notation (`isText_of_readText`,
`readText_of_isText`). The only thing that is not read part by part are the codes, since two of them
can make up one code point.
-/

namespace BraceScript.JsonValue

/-! ## Readers one behind the other -/

section

variable {α β : Type} {a : Reading α} {f : α → Reading β}

theorem bind_eq_ok {y : β} : a >>= f = .ok y ↔ ∃ x, a = .ok x ∧ f x = .ok y := by
  cases a with
  | error e => exact ⟨fun h => (by cases h), fun ⟨x, h, _⟩ => (by cases h)⟩
  | ok x => exact ⟨fun h => ⟨x, rfl, h⟩, fun ⟨x', h, hf⟩ => (by cases h; exact hf)⟩

theorem bind_eq_error {e : Fault × List Char} :
    a >>= f = .error e ↔ a = .error e ∨ ∃ x, a = .ok x ∧ f x = .error e := by
  cases a with
  | error e' =>
    refine ⟨fun h => .inl (by cases h; rfl), ?_⟩
    rintro (h | ⟨x, h, -⟩)
    · cases h
      rfl
    · cases h
  | ok x =>
    refine ⟨fun h => .inr ⟨x, rfl, h⟩, ?_⟩
    rintro (h | ⟨x', h, hf⟩)
    · cases h
    · cases h
      exact hf

theorem bind_of_ok {x : α} (h : a = .ok x) : a >>= f = f x := by
  rw [h]
  rfl

end

/-! ## Reading texts -/

theorem takeHex_zero (cs : List Char) : Code.takeHex 0 cs = (0, 0) := rfl

/-- A digit counts with the weight that the digits behind it give it. -/
theorem takeHex_succ_cons (n : Nat) (c : Char) (cs : List Char) :
    Code.takeHex (n + 1) (c :: cs) = (Code.hexValue? c).elim (0, 0) fun v =>
      ((Code.takeHex n cs).1 + 1, v * 16 ^ (Code.takeHex n cs).1 + (Code.takeHex n cs).2) := by
  rw [Code.takeHex]
  cases Code.hexValue? c <;> rfl

/-- The four digits of a code are read with their value. -/
theorem takeHex_of_isCode {ds : List Char} {n : Nat} (h : IsCode n ds) (rest : List Char) :
    Code.takeHex 4 (ds ++ rest) = (4, n) ∧ ds.length = 4 := by
  obtain ⟨a, b, c, d, w, x, y, z, rfl, ha, hb, hc, hd, rfl⟩ := h
  refine ⟨?_, rfl⟩
  simp only [List.cons_append, List.nil_append, takeHex_succ_cons, takeHex_zero, ha, hb, hc, hd,
    Option.elim_some, Prod.mk.injEq, true_and]
  ring

/-- Four digits are read if there are four. -/
theorem isCode_of_takeHex {cs : List Char} {n : Nat} (h : Code.takeHex 4 cs = (4, n)) :
    ∃ ds rest, cs = ds ++ rest ∧ IsCode n ds := by
  have hstep {k m v : Nat} {cs : List Char} (h : Code.takeHex (k + 1) cs = (m + 1, v)) :
      ∃ c cs' w v', cs = c :: cs' ∧ Code.hexValue? c = some w ∧ Code.takeHex k cs' = (m, v')
        ∧ v = w * 16 ^ m + v' := by
    cases cs with
    | nil => cases h
    | cons c cs =>
      rw [takeHex_succ_cons] at h
      cases hw : Code.hexValue? c with
      | none =>
        rw [hw] at h
        cases h
      | some w =>
        rw [hw] at h
        obtain ⟨hm, rfl⟩ := Prod.mk.inj h
        obtain rfl : (Code.takeHex k cs).1 = m := Nat.succ.inj hm
        exact ⟨c, cs, w, _, rfl, hw, rfl, rfl⟩
  obtain ⟨a, cs₁, w, v₁, rfl, ha, h₁, rfl⟩ := hstep h
  obtain ⟨b, cs₂, x, v₂, rfl, hb, h₂, rfl⟩ := hstep h₁
  obtain ⟨c, cs₃, y, v₃, rfl, hc, h₃, rfl⟩ := hstep h₂
  obtain ⟨d, cs, z, v, rfl, hd, h₄, rfl⟩ := hstep h₃
  obtain rfl : v = 0 := (Prod.mk.inj h₄).2.symm
  refine ⟨[a, b, c, d], cs, rfl, a, b, c, d, w, x, y, z, rfl, ha, hb, hc, hd, ?_⟩
  ring

/-- What stands behind a code. -/
theorem drop_code {ds : List Char} {n : Nat} (h : IsCode n ds) (rest : List Char) :
    ('u' :: (ds ++ rest)).drop 5 = rest := by
  obtain ⟨a, b, c, d, w, x, y, z, rfl, -⟩ := h
  rfl

/-- What stands behind two codes. -/
theorem drop_pair {ds es : List Char} {n low : Nat} (h : IsCode n ds) (hlow : IsCode low es)
    (rest : List Char) : ('u' :: (ds ++ '\\' :: 'u' :: (es ++ rest))).drop 11 = rest := by
  obtain ⟨a, b, c, d, w, x, y, z, rfl, -⟩ := h
  obtain ⟨a, b, c, d, w, x, y, z, rfl, -⟩ := hlow
  rfl

/-- The digits of a code are read if something stands behind them. -/
theorem readCode_eq_ok_iff {c : Char} {cs : List Char} {n : Nat} :
    readCode (c :: cs) = .ok n ↔ ∃ ds rest, cs = ds ++ rest ∧ rest ≠ [] ∧ IsCode n ds := by
  unfold readCode
  simp only [List.drop_one, List.tail_cons, List.length_cons]
  constructor
  · intro h
    split at h
    · next hif =>
      cases h
      simp only [Bool.and_eq_true, decide_eq_true_eq] at hif
      obtain ⟨ds, rest, hcs, hcode⟩ := isCode_of_takeHex (Prod.ext hif.2 rfl)
      refine ⟨ds, rest, hcs, ?_, hcode⟩
      rintro rfl
      have hfour := (takeHex_of_isCode hcode []).2
      have hlength := hif.1
      rw [hcs, List.append_nil, hfour] at hlength
      omega
    · cases h
  · rintro ⟨ds, rest, rfl, hrest, hcode⟩
    obtain ⟨htake, hfour⟩ := takeHex_of_isCode hcode rest
    have hsome := List.length_pos_iff.mpr hrest
    have hlong : 5 < (ds ++ rest).length + 1 := by
      rw [List.length_append, hfour]
      omega
    rw [htake]
    exact if_pos (Bool.and_eq_true_iff.mpr ⟨decide_eq_true hlong, decide_eq_true rfl⟩)

/-- Behind a code that is a first half, a second half is looked for. -/
theorem readCodeEscape_code {ds cs : List Char} {n : Nat} (hcode : IsCode n ds) :
    readCodeEscape ('u' :: (ds ++ '\\' :: 'u' :: cs)) =
      if isHighHalf n && 4 < cs.length then do
        let low ← readCode ('u' :: cs)
        if isLowHalf low then return (joinHalves n low, 11) else return (n, 5)
      else return (n, 5) := by
  have hread : readCode ('u' :: (ds ++ '\\' :: 'u' :: cs)) = .ok n :=
    readCode_eq_ok_iff.mpr ⟨ds, _, rfl, by simp, hcode⟩
  have hlength : (6 < ('\\' :: 'u' :: cs).length) = (4 < cs.length) := by
    rw [List.length_cons, List.length_cons]
    exact propext ⟨fun h => by omega, fun h => by omega⟩
  unfold readCodeEscape
  rw [hread]
  simp only [bind, Except.bind, drop_code hcode, hlength, List.drop_one, List.tail_cons]

theorem readCodeEscape_other {ds rest : List Char} {n : Nat} (hcode : IsCode n ds)
    (hrest : rest ≠ []) (hother : ∀ cs, rest ≠ '\\' :: 'u' :: cs) :
    readCodeEscape ('u' :: (ds ++ rest)) = .ok (n, 5) := by
  have hread : readCode ('u' :: (ds ++ rest)) = .ok n :=
    readCode_eq_ok_iff.mpr ⟨ds, rest, rfl, hrest, hcode⟩
  unfold readCodeEscape
  rw [hread]
  simp only [bind, Except.bind, drop_code hcode]
  rfl

/-- What makes a code and the text behind it a pair. -/
def IsPair (n : Nat) (rest : List Char) (low : Nat) : Prop :=
  ∃ es more, rest = '\\' :: 'u' :: (es ++ more) ∧ more ≠ [] ∧ IsCode low es
    ∧ isHighHalf n ∧ isLowHalf low

theorem readCodeEscape_pair {ds rest : List Char} {n low : Nat} (hcode : IsCode n ds)
    (hpair : IsPair n rest low) :
    readCodeEscape ('u' :: (ds ++ rest)) = .ok (joinHalves n low, 11) := by
  obtain ⟨es, more, rfl, hmore, hlow, hn, hl⟩ := hpair
  have hlong : 4 < (es ++ more).length := by
    have hsome := List.length_pos_iff.mpr hmore
    rw [List.length_append, (takeHex_of_isCode hlow more).2]
    omega
  rw [readCodeEscape_code hcode, if_pos (Bool.and_eq_true_iff.mpr ⟨hn, decide_eq_true hlong⟩),
    readCode_eq_ok_iff.mpr ⟨es, more, rfl, hmore, hlow⟩]
  simp only [bind, Except.bind]
  rw [if_pos hl]
  rfl

/-- A code on its own, behind which stands no code or one that makes no pair with it. -/
theorem readCodeEscape_single {ds rest : List Char} {n : Nat} (hcode : IsCode n ds)
    (hrest : rest ≠ []) (hnext : ∀ cs, rest = '\\' :: 'u' :: cs →
      ∃ es more low, cs = es ++ more ∧ more ≠ [] ∧ IsCode low es ∧ ¬ (isHighHalf n ∧ isLowHalf low)) :
    readCodeEscape ('u' :: (ds ++ rest)) = .ok (n, 5) := by
  by_cases hother : ∃ cs, rest = '\\' :: 'u' :: cs
  · obtain ⟨cs, rfl⟩ := hother
    obtain ⟨es, more, low, rfl, hmore, hlow, hpair⟩ := hnext cs rfl
    rw [readCodeEscape_code hcode]
    split
    · next hhigh =>
      rw [readCode_eq_ok_iff.mpr ⟨es, more, rfl, hmore, hlow⟩]
      simp only [bind, Except.bind]
      rw [if_neg fun hl => hpair ⟨(Bool.and_eq_true_iff.mp hhigh).1, hl⟩]
      rfl
    · rfl
  · exact readCodeEscape_other hcode hrest (not_exists.mp hother)

/-- A code is read with what makes it a pair, or on its own. -/
theorem readCodeEscape_eq_ok {cs : List Char} {v taken : Nat}
    (h : readCodeEscape ('u' :: cs) = .ok (v, taken)) :
    ∃ ds rest n, cs = ds ++ rest ∧ IsCode n ds
      ∧ ((v = n ∧ taken = 5 ∧ ∀ low, ¬ IsPair n rest low)
        ∨ ∃ low, IsPair n rest low ∧ v = joinHalves n low ∧ taken = 11) := by
  cases hread : readCode ('u' :: cs) with
  | error e =>
    unfold readCodeEscape at h
    rw [hread] at h
    cases h
  | ok n =>
    obtain ⟨ds, rest, rfl, hrest, hcode⟩ := readCode_eq_ok_iff.mp hread
    refine ⟨ds, rest, n, rfl, hcode, ?_⟩
    by_cases hpair : ∃ low, IsPair n rest low
    · obtain ⟨low, hpair⟩ := hpair
      have hread := Except.ok.inj (h.symm.trans (readCodeEscape_pair hcode hpair))
      obtain ⟨hv, htaken⟩ := Prod.mk.inj hread
      exact .inr ⟨low, hpair, hv, htaken⟩
    · have hsingle : (v, taken) = (n, 5) := by
        by_cases hother : ∃ cs, rest = '\\' :: 'u' :: cs
        · obtain ⟨cs, rfl⟩ := hother
          rw [readCodeEscape_code hcode] at h
          split at h
          · next hhigh =>
            cases hlow : readCode ('u' :: cs) with
            | error e =>
              rw [hlow] at h
              cases h
            | ok low =>
              rw [hlow] at h
              simp only [bind, Except.bind] at h
              split at h
              · next hl =>
                obtain ⟨es, more, rfl, hmore, hes⟩ := readCode_eq_ok_iff.mp hlow
                exact absurd
                  ⟨low, es, more, rfl, hmore, hes, (Bool.and_eq_true_iff.mp hhigh).1, hl⟩ hpair
              · exact (Except.ok.inj h).symm
          · exact (Except.ok.inj h).symm
        · have hread := readCodeEscape_other hcode hrest (not_exists.mp hother)
          exact Except.ok.inj (h.symm.trans hread)
      obtain ⟨hv, htaken⟩ := Prod.mk.inj hsingle
      exact .inl ⟨hv, htaken, not_exists.mp hpair⟩

/-! ### Whole texts -/

/-- A code stays on its own if what follows is no code that makes it a pair. -/
theorem codePoints_code {n : Nat} {ps : List Piece}
    (h : ∀ low qs, ps = .code low :: qs → ¬ (isHighHalf n ∧ isLowHalf low)) :
    codePoints (.code n :: ps) = n :: codePoints ps := by
  cases ps with
  | nil => rfl
  | cons p ps =>
    cases p with
    | plain d => rfl
    | code low =>
      rw [codePoints, if_neg]
      simpa using h low ps rfl

/-- What is read up to a quote is a text. -/
theorem isText_of_readText {start cs rest : List Char} {n : Nat} {ds : List Nat}
    (h : readText start n cs = .ok (ds, rest)) :
    ∃ ps s, IsText ps s ∧ cs = s ++ '"' :: rest ∧ ds = codePoints ps := by
  fun_induction readText start n cs generalizing ds with
  | case1 => cases h
  | case2 => cases h
  | case3 n cs =>
    cases h
    exact ⟨[], [], .nil, rfl, rfl⟩
  | case4 => cases h
  | case5 n tail _ ih =>
    obtain ⟨⟨d, taken⟩, hcode, h⟩ := bind_eq_ok.mp h
    obtain ⟨⟨es, rest'⟩, hread, h⟩ := bind_eq_ok.mp h
    cases h
    obtain ⟨ps, s, hps, hs, rfl⟩ := ih taken hread
    obtain ⟨us, behind, u, rfl, hu, ⟨rfl, rfl, hsingle⟩ | ⟨low, hpair, hd, htaken⟩⟩ :=
      readCodeEscape_eq_ok hcode
    · rw [drop_code hu] at hs
      refine ⟨.code d :: ps, '\\' :: 'u' :: us ++ s, .cons (.code hu) hps, by simp [hs], ?_⟩
      rw [codePoints_code]
      -- a second half among the pieces would have been read with this one
      rintro l qs rfl ⟨hhigh, hlow⟩
      cases hps with
      | @cons _ _ t s hl hqs =>
        cases hl with
        | @code _ es hes =>
          exact hsingle l ⟨es, s ++ '"' :: rest, by simp [hs], by simp, hes, hhigh, hlow⟩
    · obtain ⟨es, more, rfl, -, hes, hhigh, hlow⟩ := hpair
      rw [htaken, drop_pair hu hes] at hs
      refine ⟨.code u :: .code low :: ps, '\\' :: 'u' :: us ++ ('\\' :: 'u' :: es ++ s),
        .cons (.code hu) (.cons (.code hes) hps), by simp [hs], ?_⟩
      rw [codePoints, if_pos (Bool.and_eq_true_iff.mpr ⟨hhigh, hlow⟩), hd]
  | case6 => cases h
  | case7 n e after _ d hlookup _ ih =>
    obtain ⟨⟨es, rest'⟩, hread, h⟩ := bind_eq_ok.mp h
    cases h
    obtain ⟨ps, s, hps, rfl, rfl⟩ := ih hread
    obtain ⟨l, r, hsplit, -⟩ := List.lookup_eq_some_iff.mp hlookup
    have hmem : (e, d) ∈ simpleEscapes := by simp [hsplit]
    exact ⟨.plain d.toNat :: ps, ['\\', e] ++ s, .cons (.escape hmem) hps, rfl, rfl⟩
  | case8 => cases h
  | case9 n c cs hquote hback hcontrol ih =>
    obtain ⟨⟨es, rest'⟩, hread, h⟩ := bind_eq_ok.mp h
    cases h
    obtain ⟨ps, s, hps, rfl, rfl⟩ := ih hread
    exact ⟨.plain c.toNat :: ps, [c] ++ s, .cons (.char hquote hback (Nat.not_lt.mp hcontrol)) hps,
      rfl, rfl⟩

/-- What follows a code: something, and if it begins as a code, then it is one. -/
theorem IsText.front {ps : List Piece} {s : List Char} (h : IsText ps s) (rest : List Char) :
    s ++ '"' :: rest ≠ [] ∧ ∀ cs, s ++ '"' :: rest = '\\' :: 'u' :: cs →
      ∃ es more low qs, cs = es ++ more ∧ more ≠ [] ∧ IsCode low es ∧ ps = .code low :: qs := by
  refine ⟨by simp, fun cs hcs => ?_⟩
  cases h with
  | nil => simp at hcs
  | @cons p qs t s hp hqs =>
    cases hp with
    | char _ hback => exact absurd (List.cons.inj hcs).1 hback
    | escape he =>
      have hu : ∀ e ∈ simpleEscapes, e.1 ≠ 'u' := by decide
      exact absurd (List.cons.inj (List.cons.inj hcs).2).1 (hu _ he)
    | @code low es hes =>
      refine ⟨es, s ++ '"' :: rest, low, qs, ?_, by simp, hes, rfl⟩
      rw [← (List.cons.inj (List.cons.inj hcs).2).2]
      simp

/-! Reading goes on behind each part of a text. -/

theorem readText_char {c : Char} {cs rest start : List Char} {n : Nat} {es : List Nat}
    (hquote : c ≠ '"') (hback : c ≠ '\\') (hcontrol : 32 ≤ c.toNat)
    (hrest : readText start n cs = .ok (es, rest)) :
    readText start (n + 1) (c :: cs) = .ok (c.toNat :: es, rest) := by
  rw [readText.eq_def]
  simp only [if_neg hquote, if_neg hback, if_neg (Nat.not_lt.mpr hcontrol)]
  rw [bind_of_ok hrest]
  rfl

theorem readText_escape {e d : Char} {cs rest start : List Char} {n : Nat} {es : List Nat}
    (he : (e, d) ∈ simpleEscapes) (hrest : readText start n cs = .ok (es, rest)) :
    readText start (n + 1) ('\\' :: e :: cs) = .ok (d.toNat :: es, rest) := by
  have hall : ∀ e ∈ simpleEscapes, e.1 ≠ 'u' ∧ simpleEscapes.lookup e.1 = some e.2 := by decide
  obtain ⟨hu, hlookup⟩ : e ≠ 'u' ∧ simpleEscapes.lookup e = some d := hall _ he
  rw [readText.eq_def]
  simp only [if_neg (show '\\' ≠ '"' by decide), if_true]
  split
  · next hnone =>
    rw [hlookup] at hnone
    cases hnone
  · next d' hsome =>
    obtain rfl : d = d' := Option.some.inj (hlookup.symm.trans hsome)
    rw [bind_of_ok hrest]
    rfl

theorem readText_code {cs rest start : List Char} {n taken v : Nat} {es : List Nat}
    (hcode : readCodeEscape ('u' :: cs) = .ok (v, taken))
    (hrest : readText start n (('u' :: cs).drop taken) = .ok (es, rest)) :
    readText start (n + 1) ('\\' :: 'u' :: cs) = .ok (v :: es, rest) := by
  rw [readText.eq_def]
  simp only [if_neg (show '\\' ≠ '"' by decide), if_true]
  rw [bind_of_ok hcode]
  simp only
  rw [bind_of_ok hrest]
  rfl

/-- A text is read up to its quote. -/
theorem readText_of_isText {ps : List Piece} {s : List Char} (h : IsText ps s) {n : Nat}
    (hn : s.length ≤ n) (start rest : List Char) :
    readText start (n + 1) (s ++ '"' :: rest) = .ok (codePoints ps, rest) := by
  have hsingle {m k : Nat} {us s : List Char} {qs : List Piece} (hu : IsCode m us) (hqs : IsText qs s)
      (hnext : ∀ low qs', qs = .code low :: qs' → ¬ (isHighHalf m ∧ isLowHalf low))
      (ih : readText start (k + 1) (s ++ '"' :: rest) = .ok (codePoints qs, rest)) :
      readText start (k + 2) ('\\' :: 'u' :: us ++ s ++ '"' :: rest)
        = .ok (m :: codePoints qs, rest) := by
    obtain ⟨hsome, hfront⟩ := hqs.front rest
    have hshape : '\\' :: 'u' :: us ++ s ++ '"' :: rest
        = '\\' :: 'u' :: (us ++ (s ++ '"' :: rest)) := by simp
    rw [hshape]
    refine readText_code (readCodeEscape_single hu hsome fun cs hcs => ?_) ?_
    · obtain ⟨es, more, low, qs', hes, hmore, hlow, hqs'⟩ := hfront cs hcs
      exact ⟨es, more, low, hes, hmore, hlow, hnext low qs' hqs'⟩
    · rw [drop_code hu]
      exact ih
  fun_induction codePoints ps generalizing s n with
  | case1 =>
    cases h
    rfl
  | case2 d ps ih =>
    obtain _ | ⟨hp, hps⟩ := h
    obtain ⟨m, rfl⟩ : ∃ m, n = m + 1 := by
      cases hp <;> exact ⟨n - 1, by simp at hn; omega⟩
    cases hp with
    | char hquote hback hcontrol =>
      exact readText_char hquote hback hcontrol (ih hps (by simp at hn; omega))
    | escape he => exact readText_escape he (ih hps (by simp at hn; omega))
  | case3 high low ps hpair ih =>
    obtain _ | ⟨_ | _ | @⟨_, us, hhigh⟩, hps⟩ := h
    obtain _ | @⟨_, _, _, s, _ | _ | @⟨_, es, hlow⟩, hps⟩ := hps
    obtain ⟨m, rfl⟩ : ∃ m, n = m + 1 := ⟨n - 1, by simp at hn; omega⟩
    have hshape : '\\' :: 'u' :: us ++ ('\\' :: 'u' :: es ++ s) ++ '"' :: rest
        = '\\' :: 'u' :: (us ++ '\\' :: 'u' :: (es ++ (s ++ '"' :: rest))) := by simp
    obtain ⟨hh, hl⟩ := Bool.and_eq_true_iff.mp hpair
    rw [hshape]
    refine readText_code (readCodeEscape_pair hhigh ⟨es, _, rfl, by simp, hlow, hh, hl⟩) ?_
    rw [drop_pair hhigh hlow]
    exact ih hps (by simp at hn; omega)
  | case4 high low ps hpair ih =>
    obtain _ | ⟨_ | _ | hhigh, hps⟩ := h
    obtain ⟨m, rfl⟩ : ∃ m, n = m + 1 := ⟨n - 1, by simp at hn; omega⟩
    refine hsingle hhigh hps ?_ (ih hps (by simp at hn; omega))
    rintro l qs heq
    cases heq
    simpa using hpair
  | case5 m ps hnext ih =>
    obtain _ | ⟨_ | _ | hcode, hps⟩ := h
    obtain ⟨k, rfl⟩ : ∃ k, n = k + 1 := ⟨n - 1, by simp at hn; omega⟩
    exact hsingle hcode hps (fun low qs heq => (hnext low qs heq).elim)
      (ih hps (by simp at hn; omega))

end BraceScript.JsonValue
