import BraceScript.Proofs.Json.Reading
import Mathlib

/-!
# Integers with too many digits

An integer with more digits than can be read ends the reading of a text with a failure, and not with
a fault of the text. `parse_digits_iff` says when reading comes to such an integer: if everything in
front of it is in order, whatever stands behind it.
-/

namespace BraceScript.JsonValue

/-! ## Integers with too many digits -/

/-- What stands in front of an item: the items before it with their commas, and blanks. -/
inductive ItemsFront : List Char → Prop
  | here {b : List Char} : Blank b → ItemsFront b
  | there {j : JsonValue} {b s b' f : List Char} :
    Blank b → Written (.value j) s → Blank b' → ItemsFront f → ItemsFront (b ++ s ++ b' ++ ',' :: f)

/-- What stands in front of the value of a member: the members before it with their commas, and its
key. -/
inductive MembersFront : List Char → Prop
  | here {k : Text.Points} {f : List Char} : IsKey k f → MembersFront f
  | there {k : Text.Points} {j : JsonValue} {f s b g : List Char} :
    IsKey k f → Written (.value j) s → Blank b → MembersFront g →
      MembersFront (f ++ s ++ b ++ ',' :: g)

/-- What stands in front of a value inside the same value: lists and objects that are not closed. -/
inductive Inside : List Char → Prop
  | here : Inside []
  | list {f p : List Char} : ItemsFront f → Inside p → Inside ('[' :: f ++ p)
  | object {f p : List Char} : MembersFront f → Inside p → Inside ('\x7b' :: f ++ p)

/-- A text in which reading comes to an integer that has too many digits. What stands behind the
integer does not matter. -/
def RunsInto (digits : Nat) (cs : List Char) : Prop :=
  ∃ b p rest, Blank b ∧ Inside p ∧ Overlong digits rest ∧ cs = b ++ p ++ rest

/-- What is wrong with a text has nothing to do with numbers. -/
theorem readText_ne_digits {start cs rest : List Char} {n k : Nat} :
    readText start n cs ≠ .error (.digits k, rest) := by
  have hcode (cs : List Char) : readCode cs ≠ .error (.digits k, rest) := by
    unfold readCode
    simp only
    split <;> simp
  have hescape (cs : List Char) : readCodeEscape cs ≠ .error (.digits k, rest) := by
    intro h
    unfold readCodeEscape at h
    rcases bind_eq_error.mp h with h | ⟨high, -, h⟩
    · exact hcode _ h
    · simp only at h
      split at h
      · split at h
        · rcases bind_eq_error.mp h with h | ⟨low, -, h⟩
          · exact hcode _ h
          · split at h <;> cases h
        · cases h
      · cases h
  intro h
  fun_induction readText start n cs with
  | case1 => cases h
  | case2 => cases h
  | case3 => cases h
  | case4 => cases h
  | case5 n tail _ ih =>
    rcases bind_eq_error.mp h with h | ⟨⟨d, taken⟩, -, h⟩
    · exact hescape _ h
    · rcases bind_eq_error.mp h with h | ⟨_, -, h⟩
      · exact ih taken h
      · cases h
  | case6 => cases h
  | case7 n e after _ d _ _ ih =>
    rcases bind_eq_error.mp h with h | ⟨_, -, h⟩
    · exact ih h
    · cases h
  | case8 => cases h
  | case9 n c cs _ _ _ ih =>
    rcases bind_eq_error.mp h with h | ⟨_, -, h⟩
    · exact ih h
    · cases h

theorem ItemsFront.blank {b f : List Char} (hb : Blank b) (h : ItemsFront f) :
    ItemsFront (b ++ f) := by
  cases h with
  | here hf => exact .here (hb.append hf)
  | there hb' hj hb'' hg => simpa using ItemsFront.there (hb.append hb') hj hb'' hg

theorem MembersFront.blank {b f : List Char} (hb : Blank b) (h : MembersFront f) :
    MembersFront (b ++ f) := by
  cases h with
  | here hf => exact .here (hf.blank hb)
  | there hf hj hb' hg => simpa using MembersFront.there (hf.blank hb) hj hb' hg

/-! Reading comes to the integer when every value in front of it has been read. -/

theorem runsInto_of_readValue_succ {n k : Nat} {behind : List Char}
    (hitems : ∀ {cs}, readItems n cs = .error (.digits k, behind) →
      ∃ f p, ItemsFront f ∧ Inside p ∧ cs = f ++ p ++ behind ∧ Overlong k behind)
    (hmembers : ∀ {before cs}, readMembers n before cs = .error (.digits k, behind) →
      ∃ f p, MembersFront f ∧ Inside p ∧ cs = f ++ p ++ behind ∧ Overlong k behind)
    {cs : List Char} (h : readValue (n + 1) cs = .error (.digits k, behind)) :
    ∃ p, Inside p ∧ cs = p ++ behind ∧ Overlong k behind := by
  cases cs with
  | nil => cases h
  | cons c cs =>
    rw [readValue] at h
    obtain ⟨b, hb, hcs⟩ := skipSpace_spec cs
    split at h
    · rcases bind_eq_error.mp h with h | ⟨_, -, h⟩
      · exact absurd h readText_ne_digits
      · cases h
    split at h
    · next hbrace =>
      subst hbrace
      split at h
      · cases h
      · rcases bind_eq_error.mp h with h | ⟨_, -, h⟩
        · obtain ⟨f, p, hf, hp, hshape, hover⟩ := hmembers h
          rw [hshape] at hcs
          exact ⟨'\x7b' :: (b ++ f) ++ p, .object (hf.blank hb) hp, by simp [hcs], hover⟩
        · cases h
    split at h
    · next hbracket =>
      subst hbracket
      split at h
      · cases h
      · rcases bind_eq_error.mp h with h | ⟨_, -, h⟩
        · obtain ⟨f, p, hf, hp, hshape, hover⟩ := hitems h
          rw [hshape] at hcs
          exact ⟨'[' :: (b ++ f) ++ p, .list (hf.blank hb) hp, by simp [hcs], hover⟩
        · cases h
    · unfold readPlain at h
      split at h
      · cases h
      · obtain ⟨rfl, hover⟩ := readNumber_eq_digits_iff.mp h
        exact ⟨[], .here, rfl, hover⟩

theorem runsInto_of_readItems_succ {n k : Nat} {behind : List Char}
    (hvalue : ∀ {cs}, readValue n cs = .error (.digits k, behind) →
      ∃ p, Inside p ∧ cs = p ++ behind ∧ Overlong k behind)
    (hitems : ∀ {cs}, readItems n cs = .error (.digits k, behind) →
      ∃ f p, ItemsFront f ∧ Inside p ∧ cs = f ++ p ++ behind ∧ Overlong k behind)
    {cs : List Char} (h : readItems (n + 1) cs = .error (.digits k, behind)) :
    ∃ f p, ItemsFront f ∧ Inside p ∧ cs = f ++ p ++ behind ∧ Overlong k behind := by
  rw [readItems] at h
  rcases bind_eq_error.mp h with h | ⟨⟨j, rest⟩, hread, h⟩
  · obtain ⟨p, hp, hcs, hover⟩ := hvalue h
    exact ⟨[], p, .here .nil, hp, hcs, hover⟩
  · obtain ⟨s, hs, hj⟩ := (written_of_read n).1 _ _ _ hread
    obtain ⟨b, hb, hrest⟩ := skipSpace_spec rest
    simp only at h
    split at h
    · cases h
    · next more hcomma =>
      rcases bind_eq_error.mp h with h | ⟨_, -, h⟩
      · obtain ⟨f, p, hf, hp, hmore, hover⟩ := hitems h
        obtain ⟨b', hb', hmore'⟩ := skipSpace_spec more
        rw [hcomma, hmore', hmore] at hrest
        exact ⟨[] ++ s ++ b ++ ',' :: (b' ++ f), p, .there .nil hj hb (hf.blank hb'), hp,
          by simp [hs, hrest], hover⟩
      · cases h
    · cases h

theorem runsInto_of_readMembers_succ {n k : Nat} {behind : List Char}
    (hvalue : ∀ {cs}, readValue n cs = .error (.digits k, behind) →
      ∃ p, Inside p ∧ cs = p ++ behind ∧ Overlong k behind)
    (hmembers : ∀ {before cs}, readMembers n before cs = .error (.digits k, behind) →
      ∃ f p, MembersFront f ∧ Inside p ∧ cs = f ++ p ++ behind ∧ Overlong k behind)
    {before : Members} {cs : List Char}
    (h : readMembers (n + 1) before cs = .error (.digits k, behind)) :
    ∃ f p, MembersFront f ∧ Inside p ∧ cs = f ++ p ++ behind ∧ Overlong k behind := by
  rw [readMembers.eq_def] at h
  simp only at h
  split at h
  · next after =>
    rcases bind_eq_error.mp h with h | ⟨⟨ds, rest⟩, hkey, h⟩
    · exact absurd h readText_ne_digits
    obtain ⟨key, hfront, hquoted⟩ := isQuoted_of_readText hkey
    obtain ⟨b, hb, hrest⟩ := skipSpace_spec rest
    simp only at h
    split at h
    · next value hcolon =>
      obtain ⟨b', hb', hvalues⟩ := skipSpace_spec value
      have hisKey : IsKey ⟨ds⟩ ([] ++ key ++ b ++ ':' :: b') :=
        ⟨[], key, b, b', .nil, hquoted, hb, hb', rfl⟩
      have hcs : '"' :: after = ([] ++ key ++ b ++ ':' :: b') ++ skipSpace value := by
        rw [hfront, hrest, hcolon]
        nth_rewrite 1 [hvalues]
        simp
      rcases bind_eq_error.mp h with h | ⟨⟨j, rest'⟩, hread, h⟩
      · obtain ⟨p, hp, hshape, hover⟩ := hvalue h
        exact ⟨_, p, .here hisKey, hp, by rw [hcs, hshape, ← List.append_assoc], hover⟩
      · obtain ⟨s, hs, hj⟩ := (written_of_read n).1 _ _ _ hread
        obtain ⟨b'', hb'', hrest'⟩ := skipSpace_spec rest'
        simp only at h
        split at h
        · cases h
        · next more hcomma =>
          obtain ⟨f, p, hf, hp, hmore, hover⟩ := hmembers h
          obtain ⟨b₃, hb₃, hmore'⟩ := skipSpace_spec more
          rw [hcomma, hmore', hmore] at hrest'
          refine ⟨_, p, .there hisKey hj hb'' (hf.blank hb₃), hp, ?_, hover⟩
          rw [hcs, hs, hrest']
          simp
        · cases h
    · cases h
  · cases h

theorem runsInto_of_read (k : Nat) (behind : List Char) (n : Nat) :
    (∀ cs, readValue n cs = .error (.digits k, behind) →
      ∃ p, Inside p ∧ cs = p ++ behind ∧ Overlong k behind)
    ∧ (∀ cs, readItems n cs = .error (.digits k, behind) →
      ∃ f p, ItemsFront f ∧ Inside p ∧ cs = f ++ p ++ behind ∧ Overlong k behind)
    ∧ ∀ before cs, readMembers n before cs = .error (.digits k, behind) →
      ∃ f p, MembersFront f ∧ Inside p ∧ cs = f ++ p ++ behind ∧ Overlong k behind := by
  induction n with
  | zero => refine ⟨fun _ h => ?_, fun _ h => ?_, fun _ _ h => ?_⟩ <;> cases h
  | succ n ih =>
    obtain ⟨hvalue, hitems, hmembers⟩ := ih
    exact ⟨fun _ => runsInto_of_readValue_succ (hitems _) (hmembers _ _),
      fun _ => runsInto_of_readItems_succ (hvalue _) (hitems _),
      fun _ _ => runsInto_of_readMembers_succ (hvalue _) (hmembers _ _)⟩

/-! An integer with too many digits is come to. -/

theorem Overlong.begins {k : Nat} {cs : List Char} (h : Overlong k cs) :
    ∃ c r, cs = c :: r ∧ Begins c := by
  obtain ⟨negative, whole, rest, rfl, hwhole, -⟩ := h
  exact hwhole.begins rest

theorem Inside.begins {p cs : List Char} (h : Inside p) (hcs : ∃ c r, cs = c :: r ∧ Begins c) :
    ∃ c r, p ++ cs = c :: r ∧ Begins c := by
  cases h with
  | here => exact hcs
  | list => exact ⟨'[', _, rfl, by decide⟩
  | object => exact ⟨'\x7b', _, rfl, by decide⟩

theorem ItemsFront.begins {f cs : List Char} (h : ItemsFront f)
    (hcs : ∃ c r, cs = c :: r ∧ Begins c) : ∃ c r, skipSpace (f ++ cs) = c :: r ∧ Begins c := by
  have hfront {b s rest : List Char} (hb : Blank b) (hs : ∃ c r, s = c :: r ∧ Begins c) :
      ∃ c r, skipSpace (b ++ (s ++ rest)) = c :: r ∧ Begins c := by
    obtain ⟨c, r, rfl, hc⟩ := hs
    exact ⟨c, r ++ rest, skipSpace_blank_cons hb hc.1 _, hc⟩
  cases h with
  | here hb =>
    have hcs' := @hfront _ _ [] hb hcs
    rwa [List.append_nil] at hcs'
  | there hb hj hb' hg =>
    rw [List.append_assoc, List.append_assoc, List.append_assoc]
    exact hfront hb hj.begins

theorem MembersFront.front {f : List Char} (h : MembersFront f) (cs : List Char) :
    ∃ r, skipSpace (f ++ cs) = '"' :: r := by
  cases h with
  | here hf => exact hf.front cs
  | there hf hj hb hg =>
    rw [List.append_assoc, List.append_assoc, List.append_assoc]
    exact hf.front _

/-- The fault of an item is the fault of its list. -/
theorem ItemsFront.readItems {f cs : List Char} {e : Fault × List Char} (h : ItemsFront f)
    (hcs : ∃ c r, cs = c :: r ∧ Begins c) {m n : Nat}
    (hvalue : ∀ n, m < n → readValue n cs = .error e) (hn : m + 2 * f.length + 1 < n) :
    readItems n (skipSpace (f ++ cs)) = .error e := by
  induction h generalizing n with
  | @here b hb =>
    obtain ⟨n, rfl⟩ := Nat.exists_eq_succ_of_ne_zero (Nat.ne_zero_of_lt hn)
    obtain ⟨c, r, rfl, hc, -⟩ := hcs
    rw [skipSpace_blank_cons hb hc, BraceScript.JsonValue.readItems, hvalue n (by omega)]
    rfl
  | @there j b s b' f hb hj hb' _ ih =>
    obtain ⟨n, rfl⟩ := Nat.exists_eq_succ_of_ne_zero (Nat.ne_zero_of_lt hn)
    have hshape : b ++ s ++ b' ++ ',' :: f ++ cs = b ++ (s ++ (b' ++ ',' :: (f ++ cs))) := by simp
    simp only [List.length_append, List.length_cons] at hn
    rw [hshape, skipSpace_append hb, hj.skipSpace_eq,
      readItems_next (hj.isRead n _ (by omega) (follows_cons (by decide) hb' _)) hb',
      ih (by omega)]
    rfl

/-- The fault of the value of a member is the fault of its object. -/
theorem MembersFront.readMembers {f cs : List Char} {e : Fault × List Char} (h : MembersFront f)
    (hcs : ∃ c r, cs = c :: r ∧ Begins c) {m n : Nat}
    (hvalue : ∀ n, m < n → readValue n cs = .error e) (hn : m + 2 * f.length + 1 < n)
    (before : Members) : readMembers n before (skipSpace (f ++ cs)) = .error e := by
  induction h generalizing n before with
  | @here k f hf =>
    obtain ⟨n, rfl⟩ := Nat.exists_eq_succ_of_ne_zero (Nat.ne_zero_of_lt hn)
    obtain ⟨c, r, rfl, hc, -⟩ := hcs
    rw [readMembers_key n before hf, skipSpace_cons hc, hvalue n (by omega)]
    rfl
  | @there k j f s b g hf hj hb _ ih =>
    obtain ⟨n, rfl⟩ := Nat.exists_eq_succ_of_ne_zero (Nat.ne_zero_of_lt hn)
    have hshape : f ++ s ++ b ++ ',' :: g ++ cs = f ++ (s ++ (b ++ ',' :: (g ++ cs))) := by simp
    simp only [List.length_append, List.length_cons] at hn
    have hread : readValue n (skipSpace (s ++ (b ++ ',' :: (g ++ cs))))
        = .ok (j, b ++ ',' :: (g ++ cs)) := by
      rw [hj.skipSpace_eq]
      exact hj.isRead n _ (by omega) (follows_cons (by decide) hb _)
    rw [hshape, readMembers_next before hf hread hb]
    exact ih (by omega) _

/-- The fault of what is inside a value is the fault of the value. -/
theorem Inside.readValue {p cs : List Char} {k n : Nat} (h : Inside p) (hcs : Overlong k cs)
    (hn : 2 * p.length < n) : readValue n (p ++ cs) = .error (.digits k, cs) := by
  induction h generalizing n with
  | here =>
    obtain ⟨n, rfl⟩ := Nat.exists_eq_succ_of_ne_zero (Nat.ne_zero_of_lt hn)
    have hread := readNumber_eq_digits_iff.mpr ⟨rfl, hcs⟩
    obtain ⟨negative, whole, rest, rfl, hwhole, -⟩ := hcs
    exact (readValue_eq_readNumber negative n hwhole rest).trans hread
  | @list f p hf hp ih =>
    obtain ⟨n, rfl⟩ := Nat.exists_eq_succ_of_ne_zero (Nat.ne_zero_of_lt hn)
    have hshape : '[' :: f ++ p ++ cs = '[' :: (f ++ (p ++ cs)) := by simp
    simp only [List.length_append, List.length_cons] at hn
    have hread := hf.readItems (hp.begins hcs.begins) (fun m hm => ih hm) (n := n) (by omega)
    rw [hshape, readValue_list]
    split
    · next rest hend =>
      obtain ⟨c, r, hfront, -, hc, -⟩ := hf.begins (hp.begins hcs.begins)
      exact absurd (List.cons.inj (hfront.symm.trans hend)).1 hc
    · rw [hread]
      rfl
  | @object f p hf hp ih =>
    obtain ⟨n, rfl⟩ := Nat.exists_eq_succ_of_ne_zero (Nat.ne_zero_of_lt hn)
    have hshape : '\x7b' :: f ++ p ++ cs = '\x7b' :: (f ++ (p ++ cs)) := by simp
    simp only [List.length_append, List.length_cons] at hn
    have hread := hf.readMembers (hp.begins hcs.begins) (fun m hm => ih hm) (n := n) (by omega) []
    rw [hshape, readValue_object]
    split
    · next rest hend =>
      obtain ⟨r, hfront⟩ := hf.front (p ++ cs)
      exact absurd (List.cons.inj (hfront.symm.trans hend)).1 (by decide)
    · rw [hread]
      rfl

/-- Reading comes to an integer with too many digits if and only if it stands inside what can be
read up to there. -/
theorem parse_digits_iff {cs : List Char} {k : Nat} :
    (∃ e, parse cs = .error e ∧ e.fault = .digits k) ↔ RunsInto k cs := by
  constructor
  · rintro ⟨e, h, hfault⟩
    unfold parse at h
    split at h
    · cases h
      cases hfault
    split at h
    · next f rest hread =>
      cases h
      obtain rfl : f = .digits k := hfault
      obtain ⟨b, hb, hcs⟩ := skipSpace_spec cs
      obtain ⟨p, hp, hshape, hover⟩ := (runsInto_of_read k rest _).1 _ hread
      exact ⟨b, p, rest, hb, hp, hover, by rw [hcs, hshape, List.append_assoc]⟩
    · split at h
      · cases h
      · cases h
        cases hfault
  · rintro ⟨b, p, rest, hb, hp, hover, rfl⟩
    obtain ⟨c, r, hfront, hc⟩ := hp.begins hover.begins
    have hmark := not_mark hb ⟨c, r, hfront, hc⟩ []
    rw [List.append_nil, ← List.append_assoc] at hmark
    have hfuel : 2 * p.length < 2 * (b ++ p ++ rest).length + 1 := by
      simp only [List.length_append]
      omega
    have hread := hp.readValue hover hfuel
    have hskip : skipSpace (b ++ p ++ rest) = p ++ rest := by
      rw [List.append_assoc, hfront, skipSpace_blank_cons hb hc.1]
    refine ⟨errorAt (b ++ p ++ rest) (.digits k) rest, ?_, rfl⟩
    unfold parse
    rw [if_neg hmark, hskip, hread]

end BraceScript.JsonValue
