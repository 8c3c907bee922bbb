import BraceScript.Proofs.Json.Numbers
import Mathlib

/-!
# Reading structured data

`parse_eq_ok_iff` says that a text is read exactly if it is in the notation of structured data, and
then as the value that it writes. What is read is written (`written_of_read`), by induction on the
bound of the reader. What is written is read when the bound is large enough and something follows
that ends a value (`Written.isRead`), by induction on what is written.
-/

namespace BraceScript.JsonValue

/-! ## Words and numbers -/

/-- No word begins as a number, and none stands at the front of another one. -/
theorem find?_constant {w : String} {j : JsonValue} (h : (w, j) ∈ constants) (rest : List Char) :
    constants.find? (fun e => e.1.toList.isPrefixOf (w.toList ++ rest)) = some (w, j) := by
  simp only [constants, List.mem_cons, List.not_mem_nil, or_false, Prod.mk.injEq] at h
  rcases h with ⟨rfl, rfl⟩ | ⟨rfl, rfl⟩ | ⟨rfl, rfl⟩ | ⟨rfl, rfl⟩ | ⟨rfl, rfl⟩ | ⟨rfl, rfl⟩ <;> rfl

theorem find?_number {negative : Bool} {whole : List Char} (h : IsWhole whole) (rest : List Char) :
    constants.find? (fun e => e.1.toList.isPrefixOf (signOf negative ++ whole ++ rest)) = none := by
  obtain ⟨c, r, rfl, hc⟩ := h.front
  have hne (d : Char) (hd : d.isDigit = false) : (d == c) = false := by
    rw [beq_eq_false_iff_ne]
    rintro rfl
    rw [hd] at hc
    cases hc
  cases negative <;>
    simp [constants, signOf, List.isPrefixOf, hne 'n', hne 't', hne 'f', hne 'N', hne 'I', hne '-']

theorem written_of_readPlain {cs rest : List Char} {j : JsonValue}
    (h : readPlain cs = .ok (j, rest)) : ∃ s, cs = s ++ rest ∧ Written (.value j) s := by
  unfold readPlain at h
  split at h
  · next w j' hfind =>
    obtain ⟨rfl, rfl⟩ := Prod.mk.inj (Except.ok.inj h)
    have hprefix : w.toList.isPrefixOf cs := by simpa using List.find?_some hfind
    obtain ⟨r, hr⟩ := List.isPrefixOf_iff_prefix.mp hprefix
    refine ⟨w.toList, ?_, .constant (List.mem_of_find?_eq_some hfind)⟩
    rw [← hr, ← String.length_toList, List.drop_left]
  · exact written_of_readNumber h

/-! ## Blanks -/

theorem skipSpace_append {b cs : List Char} (hb : Blank b) :
    skipSpace (b ++ cs) = skipSpace cs := List.dropWhile_append_of_pos hb

theorem skipSpace_blank {b : List Char} (hb : Blank b) : skipSpace b = [] :=
  List.dropWhile_eq_nil_iff.mpr hb

theorem skipSpace_cons {c : Char} {cs : List Char} (hc : isSpace c = false) :
    skipSpace (c :: cs) = c :: cs := List.dropWhile_cons_of_neg (by simp [hc])

theorem skipSpace_spec (cs : List Char) : ∃ b, Blank b ∧ cs = b ++ skipSpace cs :=
  ⟨cs.takeWhile isSpace, fun _ hc => List.mem_takeWhile_imp hc,
    List.takeWhile_append_dropWhile.symm⟩

/-- A character with which a value can begin. -/
def Begins (c : Char) : Prop := isSpace c = false ∧ c ≠ ']' ∧ c ≠ Char.ofNat 0xFEFF

instance (c : Char) : Decidable (Begins c) := by
  unfold Begins
  infer_instance

theorem begins_of_isDigit {c : Char} (hc : c.isDigit) : Begins c := by
  refine ⟨?_, ?_, ?_⟩
  · rw [isSpace, Bool.eq_false_iff]
    intro hspace
    simp only [Bool.or_eq_true, decide_eq_true_eq] at hspace
    rcases hspace with ((rfl | rfl) | rfl) | rfl <;> cases hc
  all_goals
    rintro rfl
    cases hc

theorem IsWhole.begins {negative : Bool} {whole : List Char} (h : IsWhole whole) (rest : List Char) :
    ∃ c r, signOf negative ++ whole ++ rest = c :: r ∧ Begins c := by
  obtain ⟨c, r, rfl, hc⟩ := h.front
  cases negative with
  | true => exact ⟨'-', c :: r ++ rest, rfl, by decide⟩
  | false => exact ⟨c, r ++ rest, rfl, begins_of_isDigit hc⟩

theorem Written.begins {j : JsonValue} {s : List Char} (h : Written (.value j) s) :
    ∃ c r, s = c :: r ∧ Begins c := by
  cases h with
  | constant hw =>
    have hall : ∀ e ∈ constants.map Prod.fst, ∃ c r, e.toList = c :: r ∧ Begins c := by
      simp only [constants, List.map_cons, List.map_nil, List.forall_mem_cons]
      refine ⟨?_, ?_, ?_, ?_, ?_, ?_, by simp⟩ <;> exact ⟨_, _, rfl, by decide⟩
    exact hall _ (List.mem_map.mpr ⟨_, hw, rfl⟩)
  | int hwhole hlimit => simpa using hwhole.begins []
  | float hwhole hf he hne hs =>
    rw [hs, List.append_assoc]
    exact hwhole.begins _
  | text hquoted =>
    obtain ⟨ps, inside, -, -, rfl⟩ := hquoted
    exact ⟨'"', _, rfl, by decide⟩
  | emptyList | list => exact ⟨'[', _, rfl, by decide⟩
  | emptyObject | object => exact ⟨'\x7b', _, rfl, by decide⟩

/-! ## What is read is written -/

/-- A quoted text is read behind its first quote. -/
theorem isQuoted_of_readText {start cs rest : List Char} {n : Nat} {ds : List Nat}
    (h : readText start n cs = .ok (ds, rest)) :
    ∃ s, '"' :: cs = s ++ rest ∧ IsQuoted ⟨ds⟩ s := by
  obtain ⟨ps, inside, hps, rfl, rfl⟩ := isText_of_readText h
  exact ⟨'"' :: inside ++ ['"'], by simp, ps, inside, hps, rfl, rfl⟩

theorem Blank.append {b b' : List Char} (h : Blank b) (h' : Blank b') : Blank (b ++ b') :=
  List.forall_mem_append.mpr ⟨h, h'⟩

theorem Blank.nil : Blank [] := by simp [Blank]

theorem Written.items_blank {js : List JsonValue} {b s : List Char} (hb : Blank b)
    (h : Written (.items js) s) : Written (.items js) (b ++ s) := by
  cases h with
  | item hb' hj hb'' => simpa using Written.item (hb.append hb') hj hb''
  | items hb' hj hb'' hjs => simpa using Written.items (hb.append hb') hj hb'' hjs

theorem IsKey.blank {k : Text.Points} {b f : List Char} (hb : Blank b) (h : IsKey k f) :
    IsKey k (b ++ f) := by
  obtain ⟨b₁, key, b₂, b₃, hb₁, hkey, hb₂, hb₃, rfl⟩ := h
  exact ⟨b ++ b₁, key, b₂, b₃, hb.append hb₁, hkey, hb₂, hb₃, by simp⟩

theorem Written.members_blank {ms : List (Text.Points × JsonValue)} {b s : List Char} (hb : Blank b)
    (h : Written (.members ms) s) : Written (.members ms) (b ++ s) := by
  cases h with
  | member hf hj hb' => simpa using Written.member (hf.blank hb) hj hb'
  | members hf hj hb' hms => simpa using Written.members (hf.blank hb) hj hb' hms

theorem written_of_readValue_succ {n : Nat}
    (hitems : ∀ {cs js rest}, readItems n cs = .ok (js, rest) →
      ∃ s, cs = s ++ ']' :: rest ∧ Written (.items js) s)
    (hmembers : ∀ {before cs ms rest}, readMembers n before cs = .ok (ms, rest) →
      ∃ raw s, cs = s ++ '\x7d' :: rest ∧ Written (.members raw) s ∧ ms = before.putAll raw)
    {cs rest : List Char} {j : JsonValue} (h : readValue (n + 1) cs = .ok (j, rest)) :
    ∃ s, cs = s ++ rest ∧ Written (.value j) s := by
  cases cs with
  | nil => cases h
  | cons c cs =>
    rw [readValue] at h
    obtain ⟨b, hb, hcs⟩ := skipSpace_spec cs
    split at h
    · next hquote =>
      obtain ⟨⟨ds, rest'⟩, hread, h⟩ := bind_eq_ok.mp h
      cases h
      obtain ⟨s, hs, hquoted⟩ := isQuoted_of_readText hread
      exact ⟨s, hquote ▸ hs, .text hquoted⟩
    split at h
    · next hbrace =>
      subst hbrace
      split at h
      · next rest' hend =>
        cases h
        rw [hend] at hcs
        exact ⟨'\x7b' :: b ++ ['\x7d'], by simp [hcs], .emptyObject hb⟩
      · obtain ⟨⟨ms, rest'⟩, hread, h⟩ := bind_eq_ok.mp h
        cases h
        obtain ⟨raw, s, hs, hraw, rfl⟩ := hmembers hread
        rw [hs] at hcs
        exact ⟨'\x7b' :: (b ++ s) ++ ['\x7d'], by simp [hcs], .object (hraw.members_blank hb)⟩
    split at h
    · next hbracket =>
      subst hbracket
      split at h
      · next rest' hend =>
        cases h
        rw [hend] at hcs
        exact ⟨'[' :: b ++ [']'], by simp [hcs], .emptyList hb⟩
      · obtain ⟨⟨js, rest'⟩, hread, h⟩ := bind_eq_ok.mp h
        cases h
        obtain ⟨s, hs, hjs⟩ := hitems hread
        rw [hs] at hcs
        exact ⟨'[' :: (b ++ s) ++ [']'], by simp [hcs], .list (hjs.items_blank hb)⟩
    · exact written_of_readPlain h

theorem written_of_readItems_succ {n : Nat}
    (hvalue : ∀ {cs j rest}, readValue n cs = .ok (j, rest) →
      ∃ s, cs = s ++ rest ∧ Written (.value j) s)
    (hitems : ∀ {cs js rest}, readItems n cs = .ok (js, rest) →
      ∃ s, cs = s ++ ']' :: rest ∧ Written (.items js) s)
    {cs rest : List Char} {js : List JsonValue} (h : readItems (n + 1) cs = .ok (js, rest)) :
    ∃ s, cs = s ++ ']' :: rest ∧ Written (.items js) s := by
  rw [readItems] at h
  obtain ⟨⟨j, behind⟩, hread, h⟩ := bind_eq_ok.mp h
  obtain ⟨s, hs, hj⟩ := hvalue hread
  obtain ⟨b, hb, hbehind⟩ := skipSpace_spec behind
  simp only at h
  split at h
  · next rest' hend =>
    cases h
    rw [hend] at hbehind
    exact ⟨[] ++ s ++ b, by simp [hs, hbehind], .item .nil hj hb⟩
  · next rest' hcomma =>
    obtain ⟨⟨js', rest''⟩, hmore, h⟩ := bind_eq_ok.mp h
    cases h
    obtain ⟨t, ht, hjs⟩ := hitems hmore
    obtain ⟨b', hb', hrest'⟩ := skipSpace_spec rest'
    rw [hcomma, hrest', ht] at hbehind
    exact ⟨[] ++ s ++ b ++ ',' :: (b' ++ t), by simp [hs, hbehind],
      .items .nil hj hb (hjs.items_blank hb')⟩
  · cases h

theorem written_of_readMembers_succ {n : Nat}
    (hvalue : ∀ {cs j rest}, readValue n cs = .ok (j, rest) →
      ∃ s, cs = s ++ rest ∧ Written (.value j) s)
    (hmembers : ∀ {before cs ms rest}, readMembers n before cs = .ok (ms, rest) →
      ∃ raw s, cs = s ++ '\x7d' :: rest ∧ Written (.members raw) s ∧ ms = before.putAll raw)
    {before ms : Members} {cs rest : List Char}
    (h : readMembers (n + 1) before cs = .ok (ms, rest)) :
    ∃ raw s, cs = s ++ '\x7d' :: rest ∧ Written (.members raw) s ∧ ms = before.putAll raw := by
  rw [readMembers.eq_def] at h
  simp only at h
  split at h
  · next after =>
    obtain ⟨⟨ds, behind⟩, hkey, h⟩ := bind_eq_ok.mp h
    obtain ⟨key, hfront, hquoted⟩ := isQuoted_of_readText hkey
    obtain ⟨b, hb, hbehind⟩ := skipSpace_spec behind
    simp only at h
    split at h
    · next value hcolon =>
      obtain ⟨⟨j, behind'⟩, hread, h⟩ := bind_eq_ok.mp h
      obtain ⟨b', hb', hvalues⟩ := skipSpace_spec value
      obtain ⟨s, hs, hj⟩ := hvalue hread
      obtain ⟨b'', hb'', hbehind'⟩ := skipSpace_spec behind'
      have hisKey : IsKey ⟨ds⟩ ([] ++ key ++ b ++ ':' :: b') :=
        ⟨[], key, b, b', .nil, hquoted, hb, hb', rfl⟩
      have hcs : '"' :: after = ([] ++ key ++ b ++ ':' :: b') ++ s ++ behind' := by
        rw [hfront, hbehind, hcolon, hvalues, hs]
        simp
      simp only at h
      split at h
      · next rest' hend =>
        cases h
        rw [hend] at hbehind'
        refine ⟨[(⟨ds⟩, j)], _, ?_, .member hisKey hj hb'', rfl⟩
        rw [hcs, hbehind']
        simp
      · next rest' hcomma =>
        obtain ⟨raw, t, ht, hraw, rfl⟩ := hmembers h
        obtain ⟨b₃, hb₃, hrest'⟩ := skipSpace_spec rest'
        rw [hcomma, hrest', ht] at hbehind'
        refine ⟨(⟨ds⟩, j) :: raw, _, ?_, .members hisKey hj hb'' (hraw.members_blank hb₃), rfl⟩
        rw [hcs, hbehind']
        simp
      · cases h
    · cases h
  · cases h

/-- What is read is written. -/
theorem written_of_read (n : Nat) :
    (∀ cs j rest, readValue n cs = .ok (j, rest) → ∃ s, cs = s ++ rest ∧ Written (.value j) s)
      ∧ (∀ cs js rest, readItems n cs = .ok (js, rest) →
        ∃ s, cs = s ++ ']' :: rest ∧ Written (.items js) s)
      ∧ ∀ before cs ms rest, readMembers n before cs = .ok (ms, rest) →
        ∃ raw s, cs = s ++ '\x7d' :: rest ∧ Written (.members raw) s ∧ ms = before.putAll raw := by
  induction n with
  | zero =>
    refine ⟨fun _ _ _ h => ?_, fun _ _ _ h => ?_, fun _ _ _ _ h => ?_⟩ <;> cases h
  | succ n ih =>
    obtain ⟨hvalue, hitems, hmembers⟩ := ih
    exact ⟨fun _ _ _ => written_of_readValue_succ (hitems _ _ _) (hmembers _ _ _ _),
      fun _ _ _ => written_of_readItems_succ (hvalue _ _ _) (hitems _ _ _),
      fun _ _ _ _ => written_of_readMembers_succ (hvalue _ _ _) (hmembers _ _ _ _)⟩

/-! ## What is written is read -/

/-- What can follow a value: nothing, a blank, or a sign that ends it. -/
def Follows (rest : List Char) : Prop :=
  ∀ c r, rest = c :: r → isSpace c ∨ c = ',' ∨ c = ']' ∨ c = '\x7d'

theorem Follows.not_continues {rest : List Char} (h : Follows rest) : ¬ Continues rest := by
  have hno : ∀ c, (isSpace c ∨ c = ',' ∨ c = ']' ∨ c = '\x7d') →
      ¬ c.isDigit ∧ c ≠ '.' ∧ c ≠ 'e' ∧ c ≠ 'E' := by
    intro c hc
    simp only [isSpace, Bool.or_eq_true, decide_eq_true_eq] at hc
    rcases hc with (((rfl | rfl) | rfl) | rfl) | rfl | rfl | rfl <;> decide
  intro hcontinues
  cases hcontinues with
  | digit hc => exact (hno _ (h _ _ rfl)).1 hc
  | fraction hc => exact (hno _ (h _ _ rfl)).2.1 rfl
  | exponent he hsign hc =>
    obtain ⟨-, -, hne, hne'⟩ := hno _ (h _ _ rfl)
    exact he.elim hne hne'

theorem follows_blank {b cs : List Char} (hb : Blank b) (h : Follows cs) : Follows (b ++ cs) := by
  cases b with
  | nil => exact h
  | cons c b =>
    rintro c' r heq
    rw [← (List.cons.inj heq).1]
    exact .inl (hb c List.mem_cons_self)

/-- A word or a number is read by `readPlain`. -/
theorem readValue_plain {c : Char} {cs : List Char} (n : Nat) (hquote : c ≠ '"')
    (hbrace : c ≠ '\x7b') (hbracket : c ≠ '[') :
    readValue (n + 1) (c :: cs) = readPlain (c :: cs) := by
  rw [readValue, if_neg hquote, if_neg hbrace, if_neg hbracket]

/-- A word is read as what it stands for. -/
theorem readValue_constant {w : String} {j : JsonValue} (n : Nat) (hw : (w, j) ∈ constants)
    (rest : List Char) : readValue (n + 1) (w.toList ++ rest) = .ok (j, rest) := by
  have hall : ∀ e ∈ constants.map Prod.fst,
      ∃ c r, e.toList = c :: r ∧ c ≠ '"' ∧ c ≠ '\x7b' ∧ c ≠ '[' := by
    simp [constants]
  obtain ⟨c, r, hfront, hquote, hbrace, hbracket⟩ := hall _ (List.mem_map.mpr ⟨_, hw, rfl⟩)
  have hfind := find?_constant hw rest
  have hdrop : (w.toList ++ rest).drop w.length = rest := by
    rw [← String.length_toList, List.drop_left]
  simp only [hfront, List.cons_append] at hfind hdrop ⊢
  rw [readValue_plain n hquote hbrace hbracket, readPlain, hfind]
  simp only [hdrop]

/-- A number is read by `readNumber`. -/
theorem readValue_eq_readNumber (negative : Bool) {whole : List Char} (n : Nat) (h : IsWhole whole)
    (rest : List Char) : readValue (n + 1) (signOf negative ++ whole ++ rest)
      = readNumber (signOf negative ++ whole ++ rest) := by
  have hplain : readPlain (signOf negative ++ whole ++ rest)
      = readNumber (signOf negative ++ whole ++ rest) := by
    unfold readPlain
    rw [find?_number h]
  rw [← hplain]
  obtain ⟨c, r, rfl, hc⟩ := h.front
  cases negative with
  | true => exact readValue_plain n (by decide) (by decide) (by decide)
  | false =>
    refine readValue_plain n ?_ ?_ ?_ <;>
      · rintro rfl
        cases hc

/-- A number is read as far as it goes. -/
theorem readValue_number (negative : Bool) {whole fraction exponent rest : List Char} (n : Nat)
    (hwhole : IsWhole whole) (hfraction : IsFraction fraction) (hexponent : IsExponent exponent)
    (hrest : ¬ Continues rest) :
    readValue (n + 1) (signOf negative ++ whole ++ fraction ++ exponent ++ rest) =
      if fraction = [] ∧ exponent = [] then
        if Number.digitLimit < whole.length then
          .error (.digits whole.length, signOf negative ++ whole ++ fraction ++ exponent ++ rest)
        else .ok (.int (Number.Double.signed negative (Text.digitsValue whole)), rest)
      else
        .ok (.float ((Number.readDouble?
          (String.ofList (signOf negative ++ whole ++ fraction ++ exponent))).getD 0), rest) := by
  rw [← readNumber_of_not_continues negative hwhole hfraction hexponent hrest]
  have hread := readValue_eq_readNumber negative n hwhole (fraction ++ (exponent ++ rest))
  simpa only [List.append_assoc] using hread

/-- A quoted text is read up to its last quote. -/
theorem IsQuoted.read {t : Text.Points} {s : List Char} (h : IsQuoted t s) (rest : List Char) :
    ∃ cs, s ++ rest = '"' :: cs
      ∧ ∀ start, readText start (cs.length + 1) cs = .ok (t.codes, rest) := by
  obtain ⟨ps, inside, hps, rfl, rfl⟩ := h
  refine ⟨inside ++ '"' :: rest, by simp, fun start => readText_of_isText hps ?_ start rest⟩
  simp

theorem Written.skipSpace_eq {j : JsonValue} {s : List Char} (h : Written (.value j) s)
    (rest : List Char) : skipSpace (s ++ rest) = s ++ rest := by
  obtain ⟨c, r, rfl, hc, -⟩ := h.begins
  exact skipSpace_cons hc

theorem skipSpace_blank_cons {b : List Char} (hb : Blank b) {c : Char} (hc : isSpace c = false)
    (cs : List Char) : skipSpace (b ++ c :: cs) = c :: cs := by
  rw [skipSpace_append hb, skipSpace_cons hc]

/-! Items and members are read one by one. -/

theorem readItems_last {n : Nat} {j : JsonValue} {cs b rest : List Char}
    (hvalue : readValue n cs = .ok (j, b ++ ']' :: rest)) (hb : Blank b) :
    readItems (n + 1) cs = .ok ([j], rest) := by
  rw [readItems, bind_of_ok hvalue]
  simp only [skipSpace_blank_cons hb (show isSpace ']' = false by decide)]
  rfl

theorem readItems_next {n : Nat} {j : JsonValue} {cs b more : List Char}
    (hvalue : readValue n cs = .ok (j, b ++ ',' :: more)) (hb : Blank b) :
    readItems (n + 1) cs =
      (readItems n (skipSpace more) >>= fun r => return (j :: r.1, r.2)) := by
  rw [readItems, bind_of_ok hvalue]
  simp only [skipSpace_blank_cons hb (show isSpace ',' = false by decide)]

/-- Behind its key, a member is read as its value, and then either the end or more members. -/
theorem readMembers_key (n : Nat) (before : Members) {k : Text.Points} {f : List Char}
    (hf : IsKey k f) (cs : List Char) : readMembers (n + 1) before (skipSpace (f ++ cs)) =
      (readValue n (skipSpace cs) >>= fun r =>
        match skipSpace r.2 with
        | '\x7d' :: rest => return (before.put k r.1, rest)
        | ',' :: rest => readMembers n (before.put k r.1) (skipSpace rest)
        | rest => .error (.comma, rest)) := by
  obtain ⟨b, key, b', b'', hb, hkey, hb', hb'', rfl⟩ := hf
  obtain ⟨inside, hinside, hread⟩ := hkey.read (b' ++ ':' :: (b'' ++ cs))
  have hfront : skipSpace (b ++ key ++ b' ++ ':' :: b'' ++ cs) = '"' :: inside := by
    have hshape :
        b ++ key ++ b' ++ ':' :: b'' ++ cs = b ++ (key ++ (b' ++ ':' :: (b'' ++ cs))) := by simp
    rw [hshape, hinside, skipSpace_blank_cons hb (by decide)]
  rw [hfront, readMembers.eq_def]
  simp only
  rw [bind_of_ok (hread _)]
  simp only [skipSpace_blank_cons hb' (show isSpace ':' = false by decide), skipSpace_append hb'']
    <;> rfl

theorem readMembers_last {n : Nat} (before : Members) {k : Text.Points} {j : JsonValue}
    {f cs b rest : List Char} (hf : IsKey k f)
    (hvalue : readValue n (skipSpace cs) = .ok (j, b ++ '\x7d' :: rest)) (hb : Blank b) :
    readMembers (n + 1) before (skipSpace (f ++ cs)) = .ok (before.put k j, rest) := by
  rw [readMembers_key n before hf, bind_of_ok hvalue]
  simp only [skipSpace_blank_cons hb (show isSpace '\x7d' = false by decide)]
  rfl

theorem readMembers_next {n : Nat} (before : Members) {k : Text.Points} {j : JsonValue}
    {f cs b more : List Char} (hf : IsKey k f)
    (hvalue : readValue n (skipSpace cs) = .ok (j, b ++ ',' :: more)) (hb : Blank b) :
    readMembers (n + 1) before (skipSpace (f ++ cs))
      = readMembers n (before.put k j) (skipSpace more) := by
  rw [readMembers_key n before hf, bind_of_ok hvalue]
  simp only [skipSpace_blank_cons hb (show isSpace ',' = false by decide)]

/-! The ends of values. -/

theorem follows_cons {c : Char} (h : c = ',' ∨ c = ']' ∨ c = '\x7d') {b : List Char} (hb : Blank b)
    (rest : List Char) : Follows (b ++ c :: rest) :=
  follows_blank hb fun _ _ heq => .inr ((List.cons.inj heq).1 ▸ h)

/-- How a part is read behind which its end stands. -/
def Part.IsRead : Part → List Char → Prop
  | .value j, s => ∀ n rest, 2 * s.length < n → Follows rest →
    readValue n (s ++ rest) = .ok (j, rest)
  | .items js, s => ∀ n rest, 2 * s.length + 1 < n →
    readItems n (skipSpace (s ++ ']' :: rest)) = .ok (js, rest)
  | .members ms, s => ∀ n before rest, 2 * s.length + 1 < n →
    readMembers n before (skipSpace (s ++ '\x7d' :: rest)) = .ok (before.putAll ms, rest)

/-- Items or members do not begin with the end of what they are in. -/
theorem Written.items_front {js : List JsonValue} {s : List Char} (h : Written (.items js) s)
    (rest : List Char) : ∀ r, skipSpace (s ++ rest) ≠ ']' :: r := by
  intro r heq
  have hfront {b s cs : List Char} {j : JsonValue} (hb : Blank b) (hj : Written (.value j) s)
      (heq : skipSpace (b ++ (s ++ cs)) = ']' :: r) : False := by
    obtain ⟨c, s, rfl, hc, hend, -⟩ := hj.begins
    rw [List.cons_append, skipSpace_blank_cons hb hc] at heq
    exact hend (List.cons.inj heq).1
  cases h with
  | item hb hj hb' =>
    rw [List.append_assoc, List.append_assoc] at heq
    exact hfront hb hj heq
  | items hb hj hb' hjs =>
    rw [List.append_assoc, List.append_assoc, List.append_assoc] at heq
    exact hfront hb hj heq

theorem IsKey.front {k : Text.Points} {f : List Char} (h : IsKey k f) (rest : List Char) :
    ∃ r, skipSpace (f ++ rest) = '"' :: r := by
  obtain ⟨b, key, b', b'', hb, ⟨ps, inside, -, -, rfl⟩, hb', hb'', rfl⟩ := h
  simp only [List.append_assoc, List.cons_append]
  exact ⟨_, skipSpace_blank_cons hb (by decide) _⟩

theorem Written.members_front {ms : List (Text.Points × JsonValue)} {s : List Char}
    (h : Written (.members ms) s) (rest : List Char) : ∃ r, skipSpace (s ++ rest) = '"' :: r := by
  cases h with
  | member hf hj hb =>
    rw [List.append_assoc, List.append_assoc]
    exact hf.front _
  | members hf hj hb hms =>
    rw [List.append_assoc, List.append_assoc, List.append_assoc]
    exact hf.front _

/-- The reader of a list and of an object. -/
theorem readValue_list {n : Nat} {cs : List Char} :
    readValue (n + 1) ('[' :: cs) =
      match skipSpace cs with
      | ']' :: rest => .ok (.list [], rest)
      | cs => readItems n cs >>= fun r => return (.list r.1, r.2) := by
  rw [readValue, if_neg (by decide), if_neg (by decide), if_pos rfl] <;> rfl

theorem readValue_object {n : Nat} {cs : List Char} :
    readValue (n + 1) ('\x7b' :: cs) =
      match skipSpace cs with
      | '\x7d' :: rest => .ok (.object [], rest)
      | cs => readMembers n [] cs >>= fun r => return (.object r.1, r.2) := by
  rw [readValue, if_neg (by decide), if_pos rfl] <;> rfl

/-- What is written is read. -/
theorem Written.isRead {p : Part} {s : List Char} (h : Written p s) : p.IsRead s := by
  induction h with
  | @constant w j hw =>
    intro n rest hn _
    obtain ⟨n, rfl⟩ := Nat.exists_eq_succ_of_ne_zero (Nat.ne_zero_of_lt hn)
    exact readValue_constant n hw rest
  | @int negative whole hwhole hlimit =>
    intro n rest hn hrest
    obtain ⟨n, rfl⟩ := Nat.exists_eq_succ_of_ne_zero (Nat.ne_zero_of_lt hn)
    have hread := readValue_number negative n hwhole (.inl rfl) (.inl rfl)
      hrest.not_continues
    simp only [List.append_nil] at hread
    rw [hread, if_pos ⟨trivial, trivial⟩, if_neg (Nat.not_lt.mpr hlimit)]
  | @float negative whole fraction exponent s hwhole hfraction hexponent hne hs =>
    intro n rest hn hrest
    obtain ⟨n, rfl⟩ := Nat.exists_eq_succ_of_ne_zero (Nat.ne_zero_of_lt hn)
    rw [hs, readValue_number _ n hwhole hfraction hexponent hrest.not_continues, if_neg]
    rwa [← List.append_eq_nil_iff]
  | @text t s hquoted =>
    intro n rest hn _
    obtain ⟨n, rfl⟩ := Nat.exists_eq_succ_of_ne_zero (Nat.ne_zero_of_lt hn)
    obtain ⟨cs, hcs, hread⟩ := hquoted.read rest
    rw [hcs, readValue, if_pos rfl, bind_of_ok (hread _)]
    rfl
  | @emptyList b hb =>
    intro n rest hn _
    obtain ⟨n, rfl⟩ := Nat.exists_eq_succ_of_ne_zero (Nat.ne_zero_of_lt hn)
    have hshape : '[' :: b ++ [']'] ++ rest = '[' :: (b ++ ']' :: rest) := by simp
    rw [hshape, readValue_list, skipSpace_blank_cons hb (by decide)]
    rfl
  | @list js s hjs ih =>
    intro n rest hn _
    obtain ⟨n, rfl⟩ := Nat.exists_eq_succ_of_ne_zero (Nat.ne_zero_of_lt hn)
    have hshape : '[' :: s ++ [']'] ++ rest = '[' :: (s ++ ']' :: rest) := by simp
    simp only [List.length_append, List.length_cons] at hn
    rw [hshape, readValue_list]
    split
    · next heq => exact absurd heq (hjs.items_front _ _)
    · rw [bind_of_ok (ih n rest (by omega))]
      rfl
  | @emptyObject b hb =>
    intro n rest hn _
    obtain ⟨n, rfl⟩ := Nat.exists_eq_succ_of_ne_zero (Nat.ne_zero_of_lt hn)
    have hshape : '\x7b' :: b ++ ['\x7d'] ++ rest = '\x7b' :: (b ++ '\x7d' :: rest) := by simp
    rw [hshape, readValue_object, skipSpace_blank_cons hb (by decide)]
    rfl
  | @object ms s hms ih =>
    intro n rest hn _
    obtain ⟨n, rfl⟩ := Nat.exists_eq_succ_of_ne_zero (Nat.ne_zero_of_lt hn)
    have hshape : '\x7b' :: s ++ ['\x7d'] ++ rest = '\x7b' :: (s ++ '\x7d' :: rest) := by simp
    simp only [List.length_append, List.length_cons] at hn
    rw [hshape, readValue_object]
    split
    · next heq =>
      obtain ⟨r, hr⟩ := hms.members_front ('\x7d' :: rest)
      rw [hr] at heq
      cases heq
    · rw [bind_of_ok (ih n [] rest (by omega))]
      rfl
  | @item j b s b' hb hj hb' ih =>
    intro n rest hn
    obtain ⟨n, rfl⟩ := Nat.exists_eq_succ_of_ne_zero (Nat.ne_zero_of_lt hn)
    have hshape : b ++ s ++ b' ++ ']' :: rest = b ++ (s ++ (b' ++ ']' :: rest)) := by simp
    simp only [List.length_append] at hn
    rw [hshape, skipSpace_append hb, hj.skipSpace_eq]
    exact readItems_last (ih n _ (by omega) (follows_cons (by decide) hb' _)) hb'
  | @items j js b s b' t hb hj hb' hjs ih ihs =>
    intro n rest hn
    obtain ⟨n, rfl⟩ := Nat.exists_eq_succ_of_ne_zero (Nat.ne_zero_of_lt hn)
    have hshape : b ++ s ++ b' ++ ',' :: t ++ ']' :: rest
        = b ++ (s ++ (b' ++ ',' :: (t ++ ']' :: rest))) := by simp
    simp only [List.length_append, List.length_cons] at hn
    rw [hshape, skipSpace_append hb, hj.skipSpace_eq,
      readItems_next (ih n _ (by omega) (follows_cons (by decide) hb' _)) hb',
      bind_of_ok (ihs n rest (by omega))]
    rfl
  | @member k j f s b hf hj hb ih =>
    intro n before rest hn
    obtain ⟨n, rfl⟩ := Nat.exists_eq_succ_of_ne_zero (Nat.ne_zero_of_lt hn)
    have hshape : f ++ s ++ b ++ '\x7d' :: rest = f ++ (s ++ (b ++ '\x7d' :: rest)) := by simp
    simp only [List.length_append] at hn
    rw [hshape]
    refine readMembers_last before hf ?_ hb
    rw [hj.skipSpace_eq]
    exact ih n _ (by omega) (follows_cons (by decide) hb _)
  | @members k j ms f s b t hf hj hb hms ih ihs =>
    intro n before rest hn
    obtain ⟨n, rfl⟩ := Nat.exists_eq_succ_of_ne_zero (Nat.ne_zero_of_lt hn)
    have hshape : f ++ s ++ b ++ ',' :: t ++ '\x7d' :: rest
        = f ++ (s ++ (b ++ ',' :: (t ++ '\x7d' :: rest))) := by simp
    simp only [List.length_append, List.length_cons] at hn
    have hvalue : readValue n (skipSpace (s ++ (b ++ ',' :: (t ++ '\x7d' :: rest))))
        = .ok (j, b ++ ',' :: (t ++ '\x7d' :: rest)) := by
      rw [hj.skipSpace_eq]
      exact ih n _ (by omega) (follows_cons (by decide) hb _)
    rw [hshape, readMembers_next before hf hvalue hb]
    exact ihs n _ rest (by omega)

/-! ## Whole texts -/

/-- A text that begins as a value, with blanks in front, does not begin with a mark. -/
theorem not_mark {b s : List Char} (hb : Blank b) (hs : ∃ c r, s = c :: r ∧ Begins c)
    (rest : List Char) : (b ++ s ++ rest).head? ≠ some (Char.ofNat 0xFEFF) := by
  obtain ⟨c, r, rfl, hc⟩ := hs
  cases b with
  | nil => exact fun h => hc.2.2 (Option.some.inj h)
  | cons d b =>
    intro h
    have hd := hb d List.mem_cons_self
    rw [Option.some.inj h] at hd
    exact absurd hd (by decide)

/-- A text is read if it is a value with blanks around it. -/
theorem parse_eq_ok_iff {cs : List Char} {j : JsonValue} : parse cs = .ok j ↔ IsJson cs j := by
  unfold parse
  constructor
  · intro h
    split at h
    · cases h
    split at h
    · cases h
    next j' rest hread =>
    split at h
    · next hrest =>
      cases h
      obtain ⟨b, hb, hcs⟩ := skipSpace_spec cs
      obtain ⟨b', hb', hrest'⟩ := skipSpace_spec rest
      obtain ⟨s, hs, hj⟩ := (written_of_read _).1 _ _ _ hread
      rw [hrest, List.append_nil] at hrest'
      exact ⟨b, s, b', hb, hj, hb', by rw [hcs, hs, hrest', List.append_assoc]⟩
    · cases h
  · rintro ⟨b, s, b', hb, hj, hb', rfl⟩
    rw [if_neg (not_mark hb hj.begins b')]
    have hfuel : 2 * s.length < 2 * (b ++ s ++ b').length + 1 := by
      simp only [List.length_append]
      omega
    have hread := hj.isRead _ b' hfuel (fun c r heq => .inl (hb' c (heq ▸ List.mem_cons_self)))
    rw [List.append_assoc, skipSpace_append hb, hj.skipSpace_eq, ← List.append_assoc, hread]
    simp only [skipSpace_blank hb']

end BraceScript.JsonValue
