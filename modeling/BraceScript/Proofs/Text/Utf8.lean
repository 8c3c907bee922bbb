import BraceScript.Text.Encoding
import Mathlib

/-!
# Reading UTF-8

`utf8Front` looks at the front of some bytes. Two facts about it carry everything here: more bytes
behind the front do not change what it finds, unless the front is cut off (`utf8Front_append`), and
it finds the character whose bytes stand there (`utf8Front_encodeChar`).

`Reads x cs r` says that the bytes `x` are the characters `cs` and then the bytes `r`. Reading at
once and reading block by block both succeed exactly when `Reads` goes up to the end
(`decodeUtf8_eq_ok_iff`, `decodeUtf8Blocks_eq_ok_iff`), so they give the same characters.
-/

namespace BraceScript.Text

/-! ## One character -/


/-- More bytes do not change how a character goes on, unless it is cut off. -/
theorem utf8Rest_append {value width low high n : Nat} {x : List UInt8}
    (h : utf8Rest value width low high n x ≠ .cut) (y : List UInt8) :
    utf8Rest value width low high n (x ++ y) = utf8Rest value width low high n x := by
  induction n generalizing value width low high x with
  | zero => rfl
  | succ n ih =>
    cases x with
    | nil => exact absurd rfl h
    | cons b bs =>
      simp only [utf8Rest, List.cons_append] at h ⊢
      split at h
      · next hb =>
        rw [if_pos hb, if_pos hb]
        exact ih h
      · next hb => rw [if_neg hb, if_neg hb]

theorem utf8Rest_width {value width low high n w : Nat} {x : List UInt8} {c : Char}
    (h : utf8Rest value width low high n x = .char c w) : w = width + n ∧ n ≤ x.length := by
  induction n generalizing value width low high x with
  | zero =>
    simp only [utf8Rest, Utf8Front.char.injEq] at h
    simp [h.2]
  | succ n ih =>
    cases x with
    | nil => simp [utf8Rest] at h
    | cons b bs =>
      simp only [utf8Rest] at h
      split at h
      · have := ih h
        simp only [List.length_cons]
        omega
      · simp at h

/-- More bytes do not change the front, unless it is cut off. -/
theorem utf8Front_append {x : List UInt8} (h : utf8Front x ≠ .cut) (y : List UInt8) :
    utf8Front (x ++ y) = utf8Front x := by
  cases x with
  | nil => exact absurd rfl h
  | cons b bs =>
    simp only [utf8Front, List.cons_append] at h ⊢
    split_ifs at h ⊢
    all_goals try rfl
    all_goals exact utf8Rest_append h y

/-- A character takes at least one byte, and no more than there are. -/
theorem utf8Front_width {x : List UInt8} {c : Char} {w : Nat} (h : utf8Front x = .char c w) :
    0 < w ∧ w ≤ x.length := by
  cases x with
  | nil => simp [utf8Front] at h
  | cons b bs =>
    simp only [utf8Front] at h
    simp only [List.length_cons]
    split_ifs at h
    · simp only [Utf8Front.char.injEq] at h
      omega
    all_goals
      have := utf8Rest_width h
      omega

theorem toNat_byte {n : Nat} (h : n < 256) : (UInt8.ofNat n).toNat = n := by
  simpa using Nat.mod_eq_of_lt h


/-- A continuation byte within its bounds is taken over. -/
theorem utf8Rest_ofNat {value width low high n v : Nat} {x : List UInt8} (h1 : low ≤ v)
    (h2 : v ≤ high) (h3 : v < 256) :
    utf8Rest value width low high (n + 1) (UInt8.ofNat v :: x)
      = utf8Rest (value * 64 + (v - 0x80)) (width + 1) 0x80 0xBF n x := by
  simp only [utf8Rest, toNat_byte h3]
  rw [if_pos (by simp [h1, h2])]

/-- A written character is read back, whatever follows it. -/
theorem utf8Front_encodeChar (c : Char) (rest : List UInt8) :
    utf8Front (String.utf8EncodeChar c ++ rest) = .char c (String.utf8EncodeChar c).length := by
  have hv : c.val.toNat < 0xD800 ∨ 0xDFFF < c.val.toNat ∧ c.val.toNat < 0x110000 := c.valid
  have hc : Char.ofNat c.val.toNat = c := Char.ofNat_toNat c
  simp only [String.utf8EncodeChar]
  generalize c.val.toNat = v at *
  split_ifs with h1 h2 h3
  · simp only [List.cons_append, List.nil_append, utf8Front, toNat_byte (show v < 256 by omega)]
    rw [if_pos (by omega), hc]
    rfl
  · simp only [List.cons_append, List.nil_append, utf8Front]
    rw [toNat_byte (by omega), if_neg (by omega), if_neg (by omega), if_pos (by omega),
      utf8Rest_ofNat (by omega) (by omega) (by omega)]
    simp only [utf8Rest]
    rw [show (v / 64 % 32 + 192 - 192) * 64 + (v % 64 + 128 - 128) = v by omega, hc]
    rfl
  · simp only [List.cons_append, List.nil_append, utf8Front]
    rw [toNat_byte (by omega), if_neg (by omega), if_neg (by omega), if_neg (by omega),
      if_pos (by omega), utf8Rest_ofNat (by split <;> omega) (by split <;> omega) (by omega),
      utf8Rest_ofNat (by omega) (by omega) (by omega)]
    simp only [utf8Rest]
    rw [show ((v / 4096 % 16 + 224 - 224) * 64 + (v / 64 % 64 + 128 - 128)) * 64
      + (v % 64 + 128 - 128) = v by omega, hc]
    rfl
  · simp only [List.cons_append, List.nil_append, utf8Front]
    rw [toNat_byte (by omega), if_neg (by omega), if_neg (by omega), if_neg (by omega),
      if_neg (by omega), if_pos (by omega),
      utf8Rest_ofNat (by split <;> omega) (by split <;> omega) (by omega),
      utf8Rest_ofNat (by omega) (by omega) (by omega),
      utf8Rest_ofNat (by omega) (by omega) (by omega)]
    simp only [utf8Rest]
    rw [show (((v / 262144 % 8 + 240 - 240) * 64 + (v / 4096 % 64 + 128 - 128)) * 64
      + (v / 64 % 64 + 128 - 128)) * 64 + (v % 64 + 128 - 128) = v by omega, hc]
    rfl

/-! ## Reading characters one after the other -/

/-- `Reads x cs r`: the bytes `x` are the characters `cs` in UTF-8, and then the bytes `r`. -/
inductive Reads : List UInt8 → List Char → List UInt8 → Prop
  | done (x : List UInt8) : Reads x [] x
  | char {x r : List UInt8} {c : Char} {w : Nat} {cs : List Char} :
    utf8Front x = .char c w → Reads (x.drop w) cs r → Reads x (c :: cs) r

theorem Reads.append {x r : List UInt8} {cs : List Char} (h : Reads x cs r) (y : List UInt8) :
    Reads (x ++ y) cs (r ++ y) := by
  induction h with
  | done x => exact .done _
  | @char x r c w cs hf _ ih =>
    have hw := utf8Front_width hf
    refine .char (w := w) ?_ ?_
    · rw [utf8Front_append (by simp [hf]), hf]
    · rw [List.drop_append_of_le_length hw.2]
      exact ih

theorem Reads.trans {x y z : List UInt8} {cs ds : List Char} (h : Reads x cs y)
    (h' : Reads y ds z) : Reads x (cs ++ ds) z := by
  induction h with
  | done x => exact h'
  | char hf _ ih => exact .char hf (ih h')

/-- Nothing can be read where no character begins. -/
theorem Reads.eq_nil {x r : List UInt8} {cs : List Char} (h : Reads x cs r)
    (hx : ∀ c w, utf8Front x ≠ .char c w) : cs = [] ∧ r = x := by
  cases h with
  | done => exact ⟨rfl, rfl⟩
  | char hf _ => exact absurd hf (hx _ _)

/-- Whoever reads on to the end reads through every place where someone else stopped. -/
theorem Reads.rest {x r : List UInt8} {cs ds : List Char} (h : Reads x cs r)
    (h' : Reads x ds []) : ∃ es, ds = cs ++ es ∧ Reads r es [] := by
  induction h generalizing ds with
  | done x => exact ⟨ds, rfl, h'⟩
  | @char x r c w cs hf _ ih =>
    cases h' with
    | done => simp [utf8Front] at hf
    | @char _ _ c' w' ds hf' ht =>
      rw [hf, Utf8Front.char.injEq] at hf'
      obtain ⟨rfl, rfl⟩ := hf'
      obtain ⟨es, rfl, hes⟩ := ih ht
      exact ⟨es, rfl, hes⟩

/-! ## Whole files and blocks -/

/-- Where a reader stops without an error; `more` says whether more bytes may come. -/
def Stops (more : Bool) (r : List UInt8) : Prop :=
  utf8Front r = .cut ∨ more = true ∧ isHalfSurrogate r = true ∧ ∃ w s, utf8Front r = .bad w s

/-- Where a reader gives up. -/
def GivesUp (r : List UInt8) : Prop := ∃ w s, utf8Front r = .bad w s

theorem utf8Loop_ok {more : Bool} {pos n : Nat} {before out : List Char} {x r : List UInt8}
    (h : utf8Loop more pos before x n = .ok (out, r)) (hn : x.length ≤ n) :
    ∃ cs, out = cs.reverse ++ before ∧ Reads x cs r ∧ Stops more r := by
  induction n generalizing pos before x with
  | zero =>
    simp only [utf8Loop, Except.ok.injEq, Prod.mk.injEq] at h
    obtain ⟨rfl, rfl⟩ := h
    obtain rfl : x = [] := List.length_eq_zero_iff.mp (by omega)
    exact ⟨[], rfl, .done _, .inl rfl⟩
  | succ n ih =>
    simp only [utf8Loop] at h
    split at h
    · simp only [Except.ok.injEq, Prod.mk.injEq] at h
      obtain ⟨rfl, rfl⟩ := h
      exact ⟨[], rfl, .done _, .inl rfl⟩
    · next b bs =>
      split at h
      · next c w hf =>
        have hw := utf8Front_width hf
        obtain ⟨cs, rfl, hr, hs⟩ := ih h (by simp only [List.length_drop]; omega)
        exact ⟨c :: cs, by simp, .char hf hr, hs⟩
      · next hf =>
        simp only [Except.ok.injEq, Prod.mk.injEq] at h
        obtain ⟨rfl, rfl⟩ := h
        exact ⟨[], rfl, .done _, .inl hf⟩
      · next w s hf =>
        split at h
        · next hm =>
          simp only [Except.ok.injEq, Prod.mk.injEq] at h
          obtain ⟨rfl, rfl⟩ := h
          rw [Bool.and_eq_true] at hm
          exact ⟨[], rfl, .done _, .inr ⟨hm.1, hm.2, w, s, hf⟩⟩
        · simp at h

theorem utf8Loop_error {more : Bool} {pos n : Nat} {before : List Char} {x : List UInt8}
    {e : DecodeError} (h : utf8Loop more pos before x n = .error e) :
    ∃ cs r, Reads x cs r ∧ GivesUp r := by
  induction n generalizing pos before x with
  | zero => simp [utf8Loop] at h
  | succ n ih =>
    simp only [utf8Loop] at h
    split at h
    · simp at h
    · next b bs =>
      split at h
      · next c w hf =>
        obtain ⟨cs, r, hr, hg⟩ := ih h
        exact ⟨c :: cs, r, .char hf hr, hg⟩
      · simp at h
      · next w s hf => exact ⟨[], _, .done _, w, s, hf⟩

theorem utf8Block_ok {more : Bool} {x r : List UInt8} {cs : List Char}
    (h : utf8Block more x = .ok (cs, r)) : Reads x cs r ∧ Stops more r := by
  unfold utf8Block at h
  cases hl : utf8Loop more 0 [] x x.length with
  | error e => simp [hl, Except.map] at h
  | ok p =>
    obtain ⟨out, rest⟩ := p
    simp only [hl, Except.map, Except.ok.injEq, Prod.mk.injEq] at h
    obtain ⟨rfl, rfl⟩ := h
    obtain ⟨cs, rfl, hr, hs⟩ := utf8Loop_ok hl le_rfl
    exact ⟨by simpa using hr, hs⟩

theorem utf8Block_error {more : Bool} {x : List UInt8} {e : DecodeError}
    (h : utf8Block more x = .error e) : ∃ cs r, Reads x cs r ∧ GivesUp r := by
  unfold utf8Block at h
  cases hl : utf8Loop more 0 [] x x.length with
  | error e => exact utf8Loop_error hl
  | ok p => simp [hl, Except.map] at h

/-- After an error no more bytes make a text. -/
theorem GivesUp.not_reads {x r y : List UInt8} {cs ds : List Char} (hr : Reads x cs r)
    (hg : GivesUp r) : ¬ Reads (x ++ y) ds [] := by
  intro h
  obtain ⟨w, s, hf⟩ := hg
  obtain ⟨es, -, he⟩ := (hr.append y).rest h
  have hfy : utf8Front (r ++ y) = .bad w s := by rw [utf8Front_append (by simp [hf]), hf]
  obtain ⟨-, hnil⟩ := he.eq_nil (by simp [hfy])
  rw [← hnil] at hfy
  simp [utf8Front] at hfy

/-- Bytes are read as UTF-8 exactly when characters can be read up to their end. -/
theorem decodeUtf8_eq_ok_iff {x : List UInt8} {cs : List Char} :
    decodeUtf8 x = .ok cs ↔ Reads x cs [] := by
  unfold decodeUtf8
  split
  · next e he =>
    obtain ⟨ds, r, hr, hg⟩ := utf8Block_error he
    refine ⟨by simp, fun h => ?_⟩
    exact absurd (by simpa using h) (hg.not_reads (y := []) hr)
  · next ds hb =>
    obtain ⟨hr, -⟩ := utf8Block_ok hb
    refine ⟨fun h => ?_, fun h => ?_⟩
    · rw [Except.ok.injEq] at h
      exact h ▸ hr
    · obtain ⟨es, rfl, he⟩ := hr.rest h
      obtain ⟨rfl, -⟩ := he.eq_nil (by simp [utf8Front])
      rw [List.append_nil]
  · next ds r hne hb =>
    obtain ⟨hr, hs⟩ := utf8Block_ok hb
    refine ⟨by simp, fun h => ?_⟩
    obtain ⟨es, -, he⟩ := hr.rest h
    have hcut : utf8Front r = .cut := by simpa [Stops] using hs
    obtain ⟨-, hnil⟩ := he.eq_nil (by simp [hcut])
    exact absurd (hnil ▸ rfl) hne

/-- Reading block by block gives what reading at once gives: the bytes of a character that is cut
off at the end of a block are read with the next one. -/
theorem decodeUtf8Blocks_eq_ok_iff {held : List UInt8} {bs : List (List UInt8)}
    {cs : List Char} :
    decodeUtf8Blocks held bs = .ok cs ↔ Reads (held ++ bs.flatten) cs [] := by
  induction bs generalizing held cs with
  | nil => rw [decodeUtf8Blocks, decodeUtf8_eq_ok_iff, List.flatten_nil, List.append_nil]
  | cons b bs ih =>
    simp only [decodeUtf8Blocks, List.flatten_cons, ← List.append_assoc]
    split
    · next e he =>
      obtain ⟨ds, r, hr, hg⟩ := utf8Block_error he
      exact ⟨by simp, fun h => absurd h (hg.not_reads hr)⟩
    · next ds r hb =>
      obtain ⟨hr, -⟩ := utf8Block_ok hb
      have hr := hr.append bs.flatten
      constructor
      · intro h
        cases hd : decodeUtf8Blocks r bs with
        | error e => simp [hd, Except.map] at h
        | ok es =>
          simp only [hd, Except.map, Except.ok.injEq] at h
          exact h ▸ hr.trans (ih.mp hd)
      · intro h
        obtain ⟨es, rfl, he⟩ := hr.rest h
        rw [ih.mpr he]
        rfl

/-- What is written in UTF-8 is read back. -/
theorem reads_encodeUtf8 (cs : List Char) (r : List UInt8) : Reads (encodeUtf8 cs ++ r) cs r := by
  induction cs with
  | nil => exact .done r
  | cons c cs ih =>
    simp only [encodeUtf8, List.flatMap_cons, List.append_assoc] at ih ⊢
    refine .char (utf8Front_encodeChar c _) ?_
    rw [List.drop_left]
    exact ih

/-! ## The bytes of characters -/

/-- A byte inside a character. -/
theorem utf8Rest_eq_char {value width low high n w : Nat} {x : List UInt8} {c : Char}
    (h : utf8Rest value width low high (n + 1) x = .char c w) :
    ∃ b bs, x = b :: bs ∧ low ≤ b.toNat ∧ b.toNat ≤ high
      ∧ utf8Rest (value * 64 + (b.toNat - 0x80)) (width + 1) 0x80 0xBF n bs = .char c w := by
  cases x with
  | nil => cases h
  | cons b bs =>
    rw [utf8Rest] at h
    split at h
    · next hb =>
      simp only [Bool.and_eq_true, decide_eq_true_eq] at hb
      exact ⟨b, bs, rfl, hb.1, hb.2, h⟩
    · cases h

theorem toNat_val_ofNat {v : Nat} (hv : v.isValidChar) : (Char.ofNat v).val.toNat = v := by
  rw [Char.ofNat, dif_pos hv]
  rfl

theorem ofNat_eq_byte (b : UInt8) {n : Nat} (h : n = b.toNat) : UInt8.ofNat n = b := by
  rw [h]
  exact UInt8.ofNat_toNat

/-- A character that is read is written at the front. -/
theorem utf8Front_eq_char {x : List UInt8} {c : Char} {w : Nat} (h : utf8Front x = .char c w) :
    x = String.utf8EncodeChar c ++ x.drop w := by
  cases x with
  | nil => cases h
  | cons a x =>
    have ha := a.toNat_lt
    simp only [utf8Front] at h
    split at h
    · obtain ⟨rfl, rfl⟩ := Utf8Front.char.inj h
      have hv : (Char.ofNat a.toNat).val.toNat = a.toNat := toNat_val_ofNat (.inl (by omega))
      simp only [String.utf8EncodeChar, hv]
      rw [if_pos (by omega), ofNat_eq_byte a rfl]
      rfl
    split at h
    · cases h
    split at h
    · obtain ⟨b, x, rfl, hb, hb', h⟩ := utf8Rest_eq_char h
      obtain ⟨rfl, rfl⟩ := Utf8Front.char.inj h
      rw [String.utf8EncodeChar, toNat_val_ofNat (.inl (by omega))]
      rw [if_neg (by omega), if_pos (by omega), ofNat_eq_byte a (by omega),
        ofNat_eq_byte b (by omega)]
      rfl
    split at h
    · obtain ⟨b, x, rfl, hb, hb', h⟩ := utf8Rest_eq_char h
      obtain ⟨d, x, rfl, hd, hd', h⟩ := utf8Rest_eq_char h
      obtain ⟨rfl, rfl⟩ := Utf8Front.char.inj h
      have hlow : 0x80 ≤ b.toNat ∧ (a.toNat = 0xE0 → 0xA0 ≤ b.toNat) := by
        split at hb <;> omega
      have hhigh : b.toNat ≤ 0xBF ∧ (a.toNat = 0xED → b.toNat ≤ 0x9F) := by
        split at hb' <;> omega
      have hvalid :
          (((a.toNat - 0xE0) * 64 + (b.toNat - 0x80)) * 64 + (d.toNat - 0x80)).isValidChar := by
        unfold Nat.isValidChar
        omega
      rw [String.utf8EncodeChar, toNat_val_ofNat hvalid]
      rw [if_neg (by omega), if_neg (by omega), if_pos (by omega), ofNat_eq_byte a (by omega),
        ofNat_eq_byte b (by omega), ofNat_eq_byte d (by omega)]
      rfl
    split at h
    · obtain ⟨b, x, rfl, hb, hb', h⟩ := utf8Rest_eq_char h
      obtain ⟨d, x, rfl, hd, hd', h⟩ := utf8Rest_eq_char h
      obtain ⟨e, x, rfl, he, he', h⟩ := utf8Rest_eq_char h
      obtain ⟨rfl, rfl⟩ := Utf8Front.char.inj h
      have hlow : 0x80 ≤ b.toNat ∧ (a.toNat = 0xF0 → 0x90 ≤ b.toNat) := by
        split at hb <;> omega
      have hhigh : b.toNat ≤ 0xBF ∧ (a.toNat = 0xF4 → b.toNat ≤ 0x8F) := by
        split at hb' <;> omega
      have hvalid : ((((a.toNat - 0xF0) * 64 + (b.toNat - 0x80)) * 64 + (d.toNat - 0x80)) * 64
          + (e.toNat - 0x80)).isValidChar := by
        unfold Nat.isValidChar
        omega
      rw [String.utf8EncodeChar, toNat_val_ofNat hvalid]
      rw [if_neg (by omega), if_neg (by omega), if_neg (by omega), ofNat_eq_byte a (by omega),
        ofNat_eq_byte b (by omega), ofNat_eq_byte d (by omega), ofNat_eq_byte e (by omega)]
      rfl
    · cases h

theorem Reads.eq_append {x r : List UInt8} {cs : List Char} (h : Reads x cs r) :
    x = encodeUtf8 cs ++ r := by
  induction h with
  | done x => rfl
  | @char x r c w cs hfront _ ih =>
    rw [utf8Front_eq_char hfront, ih, encodeUtf8, encodeUtf8, List.flatMap_cons, List.append_assoc]

/-- Bytes are read as UTF-8 exactly when they are the bytes of some characters. -/
theorem decodeUtf8_eq_ok_iff_encodeUtf8 {x : List UInt8} {cs : List Char} :
    decodeUtf8 x = .ok cs ↔ x = encodeUtf8 cs := by
  rw [decodeUtf8_eq_ok_iff]
  constructor
  · intro h
    rw [h.eq_append, List.append_nil]
  · rintro rfl
    simpa using reads_encodeUtf8 cs []

end BraceScript.Text
