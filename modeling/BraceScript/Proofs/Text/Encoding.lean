import BraceScript.Proofs.Text.Utf8

/-!
# Reading what was written

Two things are needed of every encoding. A file that is read block by block is the text that it is
as a whole (`Encoding.decodeInBlocks_eq_ok_iff`). And a text that was read in an encoding, or is
made of characters that were, can be written in it and read back (`Encoding.decode_encode`); a
byte-order mark is written in front and left out again.
-/

namespace BraceScript.Text

/-! ## Blocks -/

/-- The blocks of a file are the file. -/
theorem flatten_blocks {bytes : List UInt8} {n : Nat} (h : bytes.length ≤ n) :
    (blocks bytes n).flatten = bytes := by
  induction n generalizing bytes with
  | zero =>
    obtain rfl : bytes = [] := List.length_eq_zero_iff.mp (by omega)
    rfl
  | succ n ih =>
    simp only [blocks]
    split
    · next hb => rw [List.isEmpty_iff.mp hb]; rfl
    · next hb =>
      have hpos : 0 < bytes.length := by
        rw [List.isEmpty_iff] at hb
        exact List.length_pos_iff.mpr hb
      have hdrop : (bytes.drop blockSize).length ≤ n := by
        simp only [List.length_drop, blockSize]
        omega
      rw [List.flatten_cons, ih hdrop, List.take_append_drop]

/-- The mark stands in the first block, if it is there at all. -/
theorem dropMark_append {x y : List UInt8} (h : y = [] ∨ 3 ≤ x.length) :
    dropMark x ++ y = dropMark (x ++ y) := by
  rcases h with rfl | h
  · simp
  · unfold dropMark
    have hlen : ¬ (x ++ y).length < 3 := by simp only [List.length_append]; omega
    rw [if_neg (by omega), if_neg hlen, List.take_append_of_le_length h]
    split
    · rw [List.drop_append_of_le_length h]
    · rfl

/-- Only the last block is short. -/
theorem blocks_cons {bytes b : List UInt8} {bs : List (List UInt8)} {n : Nat}
    (h : blocks bytes n = b :: bs) : bs.flatten = [] ∨ 3 ≤ b.length := by
  cases n with
  | zero => simp [blocks] at h
  | succ n =>
    simp only [blocks] at h
    split at h
    · simp at h
    · rw [List.cons.injEq] at h
      obtain ⟨rfl, rfl⟩ := h
      by_cases hlen : 3 ≤ bytes.length
      · right
        simp only [List.length_take, blockSize]
        omega
      · left
        rw [List.drop_eq_nil_of_le (by simp only [blockSize]; omega)]
        cases n <;> rfl

/-! ## ASCII -/

theorem decodeAscii_eq_ok_iff {pos : Nat} {bs : List UInt8} {cs : List Char} :
    decodeAscii pos bs = .ok cs ↔
      (∀ b ∈ bs, b < 0x80) ∧ cs = bs.map fun b => Char.ofNat b.toNat := by
  induction bs generalizing pos cs with
  | nil => simp [decodeAscii, eq_comm]
  | cons b bs ih =>
    simp only [decodeAscii]
    split
    · next hb =>
      cases hd : decodeAscii (pos + 1) bs with
      | error e =>
        have hno : ¬ ∀ b ∈ bs, b < 0x80 := fun hall => by
          rw [ih.mpr ⟨hall, rfl⟩] at hd
          cases hd
        simp only [Except.map, reduceCtorEq, List.mem_cons, forall_eq_or_imp, false_iff]
        exact fun h => hno h.1.2
      | ok ds =>
        obtain ⟨hall, rfl⟩ := ih.mp hd
        simp only [Except.map, Except.ok.injEq, List.mem_cons, forall_eq_or_imp, List.map_cons]
        exact ⟨fun h => ⟨⟨hb, hall⟩, h.symm⟩, fun h => h.2.symm⟩
    · next hb => simp [hb]

theorem decodeAsciiBlocks_eq_ok_iff {bs : List (List UInt8)} {cs : List Char} :
    decodeAsciiBlocks bs = .ok cs ↔ decodeAscii 0 bs.flatten = .ok cs := by
  induction bs generalizing cs with
  | nil => simp [decodeAsciiBlocks, decodeAscii]
  | cons b bs ih =>
    simp only [decodeAsciiBlocks, List.flatten_cons]
    cases hb : decodeAscii 0 b with
    | error e =>
      have hno : ¬ ∀ c ∈ b, c < 0x80 := fun hall => by
        rw [decodeAscii_eq_ok_iff.mpr ⟨hall, rfl⟩] at hb
        cases hb
      simp only [decodeAscii_eq_ok_iff, List.mem_append, reduceCtorEq, false_iff]
      exact fun h => hno fun c hc => h.1 c (.inl hc)
    | ok ds =>
      obtain ⟨hall, rfl⟩ := decodeAscii_eq_ok_iff.mp hb
      cases hbs : decodeAsciiBlocks bs with
      | error e =>
        have hno : ¬ ∀ c ∈ bs.flatten, c < 0x80 := fun h => by
          rw [ih.mpr (decodeAscii_eq_ok_iff.mpr ⟨h, rfl⟩)] at hbs
          cases hbs
        simp only [Except.map, decodeAscii_eq_ok_iff, List.mem_append, reduceCtorEq, false_iff]
        exact fun h => hno fun c hc => h.1 c (.inr hc)
      | ok es =>
        obtain ⟨hall', rfl⟩ := decodeAscii_eq_ok_iff.mp (ih.mp hbs)
        simp only [Except.map, Except.ok.injEq, decodeAscii_eq_ok_iff, List.map_append]
        refine ⟨fun h => ⟨fun c hc => ?_, h.symm⟩, fun h => h.2.symm⟩
        exact (List.mem_append.mp hc).elim (hall c) (hall' c)

namespace Encoding

/-! ## All encodings -/

/-- A file is text when it is read block by block exactly when it is text as a whole, and then it
is the same text. -/
theorem decodeInBlocks_eq_ok_iff (enc : Encoding) {bytes : List UInt8} {cs : List Char} :
    enc.decodeInBlocks bytes = .ok cs ↔ enc.decode bytes = .ok cs := by
  have hflat := flatten_blocks (le_refl bytes.length)
  cases enc with
  | utf8 =>
    simp only [decodeInBlocks, decode]
    rw [decodeUtf8Blocks_eq_ok_iff, decodeUtf8_eq_ok_iff, hflat, List.nil_append]
  | utf8Marked =>
    simp only [decodeInBlocks, decode]
    rcases hb : blocks bytes bytes.length with _ | ⟨b, bs⟩
    · rw [hb] at hflat
      rw [← hflat]
      rfl
    · have hmark : dropMark b ++ bs.flatten = dropMark bytes := by
        rw [dropMark_append (blocks_cons hb), ← List.flatten_cons, ← hb, hflat]
      simp only [decodeUtf8Blocks_eq_ok_iff, decodeUtf8_eq_ok_iff]
      rw [List.nil_append, List.flatten_cons, hmark]
  | latin1 => rfl
  | ascii =>
    simp only [decodeInBlocks, decode]
    rw [decodeAsciiBlocks_eq_ok_iff, hflat]

/-! ## Writing -/

/-- The characters that can be written in an encoding. -/
def Expresses : Encoding → Char → Prop
  | .utf8, _ | .utf8Marked, _ => True
  | .latin1, c => c.toNat < 256
  | .ascii, c => c.toNat < 128

theorem expresses_lineFeed (enc : Encoding) : enc.Expresses '\n' := by
  cases enc <;> simp [Expresses]

theorem toNat_ofNat_byte (b : UInt8) : (Char.ofNat b.toNat).toNat = b.toNat := by
  have hb : b.toNat < 256 := b.toNat_lt
  have hv : b.toNat.isValidChar := .inl (by omega)
  rw [Char.ofNat, dif_pos hv]
  rfl

/-- Whatever is read in an encoding can be written in it. -/
theorem expresses_of_decode {enc : Encoding} {bytes : List UInt8} {cs : List Char}
    (h : enc.decode bytes = .ok cs) : ∀ c ∈ cs, enc.Expresses c := by
  cases enc with
  | utf8 => exact fun _ _ => trivial
  | utf8Marked => exact fun _ _ => trivial
  | latin1 =>
    simp only [decode, Except.ok.injEq] at h
    subst h
    intro c hc
    obtain ⟨b, -, rfl⟩ := List.mem_map.mp hc
    simp only [Expresses, toNat_ofNat_byte]
    exact b.toNat_lt
  | ascii =>
    obtain ⟨hall, rfl⟩ := decodeAscii_eq_ok_iff.mp h
    intro c hc
    obtain ⟨b, hb, rfl⟩ := List.mem_map.mp hc
    simp only [Expresses, toNat_ofNat_byte]
    exact UInt8.lt_iff_toNat_lt.mp (hall b hb)

theorem map_ofNat_toUInt8 {cs : List Char} (h : ∀ c ∈ cs, c.toNat < 256) :
    (cs.map fun c => c.toNat.toUInt8).map (fun b => Char.ofNat b.toNat) = cs := by
  rw [List.map_map]
  conv_rhs => rw [← List.map_id cs]
  refine List.map_congr_left fun c hc => ?_
  simp only [Function.comp_apply, id_eq]
  rw [show c.toNat.toUInt8.toNat = c.toNat from toNat_byte (h c hc), Char.ofNat_toNat]

/-- What is written in an encoding is read back in it. -/
theorem decode_encode {enc : Encoding} {cs : List Char} (h : ∀ c ∈ cs, enc.Expresses c) :
    enc.decode (enc.encode cs) = .ok cs := by
  cases enc with
  | utf8 =>
    simp only [decode, encode]
    rw [decodeUtf8_eq_ok_iff]
    simpa using reads_encodeUtf8 cs []
  | utf8Marked =>
    simp only [decode, encode]
    split
    · next hc =>
      rw [List.isEmpty_iff.mp hc]
      rfl
    · have hmark : dropMark (byteOrderMark ++ encodeUtf8 cs) = encodeUtf8 cs := by
        unfold dropMark
        rw [if_neg (by simp [byteOrderMark]), if_pos (by simp [byteOrderMark])]
        simp [byteOrderMark]
      rw [hmark, decodeUtf8_eq_ok_iff]
      simpa using reads_encodeUtf8 cs []
  | latin1 =>
    simp only [decode, encode]
    rw [map_ofNat_toUInt8 h]
  | ascii =>
    have hlt : ∀ c ∈ cs, c.toNat < 128 := h
    simp only [decode, encode]
    rw [decodeAscii_eq_ok_iff, map_ofNat_toUInt8 fun c hc => by have := hlt c hc; omega]
    refine ⟨fun b hb => ?_, rfl⟩
    obtain ⟨c, hc, rfl⟩ := List.mem_map.mp hb
    rw [UInt8.lt_iff_toNat_lt, show c.toNat.toUInt8.toNat = c.toNat from
      toNat_byte (by have := hlt c hc; omega)]
    exact hlt c hc

end Encoding
end BraceScript.Text
