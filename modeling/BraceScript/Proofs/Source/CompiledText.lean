import BraceScript.Proofs.Source.Leading
import BraceScript.Proofs.Source.Scan
import BraceScript.Proofs.Text.Encoding
import Mathlib

/-!
# The text that is compiled

A file with a metadata block is compiled from a copy. `scan_compiledText` says what the copy reads
as: a last part of the line behind the offset with all lines after it, or nothing at all. So every
line but the first is a line of the file, and what is missing is the block and skippable text.
-/

namespace BraceScript.Source

open Files
open Text (unlines unlines_cons unlines_append lines unifyBreaks)

/-! ## Lines that are left -/

section

variable {rest body : List (List Char)} {n : Nat} {front : List Char}

/-- What a cut leaves, by the lines of the whole file. -/
theorem Cut.parts (block : List (List Char)) (h : Cut rest n front body) :
    (∃ p s, (block ++ rest)[block.length + n]? = some (p ++ s)
        ∧ unlines body = s ++ '\n' :: unlines ((block ++ rest).drop (block.length + n + 1))
        ∧ front = unlines (((block ++ rest).take (block.length + n)).drop block.length) ++ p)
      ∨ (unlines body = [] ∧ block.length + n = (block ++ rest).length
        ∧ front = unlines rest) := by
  cases h with
  | all ls => exact .inr ⟨rfl, by rw [List.length_append], rfl⟩
  | within ks p s ls =>
    refine .inl ⟨p, s, ?_, ?_, ?_⟩
    · rw [List.getElem?_append_right (by omega), Nat.add_sub_cancel_left,
        List.getElem?_append_right (le_refl _), Nat.sub_self]
      rfl
    · have hdrop : (block ++ (ks ++ (p ++ s) :: ls)).drop (block.length + ks.length + 1) = ls := by
        rw [← List.append_assoc, ← List.length_append, ← List.drop_drop]
        simp
      rw [hdrop, unlines_cons]
    · rw [← List.append_assoc, ← List.length_append, List.take_left, List.drop_left]

/-- A line behind the first one that is left is a line of the whole file. -/
theorem Cut.getElem? (block : List (List Char)) (h : Cut rest n front body) {j : Nat}
    (hj : 2 ≤ j) : body[j - 1]? = (block ++ rest)[block.length + n + j - 1]? := by
  rw [List.getElem?_append_right (by omega),
    show block.length + n + j - 1 - block.length = n + (j - 1) by omega]
  cases h with
  | all ls => simp
  | within ks p s ls =>
    rw [List.getElem?_append_right (by omega), Nat.add_sub_cancel_left]
    obtain ⟨i, rfl⟩ := Nat.exists_eq_add_of_le' hj
    simp

/-- What is left holds only characters of the lines. -/
theorem Cut.mem (h : Cut rest n front body) {l : List Char} (hl : l ∈ body) {c : Char}
    (hc : c ∈ l) : ∃ k ∈ rest, c ∈ k := by
  cases h with
  | all ls => simp at hl
  | within ks p s ls =>
    rcases List.mem_cons.mp hl with rfl | hl
    · exact ⟨p ++ l, by simp, List.mem_append_right p hc⟩
    · exact ⟨l, by simp [hl], hc⟩

end

/-! ## The copy of a file -/

/-- The copy of a scanned file is there, and holds what is compiled. -/
theorem Scanned.findCompiled {settings : Settings} {path : String} {h h' : Host} {f : Front}
    {u : SourceUnit} (hu : Scanned settings path h f u h') (hb : f.leading.hasBlock = true) :
    h'.findCompiled u.compilePath = .file (compiledBytes f) := by
  obtain ⟨-, -, hfresh, -, hcopies⟩ := hu.copied hb
  have hnone : h.copies.lookup u.compilePath = none := by
    rw [List.lookup_eq_none_iff]
    intro c hc
    rw [bne_iff_ne]
    intro heq
    exact hfresh (List.mem_map.mpr ⟨c, hc, heq.symm⟩)
  unfold Host.findCompiled
  rw [hcopies, List.lookup_append, hnone]
  simp

/-- A file with a metadata block is compiled without the block and without the skippable text
behind it, and line `j` of what is compiled is line `u.lineOffset + j` of the file, except that of
the first one some text in front may be missing. -/
theorem scan_compiledText {h h' : Host} {settings : Settings} {path : String} {bytes : Bytes}
    {enc : Text.Encoding} {cs : List Char} {u : SourceUnit}
    (hfile : h.find path = .file bytes)
    (henc : Text.Encoding.ofName? settings.encoding = some enc)
    (hcs : enc.decode bytes = .ok cs)
    (hopen : blockOpen <+: (lines (unifyBreaks cs)).headD [])
    (hscan : scan settings path h = (.ok u, h')) :
    ∃ content text block rest dropped,
      h'.findCompiled u.compilePath = .file content ∧ enc.decode content = .ok text
      ∧ unifyBreaks text = text ∧ lines (unifyBreaks cs) = block ++ rest
      ∧ MetadataBlock block rest ∧ Skippable dropped ∧ block.length ≤ u.lineOffset
      ∧ ((∃ p s, (block ++ rest)[u.lineOffset]? = some (p ++ s)
          ∧ text = s ++ '\n' :: unlines ((block ++ rest).drop (u.lineOffset + 1))
          ∧ dropped = unlines (((block ++ rest).take u.lineOffset).drop block.length) ++ p)
        ∨ (text = [] ∧ u.lineOffset = (block ++ rest).length ∧ dropped = unlines rest))
      ∧ ∀ j, 2 ≤ j → (lines text)[j - 1]? = (block ++ rest)[u.lineOffset + j - 1]? := by
  obtain ⟨f, hu⟩ := scan_ok hscan
  obtain ⟨bytes', cs', hfile', henc', hcs', hread⟩ := inspect_ok hu.inspected
  obtain rfl := Found.file.inj (hfile.symm.trans hfile')
  obtain rfl := Option.some.inj (henc.symm.trans henc')
  rw [Text.Encoding.decodeInBlocks_eq_ok_iff, hcs] at hcs'
  obtain rfl := Except.ok.inj hcs'
  have hls : ∀ l ∈ lines (unifyBreaks cs), '\n' ∉ l := fun l hl hc =>
    (Text.mem_lines hl hc).2 rfl
  obtain ⟨hb, block, rest, n, front, hsplit, hblock, hoff, hcut, hfront⟩ :=
    Leading.read_block hls hopen hread
  obtain ⟨hlineOffset, -⟩ := hu.copied hb
  -- What is left are characters of the file, so it can be written and comes back.
  have hbody : ∀ l ∈ f.leading.body, ∀ c ∈ l, c ∈ unifyBreaks cs ∧ c ≠ '\n' := by
    intro l hl c hc
    obtain ⟨k, hk, hck⟩ := hcut.mem hl hc
    exact Text.mem_lines (hsplit ▸ List.mem_append_right block hk) hck
  have htext : f.encoding.decode (compiledBytes f) = .ok (unlines f.leading.body) := by
    refine Text.Encoding.decode_encode fun c hc => ?_
    rcases Text.mem_unlines hc with rfl | ⟨l, hl, hc⟩
    · exact Text.Encoding.expresses_lineFeed _
    · rcases Text.mem_unifyBreaks (hbody l hl c hc).1 with rfl | hc
      · exact Text.Encoding.expresses_lineFeed _
      · exact Text.Encoding.expresses_of_decode hcs c hc
  have hreturn : unifyBreaks (unlines f.leading.body) = unlines f.leading.body := by
    refine Text.unifyBreaks_eq_self fun hc => ?_
    rcases Text.mem_unlines hc with hc | ⟨l, hl, hc⟩
    · exact absurd hc (by decide)
    · exact Text.return_notMem_unifyBreaks cs (hbody l hl _ hc).1
  have hlines : lines (unlines f.leading.body) = f.leading.body :=
    Text.lines_unlines fun l hl hc => (hbody l hl _ hc).2 rfl
  have hk : u.lineOffset = block.length + n := hlineOffset.trans hoff
  refine ⟨_, _, block, rest, front, hu.findCompiled hb, htext, hreturn, hsplit, hblock, hfront,
    by omega, ?_, ?_⟩
  · rw [hk]
    exact hcut.parts block
  · intro j hj
    rw [hlines, hk]
    exact hcut.getElem? block hj

/-- A file with a metadata block, and a comment in front of its code. -/
def commentedFile : List Char := "::\x7b\n\x7d::\n\n// c\n/* d */ class A \x7b\n\x7d\n".toList

/-- A host with that file alone. -/
def commentedHost : Host where
  tree := ⟨[(["a.cs"], .file (Text.encodeUtf8 commentedFile))]⟩
  cwd := "/"
  home := "/"
  tempDir := "/"
  copies := []
  named := 0
  notices := []
  asked := []

theorem scan_compiledText_commented :
    ∃ content text, (scan ⟨none, "utf-8"⟩ "/a.cs" commentedHost).2.findCompiled
        "/csrun-00000000.cs" = .file content
      ∧ Text.Encoding.utf8.decode content = .ok text
      ∧ ∀ j, 2 ≤ j → (lines text)[j - 1]? = (lines (unifyBreaks commentedFile))[4 + j - 1]? := by
  have hscan : scan ⟨none, "utf-8"⟩ "/a.cs" commentedHost
      = (.ok ⟨"/a.cs", "/csrun-00000000.cs", 4, [], []⟩,
        (scan ⟨none, "utf-8"⟩ "/a.cs" commentedHost).2) :=
    Prod.ext (by decide +kernel) rfl
  obtain ⟨content, text, block, rest, dropped, hfound, htext, -, hsplit, -, -, -, -, hlines⟩ :=
    scan_compiledText (by rfl : commentedHost.find "/a.cs"
        = .file (Text.encodeUtf8 commentedFile))
      (by decide +kernel : Text.Encoding.ofName? "utf-8" = some .utf8)
      (by decide +kernel : Text.Encoding.utf8.decode (Text.encodeUtf8 commentedFile)
        = .ok commentedFile)
      (by decide +kernel) hscan
  exact ⟨content, text, hfound, htext, by rwa [← hsplit] at hlines⟩

end BraceScript.Source
