import BraceScript.Text.Lines
import Mathlib

/-!
# Lines of a text

What `lines` and `unlines` do to each other, and which characters lines can hold: no line feed,
no carriage return once the line ends are unified, and otherwise only characters of the text.
-/

namespace BraceScript.Text

/-! ## Line ends -/

theorem mem_unifyBreaks {c : Char} {cs : List Char} (h : c ∈ unifyBreaks cs) :
    c = '\n' ∨ c ∈ cs := by
  fun_induction unifyBreaks cs with
  | case1 => simp at h
  | case2 cs ih =>
    rcases List.mem_cons.mp h with h | h
    · exact .inl h
    · exact (ih h).imp_right fun h => by simp [h]
  | case3 cs _ ih =>
    rcases List.mem_cons.mp h with h | h
    · exact .inl h
    · exact (ih h).imp_right fun h => by simp [h]
  | case4 d cs _ _ ih =>
    rcases List.mem_cons.mp h with h | h
    · exact .inr (by simp [h])
    · exact (ih h).imp_right fun h => by simp [h]

theorem return_notMem_unifyBreaks (cs : List Char) : '\r' ∉ unifyBreaks cs := by
  fun_induction unifyBreaks cs with
  | case1 => simp
  | case2 cs ih => simpa using ih
  | case3 cs _ ih => simpa using ih
  | case4 c cs _ hc ih =>
    have hne : c ≠ '\r' := fun h => hc h
    simpa [hne.symm] using ih

/-- A text without carriage returns is read as it stands. -/
theorem unifyBreaks_eq_self {cs : List Char} (h : '\r' ∉ cs) : unifyBreaks cs = cs := by
  fun_induction unifyBreaks cs with
  | case1 => rfl
  | case2 cs _ => simp at h
  | case3 cs _ _ => simp at h
  | case4 c cs _ _ ih =>
    rw [ih fun hc => h (List.mem_cons_of_mem _ hc)]

/-- Text without carriage returns in front is kept. -/
theorem unifyBreaks_append {x : List Char} (hx : '\r' ∉ x) (y : List Char) :
    unifyBreaks (x ++ y) = x ++ unifyBreaks y := by
  induction x with
  | nil => rfl
  | cons c x ih =>
    rw [List.mem_cons, not_or] at hx
    have hstep : unifyBreaks (c :: (x ++ y)) = c :: unifyBreaks (x ++ y) := by
      rw [unifyBreaks]
      · rintro _ rfl
        exact absurd rfl hx.1
      · rintro rfl
        exact hx.1 rfl
    rw [List.cons_append, hstep, ih hx.2, List.cons_append]

/-! ## Taking a text apart -/

theorem mem_breakLines {c : Char} {l cs : List Char} (hl : l ∈ breakLines cs) (hc : c ∈ l) :
    c ∈ cs ∧ c ≠ '\n' := by
  induction cs generalizing l with
  | nil =>
    simp only [breakLines, List.mem_singleton] at hl
    simp [hl] at hc
  | cons d cs ih =>
    simp only [breakLines] at hl
    split at hl
    · rcases List.mem_cons.mp hl with rfl | hl
      · simp at hc
      · exact (ih hl hc).imp_left (List.mem_cons_of_mem _)
    · next hd =>
      split at hl
      · next hb => exact absurd hb (breakLines_ne_nil cs)
      · next k ks hb =>
        rcases List.mem_cons.mp hl with rfl | hl
        · rcases List.mem_cons.mp hc with rfl | hc
          · exact ⟨List.mem_cons_self, hd⟩
          · exact (ih (hb ▸ List.mem_cons_self) hc).imp_left (List.mem_cons_of_mem _)
        · exact (ih (hb ▸ List.mem_cons_of_mem _ hl) hc).imp_left (List.mem_cons_of_mem _)

theorem lines_subset_breakLines (cs : List Char) : lines cs ⊆ breakLines cs := by
  unfold lines
  split
  · simp
  · next l ls hb =>
    rw [hb]
    split
    · exact List.dropLast_subset _
    · exact List.Subset.refl _

/-- A line holds characters of its text, but no line feed. -/
theorem mem_lines {c : Char} {l cs : List Char} (hl : l ∈ lines cs) (hc : c ∈ l) :
    c ∈ cs ∧ c ≠ '\n' :=
  mem_breakLines (lines_subset_breakLines cs hl) hc

/-! ## Putting a text together -/

@[simp]
theorem unlines_nil : unlines [] = [] := rfl

@[simp]
theorem unlines_cons (l : List Char) (ls : List (List Char)) :
    unlines (l :: ls) = l ++ '\n' :: unlines ls := by
  simp [unlines]

@[simp]
theorem unlines_append (ks ls : List (List Char)) :
    unlines (ks ++ ls) = unlines ks ++ unlines ls := by
  simp [unlines]

theorem mem_unlines {c : Char} {ls : List (List Char)} (h : c ∈ unlines ls) :
    c = '\n' ∨ ∃ l ∈ ls, c ∈ l := by
  obtain ⟨l, hl, hc⟩ := List.mem_flatMap.mp h
  rcases List.mem_append.mp hc with hc | hc
  · exact .inr ⟨l, hl, hc⟩
  · exact .inl (List.mem_singleton.mp hc)

/-- Lines that are put together end with one line feed each. -/
theorem count_unlines {ls : List (List Char)} (h : ∀ l ∈ ls, '\n' ∉ l) :
    (unlines ls).count '\n' = ls.length := by
  induction ls with
  | nil => rfl
  | cons l ls ih =>
    obtain ⟨hl, hls⟩ := List.forall_mem_cons.mp h
    rw [unlines_cons, List.count_append, List.count_eq_zero_of_not_mem hl, List.count_cons_self,
      ih hls, List.length_cons, Nat.zero_add]

theorem breakLines_append {l : List Char} (hl : '\n' ∉ l) (cs : List Char) :
    breakLines (l ++ '\n' :: cs) = l :: breakLines cs := by
  induction l with
  | nil => simp [breakLines]
  | cons c l ih =>
    rw [List.mem_cons, not_or] at hl
    simp only [List.cons_append, breakLines]
    rw [if_neg (Ne.symm hl.1), ih hl.2]

/-- A line in front of a text. -/
theorem lines_append {l : List Char} (hl : '\n' ∉ l) (cs : List Char) :
    lines (l ++ '\n' :: cs) = l :: lines cs := by
  unfold lines
  rw [breakLines_append hl]
  cases hb : breakLines cs with
  | nil => exact absurd hb (breakLines_ne_nil cs)
  | cons k ks =>
    show (if (k :: ks).getLastD l = [] then l :: (k :: ks).dropLast else l :: k :: ks) = _
    have hlast : (k :: ks).getLastD l = (k :: ks).getLastD [] := by
      rw [List.getLastD_cons, List.getLastD_cons]
    rw [hlast]
    dsimp only
    split <;> rfl

theorem unlines_breakLines (cs : List Char) : unlines (breakLines cs) = cs ++ ['\n'] := by
  induction cs with
  | nil => rfl
  | cons c cs ih =>
    rw [breakLines]
    split
    · next hc => rw [unlines_cons, ih, hc, List.nil_append, List.cons_append]
    · split
      · next hb => exact absurd hb (breakLines_ne_nil cs)
      · next l ls hb =>
        rw [hb, unlines_cons] at ih
        rw [unlines_cons, List.cons_append, ih, List.cons_append]

/-- The lines of a text make up the text, but for a line feed behind it. -/
theorem unlines_lines (cs : List Char) :
    unlines (lines cs) = cs ∨ unlines (lines cs) = cs ++ ['\n'] := by
  have hall := unlines_breakLines cs
  unfold lines
  cases hb : breakLines cs with
  | nil => exact absurd hb (breakLines_ne_nil cs)
  | cons l ls =>
    rw [hb] at hall
    dsimp only
    split
    · next hlast =>
      left
      have hsplit : (l :: ls).dropLast ++ [[]] = l :: ls := by
        rw [← hlast, List.getLastD_eq_getLast?]
        exact List.dropLast_append_getLast? _ (by simp [List.getLast?_eq_some_getLast])
      rw [← hsplit, unlines_append] at hall
      exact List.append_cancel_right hall
    · exact .inr hall

/-- Behind a final line feed there is an empty piece, which is no line. -/
theorem lines_of_breakLines {cs : List Char} {ls : List (List Char)}
    (hb : breakLines cs = ls ++ [[]]) : lines cs = ls := by
  unfold lines
  rw [hb]
  split
  · simp_all
  · next k ks hk =>
    rw [← hk]
    simp

theorem breakLines_lineFeed (cs : List Char) :
    breakLines (cs ++ ['\n']) = breakLines cs ++ [[]] := by
  induction cs with
  | nil => rfl
  | cons c cs ih =>
    rw [List.cons_append, breakLines, breakLines, ih]
    split
    · rfl
    · cases hb : breakLines cs with
      | nil => exact absurd hb (breakLines_ne_nil cs)
      | cons l ls => rfl

/-- The lines of a text that ends with a line feed make up the text. -/
theorem unlines_lines_lineFeed (cs : List Char) :
    unlines (lines (cs ++ ['\n'])) = cs ++ ['\n'] := by
  rw [lines_of_breakLines (breakLines_lineFeed cs), unlines_breakLines]

/-- The lines that a text was put together from are its lines. -/
theorem lines_unlines {ls : List (List Char)} (h : ∀ l ∈ ls, '\n' ∉ l) :
    lines (unlines ls) = ls := by
  refine lines_of_breakLines ?_
  induction ls with
  | nil => rfl
  | cons l ls ih =>
    rw [unlines_cons, breakLines_append (h l List.mem_cons_self),
      ih fun k hk => h k (List.mem_cons_of_mem _ hk), List.cons_append]

end BraceScript.Text
