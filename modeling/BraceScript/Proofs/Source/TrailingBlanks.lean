import BraceScript.Proofs.Source.Failing
import Mathlib

/-!
# Blanks at the ends of lines

Editors remove blanks at the ends of lines. In front of the code that makes no difference to a scan
(`scan_trims`), with two exceptions. A tag is only a directive when a blank follows it, so a
directive without a target that loses all its blanks is a comment. And a last line that has no line
end and loses all it holds is no line any more, so it is not counted.

Every test on a line is looked at by itself: no mark and no tag holds a blank, so none of them
reaches into the blanks behind a line (`lineKind_append_blanks`). What one line does to the state of
the section is then the same with and without its blanks (`readSection_trims`).
-/

namespace BraceScript.Source

open Files
open Text (lines breakLines unifyBreaks isBlank trimFront trimBack trim)

/-! ## Lines without the blanks at their ends -/

/-- `Trims n ls ls'`: the lines `ls'` are the lines `ls`, but the first `n` of them may have lost
blanks at their ends. -/
inductive Trims : Nat → List (List Char) → List (List Char) → Prop
  | same (ls : List (List Char)) : Trims 0 ls ls
  | cons {n : Nat} {l ws : List Char} {ls ls' : List (List Char)} : (∀ c ∈ ws, isBlank c) →
    Trims n ls ls' → Trims (n + 1) ((l ++ ws) :: ls) (l :: ls')

/-! ## One line -/

theorem lineKind_of_nil {l : List Char} (h : trimFront l = []) : lineKind l = .passed none := by
  rw [lineKind]
  split <;> simp_all

theorem lineKind_of_comment {l cs : List Char} (h : trimFront l = '/' :: '*' :: cs) :
    lineKind l = match afterComment cs with
      | none => .opened (l.length - (cs.length + 2) + 1)
      | some rest => lineKind rest := by
  rw [lineKind]
  split
  · next hnil => rw [h] at hnil; cases hnil
  · next cs' hcs =>
    rw [h] at hcs
    cases hcs
    split <;> next hr => rw [hr]
  · next hno => exact absurd h (hno cs)

theorem lineKind_of_plain {l : List Char} (hne : trimFront l ≠ [])
    (hno : ∀ cs, trimFront l ≠ '/' :: '*' :: cs) : lineKind l = match directiveOf? l with
      | some d => .passed (some d)
      | none => if ['/', '/'].isPrefixOf (trimFront l) then .passed none else .code l := by
  rw [lineKind]
  split
  · next hnil => exact absurd hnil hne
  · next cs hcs => exact absurd hcs (hno cs)
  · rfl

/-- No mark holds a blank. -/
theorem mark_noBlank : ∀ mark ∈ [blockOpen, blockClose, ['/', '*'], ['/', '/']],
    ∀ c ∈ mark, isBlank c = false := by
  simp [blockOpen, blockClose, isBlank, Text.blankRanges, Text.Ranges.contains]

theorem tag_noBlank (tag : Tag) : ∀ c ∈ tag.text.toList, isBlank c = false := by
  cases tag <;> simp [Tag.text, isBlank, Text.blankRanges, Text.Ranges.contains]

/-- The kind of a line behind which some text follows; code goes on with it. -/
def LineKind.before (ws : List Char) : LineKind → LineKind
  | .code cs => .code (cs ++ ws)
  | k => k

section
variable {ws : List Char} (hws : ∀ c ∈ ws, isBlank c)
include hws

/-- A mark without blanks does not reach into the blanks behind a line. -/
theorem isPrefixOf_append_blanks {mark : List Char} (hmark : ∀ c ∈ mark, isBlank c = false)
    (l : List Char) : mark.isPrefixOf (l ++ ws) = mark.isPrefixOf l := by
  refine Syntax.isPrefixOf_append_of_head (fun c hc hmem => ?_) l
  exact Bool.false_ne_true ((hmark c hmem).symm.trans (hws c (List.mem_of_mem_head? hc)))

/-- A comment is not closed by blanks. -/
theorem afterComment_append_blanks (l : List Char) :
    afterComment (l ++ ws) = (afterComment l).map (· ++ ws) := by
  have hslash : ∀ rest, ws ≠ '/' :: rest := by
    rintro rest rfl
    exact absurd (hws '/' List.mem_cons_self) (by decide)
  fun_induction afterComment l with
  | case1 =>
    rw [List.nil_append, Option.map_none]
    clear hslash
    induction ws with
    | nil => rfl
    | cons c ws ih =>
      obtain ⟨hc, hws⟩ := List.forall_mem_cons.mp hws
      rw [afterComment, ih hws]
      rintro rest rfl -
      exact absurd hc (by decide)
  | case2 => rfl
  | case3 c cs hne ih =>
    rw [List.cons_append, afterComment, ih]
    rintro rest rfl hrest
    cases cs with
    | nil => exact hslash rest hrest
    | cons d cs =>
      obtain ⟨rfl, -⟩ := List.cons.inj hrest
      exact hne cs rfl rfl

theorem trimFront_append_blanks (l : List Char) :
    trimFront (l ++ ws) = if trimFront l = [] then [] else trimFront l ++ ws := by
  unfold trimFront
  rw [List.dropWhile_append, List.dropWhile_eq_nil_iff.mpr hws]
  simp only [List.isEmpty_iff]

theorem trim_append_blanks (l : List Char) : trim (l ++ ws) = trim l := by
  unfold trim
  rw [trimFront_append_blanks hws]
  split
  · next hnil => rw [hnil]
  · have hreverse : ∀ c ∈ ws.reverse, isBlank c := fun c hc => hws c (List.mem_reverse.mp hc)
    unfold trimBack
    rw [List.reverse_append, List.dropWhile_append_of_pos hreverse]

theorem targetAfter_append_blanks (tag : Tag) {l : List Char}
    (hl : l = tag.text.toList → ws = []) : targetAfter tag (l ++ ws) = targetAfter tag l := by
  unfold targetAfter
  rw [isPrefixOf_append_blanks hws (tag_noBlank tag)]
  split
  · next hp =>
    obtain ⟨rest, rfl⟩ := List.isPrefixOf_iff_prefix.mp hp
    rw [← String.length_toList, List.append_assoc, List.drop_left, List.drop_left]
    cases rest with
    | nil => rw [hl (List.append_nil _)]; rfl
    | cons c rest =>
      rw [List.cons_append]
      dsimp only
      rw [trim_append_blanks hws]
  · rfl

/-- A directive keeps its target, unless nothing is left behind its tag. -/
theorem directiveOf?_append_blanks {l : List Char}
    (hl : ∀ tag : Tag, l = tag.text.toList → ws = []) :
    directiveOf? (l ++ ws) = directiveOf? l := by
  unfold directiveOf?
  rw [targetAfter_append_blanks hws _ (hl .import), targetAfter_append_blanks hws _ (hl .include)]

/-- With nothing but blanks behind its tag a directive has no target. -/
theorem directiveOf?_tag (tag : Tag) (hne : ws ≠ []) :
    directiveOf? (tag.text.toList ++ ws) = some ⟨tag, ""⟩ := by
  obtain ⟨c, cs, rfl⟩ := List.exists_cons_of_ne_nil hne
  obtain ⟨hc, hcs⟩ := List.forall_mem_cons.mp hws
  have htrim : trim cs = [] := by
    rw [← List.nil_append cs, trim_append_blanks hcs]
    rfl
  have htarget : targetAfter tag (tag.text.toList ++ c :: cs) = some "" := by
    unfold targetAfter
    rw [if_pos (List.isPrefixOf_iff_prefix.mpr (List.prefix_append _ _)), ← String.length_toList,
      List.drop_left]
    dsimp only
    rw [if_pos hc, htrim]
  unfold directiveOf?
  cases tag with
  | «import» => rw [htarget]
  | «include» =>
    have hother : targetAfter .import (Tag.include.text.toList ++ c :: cs) = none := by
      rw [targetAfter_append_blanks hws _ (fun h => absurd h (by decide))]
      decide
    rw [hother, htarget]
    rfl

/-- Blanks at the end of a line do not change its kind, unless they are all that stands behind the
tag of a directive. -/
theorem lineKind_append_blanks (l : List Char) : lineKind (l ++ ws) = (lineKind l).before ws
    ∨ ∃ tag : Tag, tag.text.toList <:+ l ∧ ws ≠ []
      ∧ lineKind (l ++ ws) = .passed (some ⟨tag, ""⟩) := by
  induction hlen : l.length using Nat.strong_induction_on generalizing l with
  | _ len ih =>
    subst hlen
    have hfront := trimFront_append_blanks hws l
    by_cases hnil : trimFront l = []
    · rw [if_pos hnil] at hfront
      rw [lineKind_of_nil hnil, lineKind_of_nil hfront]
      exact .inl rfl
    rw [if_neg hnil] at hfront
    by_cases hcomment : ∃ cs, trimFront l = '/' :: '*' :: cs
    · obtain ⟨cs, hcs⟩ := hcomment
      rw [hcs, List.cons_append, List.cons_append] at hfront
      rw [lineKind_of_comment hcs, lineKind_of_comment hfront, afterComment_append_blanks hws]
      cases hr : afterComment cs with
      | none =>
        left
        simp only [Option.map_none, LineKind.before, List.length_append]
        congr 1
        omega
      | some rest =>
        obtain ⟨inner, rfl, -⟩ := afterComment_eq_some hr
        obtain ⟨blanks, hl, -⟩ := exists_blanks_trimFront l
        rw [hcs] at hl
        have hrest : rest <:+ l := by
          rw [hl]
          exact ⟨blanks ++ '/' :: '*' :: (inner ++ ['*', '/']), by simp⟩
        have hshort : rest.length < l.length := by
          rw [hl]
          simp
          omega
        refine (ih _ hshort rest rfl).imp_right ?_
        rintro ⟨tag, htag, hkind⟩
        exact ⟨tag, htag.trans hrest, hkind⟩
    · have hno : ∀ cs, trimFront l ≠ '/' :: '*' :: cs := fun cs hcs => hcomment ⟨cs, hcs⟩
      have hno' : ∀ cs, trimFront (l ++ ws) ≠ '/' :: '*' :: cs := by
        intro cs hcs
        rw [hfront] at hcs
        have hopen : ['/', '*'].isPrefixOf (trimFront l ++ ws) := by
          rw [hcs]
          rfl
        rw [isPrefixOf_append_blanks hws (mark_noBlank _ (by decide))] at hopen
        obtain ⟨x, hx⟩ := List.isPrefixOf_iff_prefix.mp hopen
        exact hno x hx.symm
      have hne' : trimFront (l ++ ws) ≠ [] := by
        rw [hfront]
        exact List.append_ne_nil_of_left_ne_nil hnil ws
      rw [lineKind_of_plain hne' hno', lineKind_of_plain hnil hno, hfront,
        isPrefixOf_append_blanks hws (mark_noBlank _ (by decide))]
      by_cases hbare : ∃ tag : Tag, l = tag.text.toList ∧ ws ≠ []
      · obtain ⟨tag, rfl, hws'⟩ := hbare
        refine .inr ⟨tag, List.suffix_rfl, hws', ?_⟩
        rw [directiveOf?_tag hws tag hws']
      · left
        rw [directiveOf?_append_blanks hws fun tag htag => by_contra fun h => hbare ⟨tag, htag, h⟩]
        cases directiveOf? l with
        | some d => rfl
        | none => dsimp only; split <;> rfl

end

/-! ## Sections -/

theorem visible_append_blanks {ws : List Char} (hws : ∀ c ∈ ws, isBlank c)
    (comment : Option (Nat × Nat)) (l : List Char) :
    visible comment (l ++ ws) = (visible comment l).map (· ++ ws) := by
  cases comment with
  | none => rfl
  | some _ => exact afterComment_append_blanks hws l

/-- What stands in a line in front of what is visible of it. -/
theorem suffix_of_visible {comment : Option (Nat × Nat)} {l text : List Char}
    (h : visible comment l = some text) : text <:+ l := by
  cases comment with
  | none => exact Option.some.inj h ▸ List.suffix_rfl
  | some _ =>
    obtain ⟨inner, rfl, -⟩ := afterComment_eq_some h
    exact ⟨inner ++ ['*', '/'], by simp⟩

/-- The fault is a directive without a target, on a line that has lost all the blanks behind the
tag. -/
def Bared (ls ls' : List (List Char)) (i : Nat) (fault : LeadingFault) : Prop :=
  ∃ tag front ws, fault = .emptyDirective tag ∧ ws ≠ [] ∧ (∀ c ∈ ws, isBlank c)
    ∧ ls[i]? = some (front ++ tag.text.toList ++ ws) ∧ ls'[i]? = some (front ++ tag.text.toList)

/-- How a section is read from the lines `ls` behind `offset` others, and from the lines `ls'` that
have lost blanks in the first `n` of them: alike if these are in front of the code, and with the
same fault unless a tag was bared. -/
structure ReadAlike (n offset : Nat) (ls ls' : List (List Char))
    (r r' : Except LeadingError Leading) : Prop where
  ok {s : Leading} : r = .ok s → n = 0 ∨ offset + n ≤ s.offset → r' = .ok s
  error {e : LeadingError} : r = .error e →
    r' = .error e ∨ ∃ i, e.line = offset + i + 1 ∧ Bared ls ls' i e.fault

section
variable {n offset : Nat} {ls ls' : List (List Char)} {r r' : Except LeadingError Leading}

/-- The same with more lines in front. -/
theorem ReadAlike.of_drop {k : Nat}
    (h : ReadAlike (n - k) (offset + k) (ls.drop k) (ls'.drop k) r r') :
    ReadAlike n offset ls ls' r r' where
  ok hs hn := h.ok hs (by omega)
  error he := by
    refine (h.error he).imp_right ?_
    rintro ⟨i, hline, tag, front, ws, hfault, hne, hws, hl, hl'⟩
    rw [List.getElem?_drop] at hl hl'
    exact ⟨k + i, by omega, tag, front, ws, hfault, hne, hws, hl, hl'⟩

/-- The same for sections that are read further. -/
theorem ReadAlike.map (h : ReadAlike n offset ls ls' r r') {f : Leading → Leading}
    (hf : ∀ s, (f s).offset = s.offset) : ReadAlike n offset ls ls' (r.map f) (r'.map f) where
  ok hs hn := by
    cases r with
    | error e => cases hs
    | ok s =>
      cases hs
      rw [hf] at hn
      rw [h.ok rfl hn]
      rfl
  error he := by
    cases r with
    | ok s => cases he
    | error e =>
      cases he
      refine (h.error rfl).imp_left fun hr => ?_
      rw [hr]
      rfl

end

/-- A section is read alike without blanks at the ends of the lines in front of its code. -/
theorem readSection_trims {n : Nat} {ls ls' : List (List Char)} (h : Trims n ls ls') (offset : Nat)
    (comment : Option (Nat × Nat)) :
    ReadAlike n offset ls ls' (readSection offset comment ls) (readSection offset comment ls') := by
  induction h generalizing offset comment with
  | same ls => exact ⟨fun hs _ => hs, .inl⟩
  | @cons n l ws ls ls' hws htrims ih =>
    have hnext (comment : Option (Nat × Nat)) :
        ReadAlike (n + 1) offset ((l ++ ws) :: ls) (l :: ls')
          (readSection (offset + 1) comment ls) (readSection (offset + 1) comment ls') :=
      .of_drop (k := 1) (ih (offset + 1) comment)
    rw [readSection, readSection, visible_append_blanks hws]
    cases hvisible : visible comment l with
    | none => exact hnext comment
    | some text =>
      rw [Option.map_some]
      dsimp only
      rcases lineKind_append_blanks hws text with hkind | ⟨tag, htag, hne, hkind⟩
      · rw [hkind]
        cases hk : lineKind text with
        | code cs =>
          -- code begins here, so this is no line in front of it
          refine ⟨fun hs hn => ?_, fun he => by cases he⟩
          cases hs
          dsimp only at hn
          omega
        | opened column => exact hnext (some (offset + 1, column))
        | passed directive =>
          cases directive with
          | none => exact hnext none
          | some d =>
            dsimp only [LineKind.before]
            split
            · exact ⟨fun hs => (by cases hs), .inl⟩
            · exact (hnext none).map fun _ => rfl
      · rw [hkind]
        refine ⟨fun hs => (by cases hs), fun he => .inr ⟨0, ?_, ?_⟩⟩
        · cases he
          rfl
        · cases he
          obtain ⟨front, rfl⟩ := htag.trans (suffix_of_visible hvisible)
          exact ⟨tag, front, ws, rfl, hne, hws, rfl, rfl⟩

/-! ## Files -/

theorem Trims.drop {n : Nat} {ls ls' : List (List Char)} (h : Trims n ls ls') (k : Nat) :
    Trims (n - k) (ls.drop k) (ls'.drop k) := by
  induction h generalizing k with
  | same ls =>
    rw [Nat.zero_sub]
    exact .same _
  | @cons n l ws ls ls' hws htrims ih =>
    cases k with
    | zero => exact .cons hws htrims
    | succ k =>
      rw [Nat.succ_sub_succ]
      exact ih k

theorem skipBlock_drop (ls : List (List Char)) :
    (skipBlock ls).2 = ls.drop (skipBlock ls).1 := by
  fun_induction skipBlock ls with
  | case1 | case2 | case3 => rfl
  | case4 l ls hl r ih => exact ih

theorem skipBlock_cons (l : List Char) (ls : List (List Char)) :
    (skipBlock (l :: ls)).1 = if blockClose.isPrefixOf l then min ls.length 1 + 1
      else (skipBlock ls).1 + 1 := by
  conv_lhs => unfold skipBlock
  split
  · cases ls <;> simp
  · rfl

theorem Trims.length {n : Nat} {ls ls' : List (List Char)} (h : Trims n ls ls') :
    ls'.length = ls.length := by
  induction h with
  | same => rfl
  | cons _ _ ih => rw [List.length_cons, List.length_cons, ih]

/-- A metadata block ends where it did. -/
theorem skipBlock_trims {n : Nat} {ls ls' : List (List Char)} (h : Trims n ls ls') :
    (skipBlock ls').1 = (skipBlock ls).1 := by
  induction h with
  | same ls => rfl
  | @cons n l ws ls ls' hws htrims ih =>
    rw [skipBlock_cons, skipBlock_cons, isPrefixOf_append_blanks hws (mark_noBlank _ (by decide)),
      htrims.length, ih]

/-- A file is read alike without blanks at the ends of the lines in front of its code. -/
theorem Leading.read_trims {n : Nat} {ls ls' : List (List Char)} (h : Trims n ls ls') :
    ReadAlike n 0 ls ls' (Leading.read ls) (Leading.read ls') := by
  have hplain := readSection_trims h 0 none
  cases h with
  | same => exact ⟨fun hs _ => hs, .inl⟩
  | @cons n l ws ls ls' hws htrims =>
    rw [Leading.read, Leading.read, isPrefixOf_append_blanks hws (mark_noBlank _ (by decide))]
    split
    · have hsection := readSection_trims (htrims.drop (skipBlock ls).1) ((skipBlock ls).1 + 1) none
      dsimp only
      rw [skipBlock_drop ls, skipBlock_drop ls', skipBlock_trims htrims]
      refine .of_drop (k := (skipBlock ls).1 + 1) ?_
      refine .map (f := fun s => { s with hasBlock := true }) ?_ fun _ => rfl
      rw [Nat.zero_add, Nat.succ_sub_succ]
      exact hsection
    · exact hplain

/-! ## A last line that is gone -/

/-- A section when one empty line more comes at the end of the file. -/
def Leading.extended (s : Leading) : Leading :=
  if s.body = [] then { s with offset := s.offset + 1 } else { s with body := s.body ++ [[]] }

theorem readSection_emptyLine (offset : Nat) (comment : Option (Nat × Nat))
    (ls : List (List Char)) : readSection offset comment (ls ++ [[]])
      = (readSection offset comment ls).map Leading.extended := by
  induction ls generalizing offset comment with
  | nil =>
    cases comment with
    | none =>
      have hkind : lineKind [] = .passed none := lineKind_of_nil rfl
      simp [readSection, visible, hkind, Except.map, Leading.extended]
    | some _ => rfl
  | cons l ls ih =>
    rw [List.cons_append, readSection, readSection]
    cases visible comment l with
    | none => exact ih (offset + 1) comment
    | some text =>
      dsimp only
      cases lineKind text with
      | code cs => rfl
      | opened column => exact ih (offset + 1) (some (offset + 1, column))
      | passed directive =>
        cases directive with
        | none => exact ih (offset + 1) none
        | some d =>
          dsimp only
          split
          · rfl
          · rw [ih]
            cases readSection (offset + 1) none ls with
            | error e => rfl
            | ok s =>
              simp only [Except.map, Leading.extended]
              split <;> rfl

/-- The empty line belongs to the metadata block, or comes behind it. -/
theorem skipBlock_emptyLine (ls : List (List Char)) :
    skipBlock (ls ++ [[]]) = ((skipBlock ls).1, (skipBlock ls).2 ++ [[]])
      ∨ (skipBlock ls).2 = [] ∧ skipBlock (ls ++ [[]]) = ((skipBlock ls).1 + 1, []) := by
  fun_induction skipBlock ls with
  | case1 => exact .inr ⟨rfl, rfl⟩
  | case2 l hl =>
    right
    simp [skipBlock, hl]
  | case3 l hl k ls =>
    left
    simp [skipBlock, hl]
  | case4 l ls hl r ih =>
    have hskip : skipBlock (l :: (ls ++ [[]]))
        = ((skipBlock (ls ++ [[]])).1 + 1, (skipBlock (ls ++ [[]])).2) := by
      conv_lhs => unfold skipBlock
      rw [if_neg hl]
    rw [List.cons_append, hskip]
    rcases ih with ih | ⟨hnil, ih⟩
    · left
      rw [ih]
    · right
      exact ⟨hnil, by rw [ih]⟩

theorem Leading.read_emptyLine (ls : List (List Char)) :
    Leading.read (ls ++ [[]]) = (Leading.read ls).map Leading.extended := by
  cases ls with
  | nil => exact readSection_emptyLine 0 none []
  | cons l ls =>
    have hblock (r : Except LeadingError Leading) :
        (r.map Leading.extended).map (fun s => { s with hasBlock := true })
          = (r.map fun s => { s with hasBlock := true }).map Leading.extended := by
      cases r with
      | error e => rfl
      | ok s =>
        simp only [Except.map, Leading.extended]
        split <;> rfl
    rw [List.cons_append, Leading.read, Leading.read]
    split
    · dsimp only
      rcases skipBlock_emptyLine ls with hskip | ⟨hnil, hskip⟩
      · rw [hskip, readSection_emptyLine, hblock]
      · rw [hskip, hnil]
        rfl
    · exact readSection_emptyLine 0 none (l :: ls)

theorem Trims.concat {n : Nat} {ls ls' : List (List Char)} {x : List Char}
    (h : Trims n (ls ++ [x]) ls') :
    ∃ init x' m ws, ls' = init ++ [x'] ∧ x = x' ++ ws ∧ m ≤ n ∧ Trims m ls init := by
  induction ls generalizing n ls' with
  | nil =>
    cases h with
    | same => exact ⟨[], x, 0, [], rfl, (List.append_nil x).symm, le_rfl, .same []⟩
    | @cons n l ws _ ls' _ htrims =>
      cases htrims
      exact ⟨[], l, 0, ws, rfl, rfl, Nat.zero_le _, .same []⟩
  | cons l ls ih =>
    cases h with
    | same => exact ⟨l :: ls, x, 0, [], rfl, (List.append_nil x).symm, le_rfl, .same _⟩
    | @cons n l ws _ ls' hws htrims =>
      obtain ⟨init, x', m, vs, rfl, hx, hm, hinit⟩ := ih htrims
      exact ⟨l :: init, x', m + 1, vs, rfl, hx, Nat.succ_le_succ hm, .cons hws hinit⟩

/-- The lines of a text without blanks at their ends; a last line without a line end may be gone. -/
theorem lines_trims {n : Nat} {source source' : List Char}
    (h : Trims n (breakLines source) (breakLines source')) :
    (∃ m, m ≤ n ∧ Trims m (lines source) (lines source'))
      ∨ lines source' ++ [[]] = breakLines source'
        ∧ Trims n (lines source) (lines source' ++ [[]]) := by
  have hlast {cs x : List Char} {init : List (List Char)} (hcs : breakLines cs = init ++ [x])
      (hx : x ≠ []) : lines cs = init ++ [x] := by
    unfold lines
    rw [hcs]
    split
    · next hnil => simp at hnil
    · next l ls hls =>
      rw [← hls, if_neg]
      simpa using hx
  obtain ⟨init, x, hsource⟩ : ∃ init x, breakLines source = init ++ [x] :=
    ⟨_, _, (List.dropLast_append_getLast (Text.breakLines_ne_nil source)).symm⟩
  rw [hsource] at h
  obtain ⟨init', x', m, ws, hsource', rfl, hm, hinit⟩ := h.concat
  rw [hsource'] at h
  by_cases hx : x' ++ ws = []
  · obtain ⟨rfl, rfl⟩ := List.append_eq_nil_iff.mp hx
    rw [Text.lines_of_breakLines hsource, Text.lines_of_breakLines hsource']
    exact .inl ⟨m, hm, hinit⟩
  · rw [hlast hsource hx]
    by_cases hx' : x' = []
    · subst hx'
      rw [Text.lines_of_breakLines hsource']
      exact .inr ⟨hsource'.symm, h⟩
    · rw [hlast hsource' hx']
      exact .inl ⟨n, le_rfl, h⟩

theorem lines_prefix_breakLines (cs : List Char) : lines cs <+: breakLines cs := by
  unfold lines
  cases breakLines cs with
  | nil => exact List.prefix_rfl
  | cons l ls =>
    dsimp only
    split
    · exact List.dropLast_prefix _
    · exact List.prefix_rfl

theorem getElem?_of_prefix {α : Type} {xs ys : List α} (h : xs <+: ys) {i : Nat} {x : α}
    (hx : xs[i]? = some x) : ys[i]? = some x := by
  obtain ⟨zs, rfl⟩ := h
  rw [List.getElem?_append_left (List.getElem?_eq_some_iff.mp hx).1, hx]

theorem Bared.mono {ls ls' ms ms' : List (List Char)} {i : Nat} {fault : LeadingFault}
    (h : Bared ls ls' i fault) (hls : ls <+: ms) (hls' : ls' <+: ms') : Bared ms ms' i fault := by
  obtain ⟨tag, front, ws, hfault, hne, hws, hl, hl'⟩ := h
  exact ⟨tag, front, ws, hfault, hne, hws, getElem?_of_prefix hls hl, getElem?_of_prefix hls' hl'⟩

/-- The front of a file says the same without blanks at the ends of its lines. -/
theorem Leading.read_lines_trims {n : Nat} {source source' : List Char}
    (h : Trims n (breakLines source) (breakLines source')) :
    (∀ s, Leading.read (lines source) = .ok s → n ≤ s.offset →
      ∃ s', Leading.read (lines source') = .ok s' ∧ s'.hasBlock = s.hasBlock
        ∧ s'.directives = s.directives ∧ (s'.offset = s.offset
          ∨ (lines source').length + 1 = (lines source).length ∧ s'.offset + 1 = s.offset))
    ∧ ∀ e, Leading.read (lines source) = .error e → Leading.read (lines source') = .error e
      ∨ ∃ i, e.line = i + 1 ∧ Bared (breakLines source) (breakLines source') i e.fault := by
  rcases lines_trims h with ⟨m, hm, htrims⟩ | ⟨hbreaks, htrims⟩
  · have hread := Leading.read_trims htrims
    refine ⟨fun s hs hn => ?_, fun e he => ?_⟩
    · exact ⟨s, hread.ok hs (.inr (by omega)), rfl, rfl, .inl rfl⟩
    · refine (hread.error he).imp_right ?_
      rintro ⟨i, hline, hbared⟩
      exact ⟨i, by omega, hbared.mono (lines_prefix_breakLines _) (lines_prefix_breakLines _)⟩
  · have hread := Leading.read_trims htrims
    have hlength := htrims.length
    rw [List.length_append, List.length_singleton] at hlength
    rw [Leading.read_emptyLine] at hread
    refine ⟨fun s hs hn => ?_, fun e he => ?_⟩
    · have hextended := hread.ok hs (.inr (by omega))
      cases hr : Leading.read (lines source') with
      | error e => rw [hr] at hextended; cases hextended
      | ok s' =>
        rw [hr] at hextended
        obtain rfl : s'.extended = s := Except.ok.inj hextended
        refine ⟨s', rfl, ?_⟩
        unfold Leading.extended
        split
        · exact ⟨rfl, rfl, .inr ⟨hlength, rfl⟩⟩
        · exact ⟨rfl, rfl, .inl rfl⟩
    · rcases hread.error he with hr | ⟨i, hline, hbared⟩
      · left
        cases hr' : Leading.read (lines source') with
        | ok s' => rw [hr'] at hr; cases hr
        | error e' =>
          rw [hr'] at hr
          cases hr
          rfl
      · rw [hbreaks] at hbared
        exact .inr ⟨i, by omega, hbared.mono (lines_prefix_breakLines _) List.prefix_rfl⟩

/-! ## Hosts with other contents -/

/-- Whether a node is a file. -/
def isFileNode : Node → Bool
  | .file _ => true
  | .directory => false

/-- Two hosts with the same files and directories, whatever the files hold. -/
structure SamePlaces (h k : Host) : Prop where
  cwd : k.cwd = h.cwd
  tempDir : k.tempDir = h.tempDir
  nodes (p : Place) : (k.tree.at? p).map isFileNode = (h.tree.at? p).map isFileNode

namespace SamePlaces
variable {h k : Host} (hsame : SamePlaces h k)
include hsame

theorem walk (p : Place) (parts : List String) : k.tree.walk p parts = h.tree.walk p parts := by
  induction parts generalizing p with
  | nil => rfl
  | cons part parts ih =>
    have hnode := hsame.nodes p
    rw [Tree.walk, Tree.walk, ih, ih, ih]
    rcases hk : k.tree.at? p with _ | (_ | _) <;> rcases hh : h.tree.at? p with _ | (_ | _) <;>
      rw [hk, hh] at hnode <;> first | rfl | cases hnode

/-- What a path leads to is the same but for the contents of a file. -/
theorem find (path : String) : k.find path = h.find path
    ∨ ∃ content content', k.find path = .file content ∧ h.find path = .file content' := by
  have hplace : k.tree.placeOf k.cwd path = h.tree.placeOf h.cwd path := by
    unfold Tree.placeOf
    rw [hsame.cwd, hsame.walk]
  unfold Host.find Tree.find
  rw [hplace]
  cases h.tree.placeOf h.cwd path with
  | error f => exact .inl rfl
  | ok p =>
    have hnode := hsame.nodes p
    dsimp only
    rcases hk : k.tree.at? p with _ | (_ | _) <;> rcases hh : h.tree.at? p with _ | (_ | _) <;>
      rw [hk, hh] at hnode <;>
        first | exact .inl rfl | exact .inr ⟨_, _, rfl, rfl⟩ | cases hnode

theorem isFile (path : String) : k.tree.isFile k.cwd path = h.tree.isFile h.cwd path := by
  have hfind := hsame.find path
  unfold Host.find at hfind
  unfold Tree.isFile
  rcases hfind with hfind | ⟨_, _, hk, hh⟩
  · rw [hfind]
  · rw [hk, hh]

theorem refusal (settings : Settings) (path : String) (f : Front) :
    refusal settings path k f = Source.refusal settings path h f := by
  have habsolute (dir : String) : k.absolute dir = h.absolute dir := by
    unfold Host.absolute
    rw [hsame.cwd]
  unfold Source.refusal
  rw [hsame.tempDir, habsolute]
  split
  · dsimp only
    rcases hsame.find (h.absolute (settings.tempDir.getD h.tempDir)) with hfind | ⟨_, _, hk, hh⟩
    · rw [hfind]
    · rw [hk, hh]
      rfl
  · rfl

end SamePlaces

/-! ## Scans -/

/-- Two hosts that differ in what a file holds: in the second one it has lost blanks at the ends of
some lines in front of its code. Then both scans end alike: with the same scripts and libraries and
as many lines in front of the code, where a last line without a line end that has nothing left is
not counted; or with the same failure. The exception is a directive without a target that has lost
all the blanks behind its tag. -/
theorem scan_trims {h k : Host} {settings : Settings} {path : String} {source source' : List Char}
    {n : Nat} (hsource : ReadsAs settings.encoding (h.find path) source)
    (ksource : ReadsAs settings.encoding (k.find path) source')
    (htrims : Trims n (breakLines source) (breakLines source'))
    (hcode : ∀ s, Leading.read (lines source) = .ok s → n ≤ s.offset)
    (hsame : SamePlaces h k) :
    (∀ u h', scan settings path h = (.ok u, h') → ∃ v k', scan settings path k = (.ok v, k')
      ∧ v.includes = u.includes ∧ v.imports = u.imports ∧ (v.lineOffset = u.lineOffset
        ∨ (lines source').length + 1 = (lines source).length ∧ v.lineOffset + 1 = u.lineOffset))
    ∧ ∀ e h', scan settings path h = (.error e, h') → (∃ k', scan settings path k = (.error e, k'))
      ∨ ∃ error i, e = .scan ⟨path, error⟩ ∧ error.line = i + 1
        ∧ Bared (breakLines source) (breakLines source') i error.fault := by
  obtain ⟨hok, herror⟩ := Leading.read_lines_trims htrims
  obtain ⟨bytes, enc, cs, hfile, henc, hcs, rfl⟩ := hsource
  obtain ⟨bytes', enc', cs', kfile, kenc, kcs, rfl⟩ := ksource
  obtain rfl : enc = enc' := Option.some.inj (henc.symm.trans kenc)
  have hfront := readFront_result hfile henc hcs
  have kfront := readFront_result kfile kenc kcs
  rw [funext hsame.isFile] at kfront
  cases hread : Leading.read (lines (unifyBreaks cs)) with
  | error error =>
    rw [hread] at hfront
    have hi : inspect settings path h = .error (.scan ⟨path, error⟩) := by
      unfold inspect
      rw [hfront]
      rfl
    refine ⟨fun u h' hs => ?_, fun e h' hs => ?_⟩
    · obtain ⟨f, hu⟩ := scan_ok hs
      rw [hu.inspected] at hi
      cases hi
    · obtain rfl : e = .scan ⟨path, error⟩ := Except.error.inj ((scan_error hs).1.symm.trans hi)
      rcases herror error hread with kread | ⟨i, hline, hbared⟩
      · left
        rw [kread] at kfront
        refine scan_of_inspect_error ?_
        unfold inspect
        rw [kfront]
        rfl
      · exact .inr ⟨error, i, rfl, hline, hbared⟩
  | ok s =>
    obtain ⟨s', kread, hblock, hdirectives, hoffset⟩ := hok s hread (hcode s hread)
    rw [hread] at hfront
    rw [kread] at kfront
    let targets := targetsOf (h.tree.isFile h.cwd ·) (dirname path) s.directives
    have hfront : (readFront settings path h).1 = .ok ⟨enc, s, targets.1, targets.2⟩ := hfront
    have kfront : (readFront settings path k).1 = .ok ⟨enc, s', targets.1, targets.2⟩ := by
      rw [kfront]
      simp only [Except.mapError, Except.map, hdirectives, targets]
    have hrefusal : refusal settings path k ⟨enc, s', targets.1, targets.2⟩
        = refusal settings path h ⟨enc, s, targets.1, targets.2⟩ := by
      rw [hsame.refusal]
      unfold refusal
      rw [hblock]
    refine ⟨fun u h' hs => ?_, fun e h' hs => ?_⟩
    · obtain ⟨f, hu⟩ := scan_ok hs
      have hi := hu.inspected
      unfold inspect at hi
      rw [hfront] at hi
      dsimp only at hi
      split at hi
      · cases hi
      · next hnone =>
        obtain rfl := Except.ok.inj hi
        obtain ⟨v, k', ks, kv⟩ :=
          scan_of_inspect_ok (inspect_of_readFront kfront (hrefusal.trans hnone))
        refine ⟨v, k', ks, kv.includes.trans hu.includes.symm, kv.imports.trans hu.imports.symm, ?_⟩
        cases hb : s.hasBlock with
        | true =>
          rw [(kv.copied (hblock.trans hb)).1, (hu.copied hb).1]
          exact hoffset
        | false =>
          rw [scan_lineOffset hs (hu.isCopied.trans hb),
            scan_lineOffset ks (kv.isCopied.trans (hblock.trans hb))]
          exact .inl rfl
    · left
      have hi := (scan_error hs).1
      refine scan_of_inspect_error ?_
      unfold inspect at hi ⊢
      rw [hfront] at hi
      rw [kfront]
      dsimp only at hi ⊢
      rw [hrefusal]
      split at hi
      · exact hi
      · cases hi

/-- A host with one file. -/
def fileHost (text : List Char) : Host :=
  { commentedHost with tree := ⟨[(["a.cs"], .file (Text.encodeUtf8 text))]⟩ }

/-- Only what the file holds is different. -/
theorem samePlaces_fileHost (text text' : List Char) :
    SamePlaces (fileHost text) (fileHost text') where
  cwd := rfl
  tempDir := rfl
  nodes p := by
    unfold Tree.at? fileHost
    simp only [List.lookup]
    split
    · rfl
    · cases p == ["a.cs"] <;> rfl

/-- A file with blanks at the ends of the lines in front of its code. -/
def blankedFile : List Char := "//#include b.cs \n\t\nclass A;".toList

/-- The same file without them. -/
def trimmedFile : List Char := "//#include b.cs\n\nclass A;".toList

theorem trims_blankedFile : Trims 2 (breakLines blankedFile) (breakLines trimmedFile) := by
  have hblanked : breakLines blankedFile
      = ["//#include b.cs".toList ++ [' '], [] ++ ['\t'], "class A;".toList] := by decide +kernel
  have htrimmed : breakLines trimmedFile = ["//#include b.cs".toList, [], "class A;".toList] := by
    decide +kernel
  rw [hblanked, htrimmed]
  refine .cons ?_ (.cons ?_ (.same _)) <;>
    simp [isBlank, Text.blankRanges, Text.Ranges.contains]

theorem scan_trims_include : ∃ v k',
    scan ⟨none, "utf-8"⟩ "/a.cs" (fileHost trimmedFile) = (.ok v, k')
      ∧ v.includes = ["/b.cs"] := by
  have hscan : scan ⟨none, "utf-8"⟩ "/a.cs" (fileHost blankedFile)
      = (.ok ⟨"/a.cs", "/a.cs", 0, ["/b.cs"], []⟩,
        (scan ⟨none, "utf-8"⟩ "/a.cs" (fileHost blankedFile)).2) :=
    Prod.ext (by decide +kernel) rfl
  have hreads : ReadsAs "utf-8" ((fileHost blankedFile).find "/a.cs") blankedFile :=
    .of_encodeUtf8 .utf8 rfl (by decide +kernel) (by decide +kernel) (by decide +kernel)
  have kreads : ReadsAs "utf-8" ((fileHost trimmedFile).find "/a.cs") trimmedFile :=
    .of_encodeUtf8 .utf8 rfl (by decide +kernel) (by decide +kernel) (by decide +kernel)
  have hcode (s : Leading) (hs : Leading.read (lines blankedFile) = .ok s) : 2 ≤ s.offset := by
    have hoffset : (Leading.read (lines blankedFile)).toOption.map Leading.offset = some 2 := by
      decide +kernel
    rw [hs] at hoffset
    exact (Option.some.inj hoffset).ge
  obtain ⟨hok, -⟩ := @scan_trims (fileHost blankedFile) (fileHost trimmedFile) ⟨none, "utf-8"⟩
    "/a.cs" blankedFile trimmedFile 2 hreads kreads trims_blankedFile hcode
    (samePlaces_fileHost blankedFile trimmedFile)
  obtain ⟨v, k', hv, hincludes, -⟩ := hok _ _ hscan
  exact ⟨v, k', hv, hincludes⟩

/-- A directive without a target is a fault with a blank behind its tag and a comment without one. A
line of blanks at the end is counted among the lines in front of the code, and an empty one is
not. -/
theorem scan_trims_bared :
    (Trims 1 (breakLines "//#include \nclass A;".toList) (breakLines "//#include\nclass A;".toList)
      ∧ (scan ⟨none, "utf-8"⟩ "/a.cs" (fileHost "//#include \nclass A;".toList)).1
        = .error (.scan ⟨"/a.cs", .emptyDirective .include, 1, 1⟩)
      ∧ (scan ⟨none, "utf-8"⟩ "/a.cs" (fileHost "//#include\nclass A;".toList)).1
        = .ok ⟨"/a.cs", "/a.cs", 0, [], []⟩)
    ∧ Trims 4 (breakLines "::\x7b\n\x7d::\n\n ".toList) (breakLines "::\x7b\n\x7d::\n\n".toList)
      ∧ (scan ⟨none, "utf-8"⟩ "/a.cs" (fileHost "::\x7b\n\x7d::\n\n ".toList)).1
        = .ok ⟨"/a.cs", "/csrun-00000000.cs", 4, [], []⟩
      ∧ (scan ⟨none, "utf-8"⟩ "/a.cs" (fileHost "::\x7b\n\x7d::\n\n".toList)).1
        = .ok ⟨"/a.cs", "/csrun-00000000.cs", 3, [], []⟩ := by
  have hblank : ∀ c ∈ [' '], isBlank c := by
    simp [isBlank, Text.blankRanges, Text.Ranges.contains]
  have hnone : ∀ c ∈ ([] : List Char), isBlank c := by simp
  refine ⟨⟨?_, by decide +kernel, by decide +kernel⟩, ?_, by decide +kernel, by decide +kernel⟩
  · have hbreaks : breakLines "//#include \nclass A;".toList
        = ["//#include".toList ++ [' '], "class A;".toList] := by decide +kernel
    have hbreaks' : breakLines "//#include\nclass A;".toList
        = ["//#include".toList, "class A;".toList] := by decide +kernel
    rw [hbreaks, hbreaks']
    exact .cons hblank (.same _)
  · have hbreaks : breakLines "::\x7b\n\x7d::\n\n ".toList
        = [blockOpen ++ [], blockClose ++ [], [] ++ [], [] ++ [' ']] := by decide +kernel
    have hbreaks' : breakLines "::\x7b\n\x7d::\n\n".toList = [blockOpen, blockClose, [], []] := by
      decide +kernel
    rw [hbreaks, hbreaks']
    exact .cons hnone (.cons hnone (.cons hnone (.cons hblank (.same _))))

end BraceScript.Source
