import BraceScript.Proofs.Text.Lines
import BraceScript.Source.Leading

/-!
# What a leading section leaves out

Lines are left out in front of the code of a file: first the metadata block, then layout and
comments. `MetadataBlock` and `Skippable` say what these are without saying how they are found, and
`Cut` says how much of some lines is left when a text in front is left out. The main statement is
`Leading.read_block`: with a metadata block, `Leading.read` leaves out the block and then text that
is `Skippable`, and its offset counts the lines that are gone altogether. `LeftOut` says more of
this text: blanks are left out only up to a line end or a comment, never right before code.
-/

namespace BraceScript.Source

open Text (unlines unlines_cons unlines_append unlines_nil count_unlines isBlank trimFront)

/-! ## Comments -/

/-- Text in which no comment is closed. -/
def Unclosed (cs : List Char) : Prop := ¬ ['*', '/'] <:+: cs

theorem Unclosed.nil : Unclosed [] := by simp [Unclosed]

/-- A comment is not closed across two lines. -/
theorem Unclosed.append {x y : List Char} (hx : Unclosed x) (hy : Unclosed y) :
    Unclosed (x ++ '\n' :: y) := by
  induction x with
  | nil =>
    intro h
    rcases List.infix_cons_iff.mp h with h | h
    · simp [List.cons_prefix_cons] at h
    · exact hy h
  | cons c x ih =>
    have hx' : Unclosed x := fun h => hx (List.infix_cons_iff.mpr (.inr h))
    intro h
    rw [List.cons_append] at h
    rcases List.infix_cons_iff.mp h with h | h
    · cases x with
      | nil => simp [List.cons_prefix_cons] at h
      | cons d x =>
        simp only [List.cons_append, List.cons_prefix_cons, List.nil_prefix, and_true] at h
        obtain ⟨rfl, rfl⟩ := h
        exact hx (List.prefix_append ['*', '/'] x).isInfix
    · exact ih hx' h

theorem afterComment_eq_none {cs : List Char} (h : afterComment cs = none) : Unclosed cs := by
  fun_induction afterComment cs with
  | case1 => exact .nil
  | case2 => simp at h
  | case3 c cs hne ih =>
    intro hi
    rcases List.infix_cons_iff.mp hi with hp | hp
    · obtain ⟨rest, hr⟩ := hp
      simp only [List.cons_append, List.nil_append, List.cons.injEq] at hr
      exact hne rest hr.1.symm hr.2.symm
    · exact ih h hp

/-- Up to its first closing mark a comment is not closed. -/
theorem afterComment_eq_some {cs rest : List Char} (h : afterComment cs = some rest) :
    ∃ inner, cs = inner ++ '*' :: '/' :: rest ∧ Unclosed inner := by
  fun_induction afterComment cs with
  | case1 => simp at h
  | case2 cs =>
    obtain rfl : cs = rest := by simpa using h
    exact ⟨[], rfl, .nil⟩
  | case3 c cs hne ih =>
    obtain ⟨inner, rfl, hi⟩ := ih h
    refine ⟨c :: inner, rfl, fun hin => ?_⟩
    rcases List.infix_cons_iff.mp hin with hp | hp
    · obtain ⟨tail, ht⟩ := hp
      simp only [List.cons_append, List.nil_append, List.cons.injEq] at ht
      exact hne (tail ++ '*' :: '/' :: rest) ht.1.symm (by rw [← ht.2]; rfl)
    · exact hi hp

/-! ## Layout and comments -/

/-- Text that consists of blank characters and comments. A directive is a comment that takes the
rest of its line. -/
inductive Skippable : List Char → Prop
  | nil : Skippable []
  | blank {c : Char} {cs : List Char} : isBlank c → Skippable cs → Skippable (c :: cs)
  | block {inner cs : List Char} : Unclosed inner → Skippable cs →
    Skippable ('/' :: '*' :: (inner ++ '*' :: '/' :: cs))
  | line {inner cs : List Char} : '\n' ∉ inner → Skippable cs →
    Skippable ('/' :: '/' :: (inner ++ '\n' :: cs))

/-- Text that is left out: comments and line ends, each with the characters in front of it on its
line, which are of the kind `P`. -/
inductive LeftOut (P : Char → Prop) : List Char → Prop
  | nil : LeftOut P []
  | lineEnd {ws cs : List Char} : (∀ c ∈ ws, P c) → LeftOut P cs → LeftOut P (ws ++ '\n' :: cs)
  | block {ws inner cs : List Char} : (∀ c ∈ ws, P c) → Unclosed inner → LeftOut P cs →
    LeftOut P (ws ++ '/' :: '*' :: (inner ++ '*' :: '/' :: cs))
  | line {ws inner cs : List Char} : (∀ c ∈ ws, P c) → '\n' ∉ inner → LeftOut P cs →
    LeftOut P (ws ++ '/' :: '/' :: (inner ++ '\n' :: cs))

theorem LeftOut.append {P : Char → Prop} {x y : List Char} (hx : LeftOut P x)
    (hy : LeftOut P y) : LeftOut P (x ++ y) := by
  induction hx with
  | nil => exact hy
  | lineEnd hws _ ih =>
    simp only [List.cons_append, List.append_assoc]
    exact .lineEnd hws ih
  | block hws hi _ ih =>
    simp only [List.cons_append, List.append_assoc]
    exact .block hws hi ih
  | line hws hi _ ih =>
    simp only [List.cons_append, List.append_assoc]
    exact .line hws hi ih

/-- Text is left out just the same when its characters are of another kind too. -/
theorem LeftOut.imp {P Q : Char → Prop} {cs : List Char} (h : LeftOut P cs)
    (hpq : ∀ c ∈ cs, P c → Q c) : LeftOut Q cs := by
  have hfront : ∀ {ws rest : List Char}, (∀ c ∈ ws, P c) → (∀ c ∈ ws ++ rest, P c → Q c) →
      ∀ c ∈ ws, Q c :=
    fun hws himp c hc => himp c (List.mem_append_left _ hc) (hws c hc)
  induction h with
  | nil => exact .nil
  | lineEnd hws _ ih => exact .lineEnd (hfront hws hpq) (ih fun c hc => hpq c (by simp [hc]))
  | block hws hi _ ih => exact .block (hfront hws hpq) hi (ih fun c hc => hpq c (by simp [hc]))
  | line hws hi _ ih => exact .line (hfront hws hpq) hi (ih fun c hc => hpq c (by simp [hc]))

theorem Skippable.blanks {ws cs : List Char} (hws : ∀ c ∈ ws, isBlank c) (hcs : Skippable cs) :
    Skippable (ws ++ cs) := by
  induction ws with
  | nil => exact hcs
  | cons c ws ih =>
    obtain ⟨hc, hws⟩ := List.forall_mem_cons.mp hws
    exact .blank hc (ih hws)

/-- What is left out can be skipped. -/
theorem LeftOut.skippable {cs : List Char} (h : LeftOut (isBlank ·) cs) : Skippable cs := by
  induction h with
  | nil => exact .nil
  | lineEnd hws _ ih => exact .blanks hws (.blank (by decide) ih)
  | block hws hi _ ih => exact .blanks hws (.block hi ih)
  | line hws hi _ ih => exact .blanks hws (.line hi ih)

/-- What is trimmed in front of a line is blank. -/
theorem exists_blanks_trimFront (line : List Char) :
    ∃ ws, line = ws ++ trimFront line ∧ ∀ c ∈ ws, isBlank c :=
  ⟨line.takeWhile isBlank, (List.takeWhile_append_dropWhile).symm,
    fun _ hc => List.mem_takeWhile_imp hc⟩

/-! ## One line -/

/-- A directive is a comment. -/
theorem targetAfter_isSome {tag : Tag} {line : List Char} {t : String}
    (h : targetAfter tag line = some t) : ['/', '/'] <+: line := by
  have hp : tag.text.toList.isPrefixOf line := by
    unfold targetAfter at h
    split at h
    · assumption
    · simp at h
  have hmarks : ['/', '/'] <+: tag.text.toList := by cases tag <;> decide
  exact hmarks.trans (List.isPrefixOf_iff_prefix.mp hp)

theorem directiveOf?_isSome {line : List Char} {d : Directive} (h : directiveOf? line = some d) :
    ['/', '/'] <+: line := by
  unfold directiveOf? at h
  split at h
  · next t ht => exact targetAfter_isSome ht
  · obtain ⟨t, ht, -⟩ := Option.map_eq_some_iff.mp h
    exact targetAfter_isSome ht

theorem leftOut_of_marks {P : Char → Prop} {ws line : List Char} (hws : ∀ c ∈ ws, P c)
    (h : ['/', '/'] <+: line) (hl : '\n' ∉ line) : LeftOut P (ws ++ (line ++ ['\n'])) := by
  obtain ⟨inner, rfl⟩ := h
  simp only [List.cons_append, List.nil_append, List.mem_cons, not_or] at hl ⊢
  exact .line hws hl.2.2 .nil

/-- What the kind of a line says about its text. -/
def LineKind.Describes (line : List Char) : LineKind → Prop
  | .passed _ => LeftOut (isBlank ·) (line ++ ['\n'])
  | .opened _ => ∃ q ws x, line = q ++ (ws ++ '/' :: '*' :: x) ∧ LeftOut (isBlank ·) q
      ∧ (∀ c ∈ ws, isBlank c) ∧ Unclosed x
  | .code cs => ∃ q, line = q ++ cs ∧ LeftOut (isBlank ·) q

/-- Text that is left out in front of a line does not change what its kind says. -/
theorem LineKind.Describes.append {q line : List Char} {k : LineKind}
    (hq : LeftOut (isBlank ·) q) (h : k.Describes line) : k.Describes (q ++ line) := by
  cases k with
  | passed d =>
    show LeftOut (isBlank ·) (q ++ line ++ ['\n'])
    rw [List.append_assoc]
    exact hq.append h
  | opened n =>
    obtain ⟨q', ws, x, rfl, hq', hws, hx⟩ := h
    exact ⟨q ++ q', ws, x, by simp, hq.append hq', hws, hx⟩
  | code cs =>
    obtain ⟨q', rfl, hq'⟩ := h
    exact ⟨q ++ q', by simp, hq.append hq'⟩

theorem lineKind_describes {line : List Char} (hl : '\n' ∉ line) :
    (lineKind line).Describes line := by
  fun_induction lineKind line with
  | case1 line ht =>
    obtain ⟨ws, hline, hws⟩ := exists_blanks_trimFront line
    rw [ht, List.append_nil] at hline
    rw [hline]
    exact .lineEnd hws .nil
  | case2 line cs ht hr =>
    obtain ⟨ws, hline, hws⟩ := exists_blanks_trimFront line
    exact ⟨[], ws, cs, by rw [← ht]; exact hline, .nil, hws, afterComment_eq_none hr⟩
  | case3 line cs ht rest hr ih =>
    obtain ⟨ws, hline, hws⟩ := exists_blanks_trimFront line
    obtain ⟨inner, rfl, hi⟩ := afterComment_eq_some hr
    have hline' : line = ws ++ '/' :: '*' :: (inner ++ ['*', '/']) ++ rest := by
      rw [hline, ht]
      simp
    rw [hline'] at hl ⊢
    simp only [List.mem_append, not_or] at hl
    exact LineKind.Describes.append (.block hws hi .nil) (ih hl.2)
  | case4 line d hd _ _ =>
    exact leftOut_of_marks (List.forall_mem_nil _) (directiveOf?_isSome hd) hl
  | case5 line ht _ _ hm =>
    obtain ⟨ws, hline, hws⟩ := exists_blanks_trimFront line
    show LeftOut (isBlank ·) (line ++ ['\n'])
    rw [hline] at hl ⊢
    simp only [List.mem_append, not_or] at hl
    rw [List.append_assoc]
    exact leftOut_of_marks hws (List.isPrefixOf_iff_prefix.mp hm) hl.2
  | case6 line _ _ _ _ => exact ⟨[], rfl, .nil⟩

/-! ## Lines of a section -/

/-- `Cut ls n front body`: when the text `front` is left out in front of the lines `ls`, the lines
`body` are left, and `n` lines are gone. Leaving out everything leaves no empty line. -/
inductive Cut : List (List Char) → Nat → List Char → List (List Char) → Prop
  | all (ls : List (List Char)) : Cut ls ls.length (unlines ls) []
  | within (ks : List (List Char)) (p s : List Char) (ls : List (List Char)) :
    Cut (ks ++ (p ++ s) :: ls) ks.length (unlines ks ++ p) (s :: ls)

/-- One more line that is left out. -/
theorem Cut.cons {ls body : List (List Char)} {n : Nat} {front : List Char}
    (l : List Char) (h : Cut ls n front body) :
    Cut (l :: ls) (n + 1) (l ++ '\n' :: front) body := by
  cases h with
  | all ls =>
    rw [← unlines_cons]
    exact .all (l :: ls)
  | within ks p s ls =>
    have := Cut.within (l :: ks) p s ls
    rwa [unlines_cons, List.append_assoc, List.cons_append] at this

/-- What is left out and what is left make up the lines, and a line is gone for every line feed
that is left out. -/
theorem Cut.text {ls body : List (List Char)} {n : Nat} {front : List Char}
    (hls : ∀ l ∈ ls, '\n' ∉ l) (h : Cut ls n front body) :
    front ++ unlines body = unlines ls ∧ front.count '\n' = n := by
  cases h with
  | all ls => exact ⟨List.append_nil _, count_unlines hls⟩
  | within ks p s ls =>
    obtain ⟨hks, hrest⟩ := List.forall_mem_append.mp hls
    have hp : '\n' ∉ p := fun hp =>
      hrest (p ++ s) List.mem_cons_self (List.mem_append_left s hp)
    constructor
    · rw [unlines_append, unlines_cons, unlines_cons, List.append_assoc, List.append_assoc]
    · rw [List.count_append, List.count_eq_zero_of_not_mem hp, count_unlines hks, Nat.add_zero]

/-- Text that is left out where a comment may be open. -/
def LeftOutFrom (comment : Option (Nat × Nat)) (cs : List Char) : Prop :=
  match comment with
  | none => LeftOut (isBlank ·) cs
  | some _ =>
    ∃ inner rest, cs = inner ++ '*' :: '/' :: rest ∧ Unclosed inner ∧ LeftOut (isBlank ·) rest

/-- What is visible of a line, what is left out in front of it, and what its kind says. -/
theorem visible_eq_some {comment : Option (Nat × Nat)} {l text : List Char} (hl : '\n' ∉ l)
    (h : visible comment l = some text) :
    ∃ p, l = p ++ text ∧ (∀ cs, LeftOut (isBlank ·) cs → LeftOutFrom comment (p ++ cs))
      ∧ (lineKind text).Describes text := by
  cases comment with
  | none =>
    obtain rfl : l = text := by simpa [visible] using h
    exact ⟨[], rfl, fun _ hcs => hcs, lineKind_describes hl⟩
  | some at? =>
    obtain ⟨inner, rfl, hi⟩ := afterComment_eq_some h
    simp only [List.mem_append, List.mem_cons, not_or] at hl
    exact ⟨inner ++ ['*', '/'], by simp, fun cs hcs => ⟨inner, cs, by simp, hi, hcs⟩,
      lineKind_describes hl.2.2.2⟩

/-- A line of which nothing is visible belongs to the comment. -/
theorem LeftOutFrom.cons {comment : Option (Nat × Nat)} {l cs : List Char}
    (hl : visible comment l = none) (h : LeftOutFrom comment cs) :
    LeftOutFrom comment (l ++ '\n' :: cs) := by
  cases comment with
  | none => simp [visible] at hl
  | some at? =>
    obtain ⟨inner, rest, rfl, hi, hrest⟩ := h
    exact ⟨l ++ '\n' :: inner, rest, by simp, (afterComment_eq_none hl).append hi, hrest⟩

/-- A comment that is opened behind blanks and closed later is left out. -/
theorem leftOut_of_opened {q ws x cs : List Char} {at? : Nat × Nat} (hq : LeftOut (isBlank ·) q)
    (hws : ∀ c ∈ ws, isBlank c) (hx : Unclosed x) (h : LeftOutFrom (some at?) cs) :
    LeftOut (isBlank ·) (q ++ (ws ++ '/' :: '*' :: (x ++ '\n' :: cs))) := by
  obtain ⟨inner, rest, rfl, hi, hrest⟩ := h
  have := hq.append (.block hws (hx.append hi) hrest)
  simpa using this

/-- A line that is passed is left out with what is left out behind it. -/
theorem LeftOutFrom.passed {comment : Option (Nat × Nat)} {l text cs : List Char}
    {d : Option Directive} (hl : '\n' ∉ l) (hv : visible comment l = some text)
    (hk : lineKind text = .passed d) (h : LeftOut (isBlank ·) cs) :
    LeftOutFrom comment (l ++ '\n' :: cs) := by
  obtain ⟨p, rfl, hp, hd⟩ := visible_eq_some hl hv
  rw [hk] at hd
  have := hp _ (LeftOut.append hd h)
  simpa using this

/-- A section leaves out comments and line ends, and its offset counts the lines that are gone. -/
theorem readSection_ok {offset : Nat} {comment : Option (Nat × Nat)} {ls : List (List Char)}
    {s : Leading} (hls : ∀ l ∈ ls, '\n' ∉ l) (h : readSection offset comment ls = .ok s) :
    ∃ n front, s.offset = offset + n ∧ Cut ls n front s.body ∧ LeftOutFrom comment front := by
  fun_induction readSection offset comment ls generalizing s with
  | case1 offset =>
    obtain rfl : _ = s := Except.ok.inj h
    exact ⟨0, [], rfl, .all [], .nil⟩
  | case2 => simp at h
  | case3 offset comment l ls hv ih =>
    obtain ⟨n, front, ho, hc, hf⟩ := ih (fun k hk => hls k (.tail _ hk)) h
    exact ⟨n + 1, _, by omega, hc.cons l, hf.cons hv⟩
  | case4 offset comment l ls text hv cs hk =>
    obtain rfl : _ = s := Except.ok.inj h
    obtain ⟨p, rfl, hp, hd⟩ := visible_eq_some (hls l List.mem_cons_self) hv
    rw [hk] at hd
    obtain ⟨q, rfl, hq⟩ := hd
    refine ⟨0, p ++ q, rfl, ?_, hp q hq⟩
    have := Cut.within [] (p ++ q) cs ls
    simpa using this
  | case5 offset comment l ls text hv column hk ih =>
    obtain ⟨n, front, ho, hc, hf⟩ := ih (fun k hk => hls k (.tail _ hk)) h
    obtain ⟨p, rfl, hp, hd⟩ := visible_eq_some (hls l List.mem_cons_self) hv
    rw [hk] at hd
    obtain ⟨q, ws, x, rfl, hq, hws, hx⟩ := hd
    refine ⟨n + 1, _, by omega, hc.cons _, ?_⟩
    have := hp _ (leftOut_of_opened hq hws hx hf)
    simpa using this
  | case6 offset comment l ls text hv hk ih =>
    obtain ⟨n, front, ho, hc, hf⟩ := ih (fun k hk => hls k (.tail _ hk)) h
    exact ⟨n + 1, _, by omega, hc.cons l, .passed (hls l List.mem_cons_self) hv hk hf⟩
  | case7 => simp at h
  | case8 offset comment l ls text hv d hk _ ih =>
    cases hr : readSection (offset + 1) none ls with
    | error e => simp [hr, Except.map] at h
    | ok s' =>
      obtain ⟨n, front, ho, hc, hf⟩ := ih (fun k hk => hls k (.tail _ hk)) hr
      simp only [hr, Except.map, Except.ok.injEq] at h
      subst h
      refine ⟨n + 1, _, ?_, hc.cons l, .passed (hls l List.mem_cons_self) hv hk hf⟩
      simp only
      omega

/-! ## Metadata blocks -/

/-- `MetadataBlock block rest`: the lines `block` are a metadata block with its separator line,
when the lines `rest` come behind it. A block that is never closed takes all lines. -/
inductive MetadataBlock : List (List Char) → List (List Char) → Prop
  | closed {first last : List Char} {inner : List (List Char)} (separator : List Char)
    (rest : List (List Char)) : blockOpen <+: first → (∀ l ∈ inner, ¬ blockClose <+: l) →
    blockClose <+: last → MetadataBlock (first :: inner ++ [last, separator]) rest
  | closedAtEnd {first last : List Char} {inner : List (List Char)} : blockOpen <+: first →
    (∀ l ∈ inner, ¬ blockClose <+: l) → blockClose <+: last →
    MetadataBlock (first :: inner ++ [last]) []
  | unclosed {first : List Char} {inner : List (List Char)} : blockOpen <+: first →
    (∀ l ∈ inner, ¬ blockClose <+: l) → MetadataBlock (first :: inner) []

/-- One more line inside of a block. -/
theorem MetadataBlock.cons_inner {first l : List Char} {block rest : List (List Char)}
    (hl : ¬ blockClose <+: l) (h : MetadataBlock (first :: block) rest) :
    MetadataBlock (first :: l :: block) rest := by
  have hcons : ∀ {inner : List (List Char)}, (∀ k ∈ inner, ¬ blockClose <+: k) →
      ∀ k ∈ l :: inner, ¬ blockClose <+: k := by
    intro inner hi k hk
    rcases List.mem_cons.mp hk with rfl | hk
    · exact hl
    · exact hi k hk
  generalize hb : first :: block = b at h
  cases h with
  | closed separator rest ho hi hc =>
    simp only [List.cons_append, List.cons.injEq] at hb
    obtain ⟨rfl, rfl⟩ := hb
    exact .closed separator rest ho (hcons hi) hc
  | closedAtEnd ho hi hc =>
    simp only [List.cons_append, List.cons.injEq] at hb
    obtain ⟨rfl, rfl⟩ := hb
    exact .closedAtEnd ho (hcons hi) hc
  | unclosed ho hi =>
    simp only [List.cons.injEq] at hb
    obtain ⟨rfl, rfl⟩ := hb
    exact .unclosed ho (hcons hi)

theorem skipBlock_spec {first : List Char} (ls : List (List Char)) (ho : blockOpen <+: first) :
    ∃ block, ls = block ++ (skipBlock ls).2 ∧ (skipBlock ls).1 = block.length
      ∧ MetadataBlock (first :: block) (skipBlock ls).2 := by
  have hnone : ∀ l ∈ ([] : List (List Char)), ¬ blockClose <+: l := by simp
  fun_induction skipBlock ls with
  | case1 => exact ⟨[], rfl, rfl, .unclosed ho hnone⟩
  | case2 l hl =>
    exact ⟨[l], rfl, rfl, .closedAtEnd ho hnone (List.isPrefixOf_iff_prefix.mp hl)⟩
  | case3 l hl k ls =>
    exact ⟨[l, k], rfl, rfl, .closed k ls ho hnone (List.isPrefixOf_iff_prefix.mp hl)⟩
  | case4 l ls hl r ih =>
    obtain ⟨block, hls, hlen, hb⟩ := ih
    refine ⟨l :: block, by rw [List.cons_append, ← hls], by simp [r, hlen], ?_⟩
    exact hb.cons_inner fun h => hl (List.isPrefixOf_iff_prefix.mpr h)

/-- A file with a metadata block consists of the block and the section behind it. -/
theorem Leading.read_of_open {ls : List (List Char)} (hopen : blockOpen <+: ls.headD []) :
    ∃ block rest, ls = block ++ rest ∧ MetadataBlock block rest
      ∧ Leading.read ls
        = (readSection block.length none rest).map fun s => { s with hasBlock := true } := by
  cases ls with
  | nil => simp [blockOpen] at hopen
  | cons l ls =>
    rw [List.headD_cons] at hopen
    obtain ⟨block, hsplit, hlen, hblock⟩ := skipBlock_spec ls hopen
    refine ⟨l :: block, (skipBlock ls).2, by rw [List.cons_append, ← hsplit], hblock, ?_⟩
    simp only [Leading.read]
    rw [if_pos (List.isPrefixOf_iff_prefix.mpr hopen), hlen, List.length_cons]

/-- With a metadata block, the block is left out and then skippable text, and the offset counts
the lines that are gone. -/
theorem Leading.read_block {ls : List (List Char)} {s : Leading} (hls : ∀ l ∈ ls, '\n' ∉ l)
    (hb : blockOpen <+: ls.headD []) (h : Leading.read ls = .ok s) :
    s.hasBlock = true ∧ ∃ block rest n front, ls = block ++ rest ∧ MetadataBlock block rest
      ∧ s.offset = block.length + n ∧ Cut rest n front s.body ∧ Skippable front := by
  obtain ⟨block, rest, hsplit, hblock, hread⟩ := Leading.read_of_open hb
  rw [hread] at h
  cases hr : readSection block.length none rest with
  | error e => simp [hr, Except.map] at h
  | ok s' =>
    simp only [hr, Except.map, Except.ok.injEq] at h
    subst h
    have hrest : ∀ k ∈ rest, '\n' ∉ k := fun k hk =>
      hls k (hsplit ▸ List.mem_append_right block hk)
    obtain ⟨n, front, hoff, hcut, hfront⟩ := readSection_ok hrest hr
    exact ⟨rfl, block, rest, n, front, hsplit, hblock, hoff, hcut, hfront.skippable⟩

end BraceScript.Source
