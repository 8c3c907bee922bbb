import BraceScript.Code.Text
import BraceScript.Proofs.Text.Lines

/-!
# Reading code by its indentation

Indented code says its structure by its lines alone: a line that ends in a colon opens a suite, the
lines below it that stand deeper, and a level is four blanks. `readText` reads a text by this rule;
it refuses a line that stands too deep and a suite without lines. What was printed from `Node`s
whose lines are lines of their own is read as these nodes again (`readText_print`).
-/

namespace BraceScript.Code

/-! ## Lines -/

/-- A text in which no line ends. -/
def Unbroken (t : String) : Prop := '\n' ∉ t.toList ∧ '\r' ∉ t.toList

/-- A text that begins with something else than a blank. -/
def Opens (t : String) : Prop := ∃ c ∈ t.toList.head?, c ≠ ' '

/-- A text that ends in something else than a colon. -/
def Closes (t : String) : Prop := ∃ c ∈ t.toList.getLast?, c ≠ ':'

/-- A text that is read as a simple line. -/
structure OneLine (t : String) : Prop where
  unbroken : Unbroken t
  opens : Opens t
  closes : Closes t

/-- A text that is read as the line above a suite. -/
structure IsHead (t : String) : Prop where
  unbroken : Unbroken t
  opens : Opens t
  colon : t.toList.getLast? = some ':'

section
variable (t : String)

instance : Decidable (Unbroken t) := inferInstanceAs (Decidable (_ ∧ _))

instance : Decidable (Opens t) :=
  decidable_of_iff (t.toList.head?.any (· != ' ') = true) (by simp [Opens, Option.any_eq_true])

instance : Decidable (Closes t) :=
  decidable_of_iff (t.toList.getLast?.any (· != ':') = true) (by simp [Closes, Option.any_eq_true])

instance : Decidable (OneLine t) :=
  decidable_of_iff (Unbroken t ∧ Opens t ∧ Closes t)
    ⟨fun h => ⟨h.1, h.2.1, h.2.2⟩, fun h => ⟨h.1, h.2, h.3⟩⟩

end

theorem Unbroken.append {t u : String} (ht : Unbroken t) (hu : Unbroken u) : Unbroken (t ++ u) := by
  unfold Unbroken at *
  simp only [String.toList_append, List.mem_append, not_or]
  exact ⟨⟨ht.1, hu.1⟩, ht.2, hu.2⟩

theorem Opens.append {t : String} (ht : Opens t) (u : String) : Opens (t ++ u) := by
  obtain ⟨c, hc, hne⟩ := ht
  refine ⟨c, ?_, hne⟩
  rw [String.toList_append, List.head?_append, Option.mem_def.mp hc]
  rfl

theorem Closes.append {u : String} (hu : Closes u) (t : String) : Closes (t ++ u) := by
  obtain ⟨c, hc, hne⟩ := hu
  refine ⟨c, ?_, hne⟩
  rw [String.toList_append, List.getLast?_append, Option.mem_def.mp hc]
  rfl

/-- Lines of their own joined by something in between are one line. -/
theorem OneLine.join {t u : String} (ht : OneLine t) (between : String) (hb : Unbroken between)
    (hu : OneLine u) : OneLine (t ++ between ++ u) :=
  ⟨(ht.unbroken.append hb).append hu.unbroken, (ht.opens.append _).append _, hu.closes.append _⟩

/-- A text with a colon behind it. -/
theorem IsHead.between {front t : String} (hopens : Opens front) (hfront : Unbroken front)
    (ht : Unbroken t) : IsHead (front ++ t ++ ":") where
  unbroken := (hfront.append ht).append (by decide)
  opens := (hopens.append _).append _
  colon := by simp

/-! ## Structure -/

/-- A piece of code: a simple line, or a line with a suite below it. -/
inductive Node
  | line (text : String)
  | header (text : String) (suite : List Node)

mutual

/-- The lines of a node. -/
def Node.lines : Node → List String
  | .line t => [t]
  | .header t suite => t :: indent (Node.allLines suite)

/-- The lines of nodes. -/
def Node.allLines : List Node → List String
  | [] => []
  | n :: ns => n.lines ++ Node.allLines ns

end

mutual

/-- A node whose lines are read as what they are, with no empty suite. -/
def Node.Proper : Node → Prop
  | .line t => OneLine t
  | .header t suite => IsHead t ∧ suite ≠ [] ∧ Node.AllProper suite

/-- Nodes whose lines are read as what they are, with no empty suite. -/
def Node.AllProper : List Node → Prop
  | [] => True
  | n :: ns => n.Proper ∧ Node.AllProper ns

end

theorem Node.allLines_append (ns ms : List Node) :
    Node.allLines (ns ++ ms) = Node.allLines ns ++ Node.allLines ms := by
  induction ns with
  | nil => rfl
  | cons n ns ih => rw [List.cons_append, Node.allLines, ih, Node.allLines, List.append_assoc]

theorem Node.allProper_append {ns ms : List Node} :
    Node.AllProper (ns ++ ms) ↔ Node.AllProper ns ∧ Node.AllProper ms := by
  induction ns with
  | nil => simp only [List.nil_append, Node.AllProper, true_and]
  | cons n ns ih => rw [List.cons_append, Node.AllProper, ih, Node.AllProper, and_assoc]

/-! ## Reading -/

/-- The level of a line and its text: a level is four blanks. A line of blanks has no level. -/
def levelOf (line : List Char) : Option (Nat × String) :=
  let blanks := (line.takeWhile (· == ' ')).length
  let text := line.dropWhile (· == ' ')
  if text.isEmpty || blanks % 4 != 0 then none else some (blanks / 4, String.ofList text)

/-- Reads lines as a suite of a level: a line that ends in a colon opens a suite one level deeper,
the lines that follow and stand deeper than it. -/
def readSuite (k : Nat) : List (Nat × String) → Option (List Node)
  | [] => some []
  | (level, text) :: ls =>
    if level ≠ k then none
    else if text.toList.getLast? = some ':' then
      match readSuite (k + 1) (ls.takeWhile (k < ·.1)), readSuite k (ls.dropWhile (k < ·.1)) with
      | some (n :: ns), some rest => some (.header text (n :: ns) :: rest)
      | _, _ => none
    else (readSuite k ls).map (.line text :: ·)
termination_by ls => ls.length
decreasing_by
  · exact Nat.lt_succ_of_le (List.takeWhile_prefix _).length_le
  · exact Nat.lt_succ_of_le (List.dropWhile_suffix _).length_le
  · exact Nat.lt_succ_self _

/-- Reads a text as a suite of a level. -/
def readText (k : Nat) (text : String) : Option (List Node) :=
  ((Text.breakLines (Text.unifyBreaks text.toList)).mapM levelOf).bind (readSuite k)

/-! ## Lines with their levels -/

mutual

/-- The lines of a node with their levels, from the level of the node on. -/
def Node.placed (k : Nat) : Node → List (Nat × String)
  | .line t => [(k, t)]
  | .header t suite => (k, t) :: Node.allPlaced (k + 1) suite

/-- The lines of nodes with their levels. -/
def Node.allPlaced (k : Nat) : List Node → List (Nat × String)
  | [] => []
  | n :: ns => n.placed k ++ Node.allPlaced k ns

end

/-- A line at a level. -/
def atLevel (l : Nat × String) : String := String.ofList (List.replicate (4 * l.1) ' ') ++ l.2

mutual

theorem Node.le_of_mem_placed {k : Nat} {l : Nat × String} :
    ∀ n : Node, l ∈ n.placed k → k ≤ l.1
  | .line t, h => by
    rw [Node.placed, List.mem_singleton] at h
    exact h ▸ Nat.le_refl k
  | .header t suite, h => by
    rw [Node.placed, List.mem_cons] at h
    rcases h with rfl | h
    · exact Nat.le_refl k
    · exact Nat.le_of_succ_le (Node.le_of_mem_allPlaced suite h)

/-- Nothing of a suite stands less deep than it. -/
theorem Node.le_of_mem_allPlaced {k : Nat} {l : Nat × String} :
    ∀ ns : List Node, l ∈ Node.allPlaced k ns → k ≤ l.1
  | [], h => by
    rw [Node.allPlaced] at h
    cases h
  | n :: ns, h => by
    rw [Node.allPlaced, List.mem_append] at h
    exact h.elim (Node.le_of_mem_placed n) (Node.le_of_mem_allPlaced ns)

end

/-- A suite begins at its own level. -/
theorem Node.head_allPlaced {k : Nat} (ns : List Node) :
    ∀ l ∈ (Node.allPlaced k ns).head?, l.1 = k := by
  cases ns with
  | nil => exact fun l h => nomatch h
  | cons n ns => cases n <;> (rintro l ⟨⟩; rfl)

/-- Behind a header stand the lines of its suite, and then what stands no deeper than it. -/
theorem Node.takeWhile_allPlaced (k : Nat) (suite ns : List Node) :
    (Node.allPlaced (k + 1) suite ++ Node.allPlaced k ns).takeWhile (k < ·.1)
        = Node.allPlaced (k + 1) suite
      ∧ (Node.allPlaced (k + 1) suite ++ Node.allPlaced k ns).dropWhile (k < ·.1)
        = Node.allPlaced k ns := by
  have hdeeper : ∀ l ∈ Node.allPlaced (k + 1) suite, decide (k < l.1) = true :=
    fun l hl => decide_eq_true (Node.le_of_mem_allPlaced suite hl)
  rw [List.takeWhile_append_of_pos hdeeper, List.dropWhile_append_of_pos hdeeper]
  have hhead := Node.head_allPlaced (k := k) ns
  cases hns : Node.allPlaced k ns with
  | nil => exact ⟨List.append_nil _, rfl⟩
  | cons l ls =>
    rw [hns] at hhead
    have hlevel : ¬k < l.1 := by
      rw [hhead l rfl]
      exact Nat.lt_irrefl k
    rw [List.takeWhile_cons_of_neg (by simpa using hlevel),
      List.dropWhile_cons_of_neg (by simpa using hlevel)]
    exact ⟨List.append_nil _, rfl⟩

/-- The lines of proper nodes are read as these nodes. -/
theorem readSuite_allPlaced (k : Nat) : ∀ ns : List Node, Node.AllProper ns →
    readSuite k (Node.allPlaced k ns) = some ns
  | [], _ => by rw [Node.allPlaced, readSuite]
  | .line t :: ns, h => by
    rw [Node.AllProper, Node.Proper] at h
    have hcolon : t.toList.getLast? ≠ some ':' := by
      obtain ⟨c, hc, hne⟩ := h.1.closes
      rw [Option.mem_def.mp hc]
      exact fun heq => hne (Option.some.inj heq)
    rw [Node.allPlaced, Node.placed, List.singleton_append, readSuite, if_neg (fun h => h rfl),
      if_neg hcolon, readSuite_allPlaced k ns h.2]
    rfl
  | .header t suite :: ns, h => by
    rw [Node.AllProper, Node.Proper] at h
    obtain ⟨⟨hhead, hne, hsuite⟩, hrest⟩ := h
    obtain ⟨htake, hdrop⟩ := Node.takeWhile_allPlaced k suite ns
    obtain ⟨n, rest, rfl⟩ := List.exists_cons_of_ne_nil hne
    rw [Node.allPlaced, Node.placed, List.cons_append, readSuite, if_neg (fun h => h rfl),
      if_pos hhead.colon, htake, hdrop, readSuite_allPlaced (k + 1) (n :: rest) hsuite,
      readSuite_allPlaced k ns hrest]
termination_by ns => ns

/-! ## Printing -/

theorem iterate_indent_append (k : Nat) (ls ks : List String) :
    indent^[k] (ls ++ ks) = indent^[k] ls ++ indent^[k] ks := by
  induction k with
  | zero => rfl
  | succ k ih =>
    rw [Function.iterate_succ_apply', ih, Function.iterate_succ_apply',
      Function.iterate_succ_apply']
    exact List.map_append

/-- Indentation puts a line at a level. -/
theorem iterate_indent_line (k : Nat) {t : String} (ht : Opens t) :
    indent^[k] [t] = [atLevel (k, t)] := by
  obtain ⟨c, hc, -⟩ := ht
  induction k with
  | zero => simp [atLevel]
  | succ k ih =>
    have hne : (atLevel (k, t)).isEmpty = false := by
      rw [String.isEmpty_eq_false_iff]
      rintro hempty
      have hlist := congrArg String.toList hempty
      simp only [atLevel, String.toList_append, String.toList_empty, List.append_eq_nil_iff] at hlist
      rw [hlist.2] at hc
      cases hc
    have hblanks : "    " ++ atLevel (k, t) = atLevel (k + 1, t) := by
      apply String.toList_inj.mp
      simp only [atLevel, String.toList_append, String.toList_ofList]
      rw [← List.append_assoc, Nat.mul_succ, Nat.add_comm, List.replicate_add]
      rfl
    rw [Function.iterate_succ_apply', ih, indent, List.map_singleton, hne, ← hblanks]
    rfl

/-- The lines of nodes that are indented some times stand so much deeper. -/
theorem iterate_indent_allLines (k : Nat) : ∀ ns : List Node, Node.AllProper ns →
    indent^[k] (Node.allLines ns) = (Node.allPlaced k ns).map atLevel
  | [], _ => by
    rw [Node.allLines, Node.allPlaced]
    exact Function.iterate_fixed rfl k
  | .line t :: ns, h => by
    rw [Node.AllProper, Node.Proper] at h
    rw [Node.allLines, Node.lines, Node.allPlaced, Node.placed, iterate_indent_append,
      iterate_indent_line k h.1.opens, iterate_indent_allLines k ns h.2, List.map_append]
    rfl
  | .header t suite :: ns, h => by
    rw [Node.AllProper, Node.Proper] at h
    obtain ⟨⟨hhead, -, hsuite⟩, hrest⟩ := h
    have hbelow : indent^[k] (indent (Node.allLines suite))
        = (Node.allPlaced (k + 1) suite).map atLevel := by
      rw [← Function.iterate_succ_apply]
      exact iterate_indent_allLines (k + 1) suite hsuite
    rw [Node.allLines, Node.lines, ← List.singleton_append, List.append_assoc,
      iterate_indent_append, iterate_indent_line k hhead.opens, iterate_indent_append, hbelow,
      iterate_indent_allLines k ns hrest, Node.allPlaced, Node.placed, List.map_append,
      List.map_cons, List.cons_append]
    rfl
termination_by ns => ns

theorem levelOf_atLevel (k : Nat) {t : String} (ht : Opens t) :
    levelOf (atLevel (k, t)).toList = some (k, t) := by
  obtain ⟨c, hc, hne⟩ := ht
  obtain ⟨cs, hcs⟩ := List.head?_eq_some_iff.mp hc
  have hblanks : ∀ x ∈ List.replicate (4 * k) ' ', (x == ' ') = true := by
    intro x hx
    rw [List.eq_of_mem_replicate hx]
    rfl
  have htext : (atLevel (k, t)).toList = List.replicate (4 * k) ' ' ++ c :: cs := by
    rw [atLevel, String.toList_append, String.toList_ofList, hcs]
  have hsome : t.toList.isEmpty = false := by
    rw [hcs]
    rfl
  unfold levelOf
  rw [htext, List.takeWhile_append_of_pos hblanks, List.dropWhile_append_of_pos hblanks,
    List.takeWhile_cons_of_neg (by simpa using hne), List.dropWhile_cons_of_neg (by simpa using hne),
    List.append_nil, List.length_replicate, ← hcs]
  show (if (t.toList.isEmpty || 4 * k % 4 != 0) = true then none
    else some (4 * k / 4, String.ofList t.toList)) = _
  rw [hsome, Nat.mul_mod_right, Nat.mul_div_cancel_left k (by decide), String.ofList_toList]
  rfl

theorem mapM_levelOf {ls : List (Nat × String)} (h : ∀ l ∈ ls, Opens l.2) :
    ((ls.map atLevel).map String.toList).mapM levelOf = some ls := by
  induction ls with
  | nil => rfl
  | cons l ls ih =>
    obtain ⟨hl, hls⟩ := List.forall_mem_cons.mp h
    rw [List.map_cons, List.map_cons, List.mapM_cons, levelOf_atLevel l.1 hl, ih hls]
    rfl

mutual

theorem Node.text_of_mem_placed {k : Nat} {l : Nat × String} :
    ∀ n : Node, n.Proper → l ∈ n.placed k → Unbroken l.2 ∧ Opens l.2
  | .line t, h, hl => by
    rw [Node.Proper] at h
    rw [Node.placed, List.mem_singleton] at hl
    exact hl ▸ ⟨h.unbroken, h.opens⟩
  | .header t suite, h, hl => by
    rw [Node.Proper] at h
    rw [Node.placed, List.mem_cons] at hl
    rcases hl with rfl | hl
    · exact ⟨h.1.unbroken, h.1.opens⟩
    · exact Node.text_of_mem_allPlaced suite h.2.2 hl

/-- No line of proper nodes is broken or begins with a blank of its own. -/
theorem Node.text_of_mem_allPlaced {k : Nat} {l : Nat × String} :
    ∀ ns : List Node, Node.AllProper ns → l ∈ Node.allPlaced k ns → Unbroken l.2 ∧ Opens l.2
  | [], _, hl => by
    rw [Node.allPlaced] at hl
    cases hl
  | n :: ns, h, hl => by
    rw [Node.AllProper] at h
    rw [Node.allPlaced, List.mem_append] at hl
    exact hl.elim (Node.text_of_mem_placed n h.1) (Node.text_of_mem_allPlaced ns h.2)

end

theorem Unbroken.atLevel {l : Nat × String} (h : Unbroken l.2) : Unbroken (atLevel l) := by
  have hblanks (c : Char) (hc : c ∈ (String.ofList (List.replicate (4 * l.1) ' ')).toList) :
      c = ' ' := by
    rw [String.toList_ofList] at hc
    exact List.eq_of_mem_replicate hc
  refine Unbroken.append ⟨fun hc => ?_, fun hc => ?_⟩ h
  · exact absurd (hblanks _ hc) (by decide)
  · exact absurd (hblanks _ hc) (by decide)

theorem breakLines_of_notMem {cs : List Char} (h : '\n' ∉ cs) : Text.breakLines cs = [cs] := by
  induction cs with
  | nil => rfl
  | cons c cs ih =>
    rw [List.mem_cons, not_or] at h
    rw [Text.breakLines, if_neg (Ne.symm h.1), ih h.2]

/-- Lines that are joined are taken apart again. -/
theorem breakLines_intercalate {ls : List String} (h : ∀ l ∈ ls, Unbroken l) (hne : ls ≠ []) :
    Text.breakLines (Text.unifyBreaks ("\n".intercalate ls).toList) = ls.map String.toList := by
  induction ls with
  | nil => exact absurd rfl hne
  | cons l ls ih =>
    obtain ⟨⟨hfeed, hreturn⟩, hls⟩ := List.forall_mem_cons.mp h
    cases ls with
    | nil =>
      rw [String.intercalate_singleton, Text.unifyBreaks_eq_self hreturn,
        breakLines_of_notMem hfeed]
      rfl
    | cons k ls =>
      rw [String.intercalate_cons_cons, String.append_assoc, String.toList_append,
        String.toList_append, Text.unifyBreaks_append hreturn]
      show Text.breakLines (l.toList ++ '\n' :: Text.unifyBreaks ("\n".intercalate (k :: ls)).toList)
        = _
      rw [Text.breakLines_append hfeed, ih hls (by simp)]
      rfl

/-- What was printed from proper nodes is read as these nodes. -/
theorem readText_print (k : Nat) {ns : List Node} (h : Node.AllProper ns) (hne : ns ≠ []) :
    readText k ("\n".intercalate (indent^[k] (Node.allLines ns))) = some ns := by
  have htexts (l : Nat × String) (hl : l ∈ Node.allPlaced k ns) : Unbroken l.2 ∧ Opens l.2 :=
    Node.text_of_mem_allPlaced ns h hl
  have hunbroken : ∀ t ∈ (Node.allPlaced k ns).map atLevel, Unbroken t := by
    intro t ht
    obtain ⟨l, hl, rfl⟩ := List.mem_map.mp ht
    exact (htexts l hl).1.atLevel
  have hsome : (Node.allPlaced k ns).map atLevel ≠ [] := by
    obtain ⟨n, rest, rfl⟩ := List.exists_cons_of_ne_nil hne
    cases n <;> exact fun h => nomatch h
  rw [iterate_indent_allLines k ns h, readText, breakLines_intercalate hunbroken hsome,
    mapM_levelOf fun l hl => (htexts l hl).2]
  exact readSuite_allPlaced k ns h

end BraceScript.Code
