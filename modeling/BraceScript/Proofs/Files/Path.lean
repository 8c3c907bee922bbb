import BraceScript.Files.Tree
import Mathlib

/-!
# Paths and where they lead

The last part of a path decides the last step that a tree takes along it. `split_join_last` finds
that part, and `walk_last` the place that it leads to. Together they say that a file under a name
that no place of the tree has is not there (`find_join_fresh`).
-/

namespace BraceScript.Files

/-! ## Pieces -/

theorem pieces_of_notMem {cs : List Char} (h : '/' ∉ cs) : pieces cs = [cs] := by
  induction cs with
  | nil => rfl
  | cons c cs ih =>
    rw [List.mem_cons, not_or] at h
    simp only [pieces]
    rw [if_neg (Ne.symm h.1), ih h.2]

theorem pieces_ne_nil (cs : List Char) : pieces cs ≠ [] := by
  cases cs with
  | nil => simp [pieces]
  | cons c cs =>
    unfold pieces
    split
    · simp
    · split <;> simp

/-- A slash divides a path into the pieces on both sides. -/
theorem pieces_append (a b : List Char) :
    pieces (a ++ '/' :: b) = pieces a ++ pieces b := by
  induction a with
  | nil => simp [pieces]
  | cons c a ih =>
    simp only [List.cons_append, pieces]
    split
    · rw [ih, List.cons_append]
    · rw [ih]
      rcases hp : pieces a with _ | ⟨p, ps⟩
      · exact absurd hp (pieces_ne_nil a)
      · rfl

theorem slash_notMem_pieces {p cs : List Char} (h : p ∈ pieces cs) : '/' ∉ p := by
  induction cs generalizing p with
  | nil =>
    rw [pieces, List.mem_singleton] at h
    simp [h]
  | cons c cs ih =>
    simp only [pieces] at h
    split at h
    · rcases List.mem_cons.mp h with rfl | h
      · simp
      · exact ih h
    · next hc =>
      rcases hp : pieces cs with _ | ⟨q, qs⟩
      · exact absurd hp (pieces_ne_nil cs)
      · rw [hp] at h ih
        rcases List.mem_cons.mp h with rfl | h
        · have hq := ih List.mem_cons_self
          simp [Ne.symm hc, hq]
        · exact ih (List.mem_cons_of_mem _ h)

/-! ## The last part -/

/-- Characters after which a new part of a path begins. -/
def EndsPart (cs : List Char) : Prop := cs = [] ∨ ∃ a, cs = a ++ ['/']

theorem EndsPart.append {x y : List Char} (hx : EndsPart x) (hy : EndsPart y) :
    EndsPart (x ++ y) := by
  rcases hy with rfl | ⟨a, rfl⟩
  · rwa [List.append_nil]
  · exact .inr ⟨x ++ a, by simp⟩

/-- A path seen from a directory is the path behind the end of a part. -/
theorem toList_join (dir path : String) :
    ∃ pre, (join dir path).toList = pre ++ path.toList ∧ EndsPart pre := by
  unfold join
  split
  · exact ⟨[], rfl, .inl rfl⟩
  · split
    · next h =>
      refine ⟨dir.toList, by simp, .inr ?_⟩
      obtain ⟨a, ha⟩ := List.getLast?_eq_some_iff.mp (by simpa using h)
      exact ⟨a, ha⟩
    · exact ⟨dir.toList ++ ['/'], by simp, .inr ⟨dir.toList, rfl⟩⟩

/-- The last piece of a path is what stands behind its last slash. -/
theorem pieces_last {pre name : List Char} (hpre : EndsPart pre) (hname : '/' ∉ name) :
    ∃ before, pieces (pre ++ name) = before ++ [name] := by
  rcases hpre with rfl | ⟨a, rfl⟩
  · exact ⟨[], pieces_of_notMem hname⟩
  · refine ⟨pieces a, ?_⟩
    rw [List.append_assoc, List.singleton_append, pieces_append, pieces_of_notMem hname]

/-- The last part of a path that is seen from two directories is the name that it ends with. -/
theorem split_join_last (cwd dir : String) {name : String} (hname : '/' ∉ name.toList) :
    ∃ before, split (join cwd (join dir name)) = before ++ [name] := by
  obtain ⟨p, hp, hp'⟩ := toList_join cwd (join dir name)
  obtain ⟨q, hq, hq'⟩ := toList_join dir name
  rw [hq, ← List.append_assoc] at hp
  obtain ⟨before, hb⟩ := pieces_last (hp'.append hq') hname
  refine ⟨before.map String.ofList, ?_⟩
  unfold split
  rw [hp, hb]
  simp

/-- The name of a file in a directory is the last part of its path. -/
theorem basename_join {dir name : String} (hname : '/' ∉ name.toList) :
    basename (join dir name) = name := by
  obtain ⟨pre, hpre, hends⟩ := toList_join dir name
  have hrev : ∀ c ∈ name.toList.reverse, (c != '/') = true := by
    intro c hc
    rw [List.mem_reverse] at hc
    rw [bne_iff_ne]
    rintro rfl
    exact hname hc
  unfold basename splitLast
  simp only [hpre, List.reverse_append]
  rw [List.takeWhile_append_of_pos hrev]
  rcases hends with rfl | ⟨a, rfl⟩
  · simp
  · simp

theorem slash_notMem_basename (path : String) : '/' ∉ (basename path).toList := by
  unfold basename splitLast
  intro h
  simp only [String.toList_ofList, List.mem_reverse] at h
  exact absurd (List.mem_takeWhile_imp h) (by simp)

/-- The extension of a file is part of its name. -/
theorem slash_notMem_extension (path : String) : '/' ∉ (splitExtension path).2.toList := by
  have hbase := slash_notMem_basename path
  unfold splitExtension
  extract_lets cs tail
  split
  · simp
  · next point before hsplit =>
    split
    · simp
    · intro h
      simp only [String.toList_ofList, List.mem_cons, List.mem_reverse] at h
      rcases h with h | h
      · have hmem : point ∈ (basename path).toList.reverse :=
          (List.dropWhile_suffix _).subset (hsplit ▸ List.mem_cons_self)
        exact hbase (h ▸ List.mem_reverse.mp hmem)
      · exact hbase (List.mem_reverse.mp ((List.takeWhile_prefix _).subset h))

/-! ## Walks -/

/-- A part that is a name, and not a way of writing a place again. -/
structure IsName (part : String) : Prop where
  ne_empty : part ≠ ""
  ne_point : part ≠ "."
  ne_points : part ≠ ".."

theorem walk_append (t : Tree) (p : Place) (as bs : List String) :
    t.walk p (as ++ bs) = (t.walk p as).bind fun q => t.walk q bs := by
  induction as generalizing p with
  | nil => rfl
  | cons a as ih =>
    simp only [List.cons_append, Tree.walk]
    split
    · rfl
    · rfl
    · split_ifs
      · exact ih p
      · exact ih p.tail
      · rfl
      · exact ih (a :: p)

/-- A walk that ends with a name ends at a place of that name. -/
theorem walk_last {t : Tree} {p q : Place} {parts : List String} {name : String}
    (hname : IsName name) (h : t.walk p (parts ++ [name]) = .ok q) : q.head? = some name := by
  rw [walk_append] at h
  cases hw : t.walk p parts with
  | error f => simp [hw, Except.bind] at h
  | ok r =>
    simp only [hw, Except.bind, Tree.walk] at h
    split at h
    · simp at h
    · simp at h
    · rw [if_neg (by simp [hname.ne_empty, hname.ne_point]), if_neg hname.ne_points] at h
      split at h
      · simp at h
      · rw [← Except.ok.inj h]
        rfl

/-- A file or directory that is not the root is one of the nodes. -/
theorem mem_nodes_of_at? {t : Tree} {p : Place} {n : Node} (hp : p ≠ [])
    (h : t.at? p = some n) : (p, n) ∈ t.nodes := by
  unfold Tree.at? at h
  rw [if_neg (by simpa using hp)] at h
  obtain ⟨l, r, hl, -⟩ := List.lookup_eq_some_iff.mp h
  rw [hl]
  simp

/-- A walk that fails has found no file. -/
theorem walk_error_ne_file {t : Tree} {p : Place} {parts : List String} {f : Found}
    (h : t.walk p parts = .error f) (content : Bytes) : f ≠ .file content := by
  induction parts generalizing p with
  | nil => simp [Tree.walk] at h
  | cons part parts ih =>
    unfold Tree.walk at h
    split at h
    · rw [← Except.error.inj h]
      simp
    · rw [← Except.error.inj h]
      simp
    · split_ifs at h
      · exact ih h
      · exact ih h
      · rw [← Except.error.inj h]
        simp
      · exact ih h

/-- A path leads to a file when the walk along it ends at one. -/
theorem find_eq_file_iff {t : Tree} {cwd path : String} {content : Bytes} :
    t.find cwd path = .file content ↔
      ∃ p, t.placeOf cwd path = .ok p ∧ t.at? p = some (.file content) := by
  unfold Tree.find
  cases hp : t.placeOf cwd path with
  | error f =>
    have hf : f ≠ .file content := by
      unfold Tree.placeOf at hp
      split_ifs at hp
      · rw [← Except.error.inj hp]
        simp
      · rw [← Except.error.inj hp]
        simp
      · exact walk_error_ne_file hp content
    simp [hf]
  | ok p =>
    simp only [Except.ok.injEq, exists_eq_left']
    cases t.at? p with
    | none => simp
    | some n => cases n <;> simp

/-- A path to a name that no place has does not lead to a node. -/
theorem placeOf_join_fresh {t : Tree} {cwd dir name : String} (hname : IsName name)
    (hslash : '/' ∉ name.toList) (hfresh : name ∉ t.nodes.map (·.1.headD "")) {p : Place}
    (hp : t.placeOf cwd (join dir name) = .ok p) : p ≠ [] ∧ p ∉ t.nodes.map Prod.fst := by
  obtain ⟨before, hb⟩ := split_join_last cwd dir hslash
  unfold Tree.placeOf at hp
  rw [hb] at hp
  split_ifs at hp
  have hhead := walk_last hname hp
  refine ⟨?_, fun hmem => hfresh ?_⟩
  · rintro rfl
    simp at hhead
  · obtain ⟨n, hn, rfl⟩ := List.mem_map.mp hmem
    refine List.mem_map.mpr ⟨n, hn, ?_⟩
    simp [List.headD_eq_head?_getD, hhead]

/-- Under a name that no place has there is no file. -/
theorem find_join_fresh {t : Tree} {cwd dir name : String} (hname : IsName name)
    (hslash : '/' ∉ name.toList) (hfresh : name ∉ t.nodes.map (·.1.headD "")) (content : Bytes) :
    t.find cwd (join dir name) ≠ .file content := by
  intro h
  obtain ⟨p, hp, hat⟩ := find_eq_file_iff.mp h
  obtain ⟨hne, hmem⟩ := placeOf_join_fresh hname hslash hfresh hp
  exact hmem (List.mem_map_of_mem (mem_nodes_of_at? hne hat))

/-- Under a name that no place has nothing can be removed. -/
theorem removeFile_join_fresh {t : Tree} {cwd dir name : String} (hname : IsName name)
    (hslash : '/' ∉ name.toList) (hfresh : name ∉ t.nodes.map (·.1.headD "")) :
    t.removeFile cwd (join dir name) = t := by
  unfold Tree.removeFile
  split
  · next p hp =>
    obtain ⟨-, hmem⟩ := placeOf_join_fresh hname hslash hfresh hp
    unfold Tree.remove
    congr 1
    rw [List.filter_eq_self]
    intro n hn
    rw [bne_iff_ne]
    rintro rfl
    exact hmem (List.mem_map_of_mem hn)
  · rfl

end BraceScript.Files
