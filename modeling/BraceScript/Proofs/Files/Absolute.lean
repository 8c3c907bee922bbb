import BraceScript.Proofs.Files.Path
import Mathlib

/-!
# How many absolute paths lead to files

A normal path from the root is one or two slashes and names (`normal_of_isAbsolute`), and a tree
follows it to the place of these names (`walk_names`). So a file is known by at most two absolute
paths, and all of them are among `writtenPaths`.
-/

namespace BraceScript.Files

/-! ## Normal paths from the root -/

/-- Names that can stand between slashes. -/
def Names (parts : List String) : Prop := ∀ p ∈ parts, IsName p ∧ '/' ∉ p.toList

theorem Names.tail {p : String} {ps : List String} (h : Names (p :: ps)) : Names ps :=
  fun q hq => h q (List.mem_cons_of_mem _ hq)

theorem isAbsolute_join {cwd path : String} (h : isAbsolute cwd = true) :
    isAbsolute (join cwd path) = true := by
  have hfirst : ∀ s : String, isAbsolute (cwd ++ s) = true := by
    intro s
    unfold isAbsolute at h ⊢
    rw [String.toList_append]
    rcases hc : cwd.toList with _ | ⟨c, cs⟩
    · simp [hc] at h
    · simpa [hc] using h
  unfold join
  split_ifs with h1 h2
  · rcases Bool.or_eq_true _ _ ▸ h1 with h1 | h1
    · exact h1
    · rw [String.isEmpty_iff] at h1
      subst h1
      exact absurd h (by decide)
  · exact hfirst path
  · rw [String.append_assoc]
    exact hfirst _

theorem rootSlashes_of_isAbsolute {path : String} (h : isAbsolute path = true) :
    rootSlashes path ∈ ["/", "//"] := by
  unfold isAbsolute at h
  unfold rootSlashes
  split
  · simp
  · simp
  · simp
  · next h1 =>
    rcases hp : path.toList with _ | ⟨c, cs⟩
    · simp [hp] at h
    · obtain rfl : c = '/' := by simpa [hp] using h
      exact absurd hp (h1 cs)

/-- From the root no part leads back, so all parts that are left are names. -/
theorem normalParts_names {done parts : List String} (hd : Names done)
    (hp : ∀ p ∈ parts, '/' ∉ p.toList) : Names (normalParts true done parts) := by
  induction parts generalizing done with
  | nil => exact hd
  | cons p ps ih =>
    have hps : ∀ q ∈ ps, '/' ∉ q.toList := fun q hq => hp q (List.mem_cons_of_mem _ hq)
    unfold normalParts
    by_cases h1 : p = "" ∨ p = "."
    · rw [if_pos (by simpa using h1)]
      exact ih hd hps
    · rw [if_neg (by simpa using h1)]
      rw [not_or] at h1
      by_cases h2 : p = ".."
      · rw [if_pos h2]
        cases done with
        | nil => exact ih hd hps
        | cons d ds =>
          have hback : d ≠ ".." := (hd d List.mem_cons_self).1.ne_points
          simp only [if_neg hback]
          exact ih hd.tail hps
      · rw [if_neg h2]
        refine ih ?_ hps
        intro q hq
        rcases List.mem_cons.mp hq with rfl | hq
        · exact ⟨⟨h1.1, h1.2, h2⟩, hp q List.mem_cons_self⟩
        · exact hd q hq

theorem slash_notMem_split {path p : String} (h : p ∈ split path) : '/' ∉ p.toList := by
  obtain ⟨q, hq, rfl⟩ := List.mem_map.mp h
  rw [String.toList_ofList]
  exact slash_notMem_pieces hq

/-- A normal path from the root is its slashes and names. -/
theorem normal_of_isAbsolute {path : String} (h : isAbsolute path = true) :
    ∃ root ∈ ["/", "//"], ∃ names, Names names ∧ normal path = root ++ "/".intercalate names := by
  have hroot := rootSlashes_of_isAbsolute h
  have hne : (rootSlashes path).isEmpty = false := by
    rcases List.mem_cons.mp hroot with hr | hr
    · rw [hr]
      decide
    · rw [List.mem_singleton.mp hr]
      decide
  refine ⟨_, hroot, (normalParts true [] (split path)).reverse, ?_, ?_⟩
  · intro p hp
    exact normalParts_names (by simp [Names]) (fun q hq => slash_notMem_split hq) p
      (List.mem_reverse.mp hp)
  · unfold normal
    simp only [hne, Bool.not_false]
    rw [if_neg]
    rw [String.isEmpty_iff, String.append_eq_empty_iff, not_and]
    intro hempty
    rw [hempty] at hne
    exact absurd hne (by decide)

/-! ## Following names -/

theorem walk_names {t : Tree} {p q : Place} {names : List String} (hn : Names names)
    (h : t.walk p names = .ok q) : q = names.reverse ++ p := by
  induction names generalizing p with
  | nil => simpa [Tree.walk, eq_comm] using h
  | cons name names ih =>
    have hname := (hn name List.mem_cons_self).1
    unfold Tree.walk at h
    split at h
    · cases h
    · cases h
    · rw [if_neg (by simp [hname.ne_empty, hname.ne_point]), if_neg hname.ne_points] at h
      split_ifs at h
      rw [ih hn.tail h]
      simp

/-- The pieces between the slashes of a path that is written from names. -/
theorem pieces_intercalate {names : List String} (hn : Names names) (h : names ≠ []) :
    pieces ("/".intercalate names).toList = names.map String.toList := by
  induction names with
  | nil => exact absurd rfl h
  | cons name names ih =>
    have hslash := (hn name List.mem_cons_self).2
    cases names with
    | nil => simp [pieces_of_notMem hslash]
    | cons second rest =>
      have hrest := ih hn.tail (by simp)
      rw [String.intercalate_cons_cons, String.append_assoc, String.toList_append,
        String.toList_append]
      show pieces (name.toList ++ '/' :: ("/".intercalate (second :: rest)).toList) = _
      rw [pieces_append, pieces_of_notMem hslash, hrest]
      rfl

/-! ## Counting -/

/-- The absolute paths under which the files of a tree can be known. -/
def writtenPaths (t : Tree) : List String :=
  ["/", "//"].flatMap fun root => t.nodes.map fun n => root ++ "/".intercalate n.1.reverse

theorem length_writtenPaths (t : Tree) : (writtenPaths t).length = 2 * t.nodes.length := by
  simp [writtenPaths]
  omega

/-- A walk from the root may begin with empty parts. -/
theorem walk_nil_empty (t : Tree) (parts : List String) :
    t.walk [] ("" :: parts) = t.walk [] parts := by
  conv_lhs => unfold Tree.walk
  rfl

theorem split_slash (path : String) : split ("/" ++ path) = "" :: split path := by
  unfold split
  rw [String.toList_append]
  rfl

/-- A path of slashes and names leads to the place of the names, if it leads anywhere. -/
theorem walk_root_names {t : Tree} {root : String} (hroot : root ∈ ["/", "//"])
    {names : List String} (hn : Names names) {q : Place}
    (h : t.walk [] (split (root ++ "/".intercalate names)) = .ok q) : q = names.reverse := by
  have hparts : t.walk [] (split ("/".intercalate names)) = .ok q := by
    rcases List.mem_cons.mp hroot with rfl | hroot
    · rwa [split_slash, walk_nil_empty] at h
    · obtain rfl := List.mem_singleton.mp hroot
      have htwo : "//" ++ "/".intercalate names = "/" ++ ("/" ++ "/".intercalate names) := by
        rw [← String.append_assoc]
        rfl
      rwa [htwo, split_slash, walk_nil_empty, split_slash, walk_nil_empty] at h
  cases names with
  | nil =>
    rw [String.intercalate_nil] at hparts
    have hempty : split "" = [""] := rfl
    rw [hempty, walk_nil_empty] at hparts
    exact (Except.ok.inj hparts).symm
  | cons name names =>
    unfold split at hparts
    rw [pieces_intercalate hn (by simp), List.map_map] at hparts
    have hsame : (name :: names).map (String.ofList ∘ String.toList) = name :: names := by
      simp [Function.comp_def]
    rw [hsame] at hparts
    rw [walk_names hn hparts, List.append_nil]

/-- Every absolute path to a file is one of those that can be written. -/
theorem absolute_mem_writtenPaths {t : Tree} {cwd path : String} {content : Bytes}
    (hcwd : isAbsolute cwd = true) (hf : t.find cwd (absolute cwd path) = .file content) :
    absolute cwd path ∈ writtenPaths t := by
  obtain ⟨q, hq, hat⟩ := find_eq_file_iff.mp hf
  obtain ⟨root, hroot, names, hn, hnormal⟩ := normal_of_isAbsolute (isAbsolute_join hcwd)
  have habs : absolute cwd path = root ++ "/".intercalate names := hnormal
  have hrooted : isAbsolute (absolute cwd path) = true := by
    unfold isAbsolute
    rw [habs, String.toList_append]
    rcases List.mem_cons.mp hroot with rfl | hroot
    · rfl
    · rw [List.mem_singleton.mp hroot]
      rfl
  have hself : join cwd (absolute cwd path) = absolute cwd path := by
    unfold join
    rw [hrooted]
    rfl
  unfold Tree.placeOf at hq
  rw [hself] at hq
  split_ifs at hq
  rw [habs] at hq
  have hplace : q = names.reverse := walk_root_names hroot hn hq
  have hne : q ≠ [] := by
    rintro rfl
    cases hat
  refine List.mem_flatMap.mpr ⟨root, hroot, List.mem_map.mpr ⟨_, mem_nodes_of_at? hne hat, ?_⟩⟩
  rw [habs, hplace, List.reverse_reverse]

end BraceScript.Files
