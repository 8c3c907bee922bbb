import BraceScript.Program.Compile
import BraceScript.Proofs.Lowering.Occurrences
import BraceScript.Proofs.Lowering.Places

/-!
# Instance members where there is no instance

A bare name that means an instance member cannot stand in a static method or in the value of a
static field. Each such occurrence is reported once, at its place, in the order of the source
(`instanceRequired_reported`); nothing else is reported under this number. The work on a file ends
at a whole number that is too long to be read, so occurrences behind one are left out.
-/

namespace BraceScript.Lowering

open Syntax
open Outline (collect)

/-! ## Occurrences -/

/-- A bare name in an outline. -/
def IsBare (o : Outline) (t : Token) : Prop := (Outline.node "name" [.leaf t]).Within o

/-- A variable that is declared somewhere in an outline: it is the second part of a declaration, a
`foreach` loop, the filter of a handler or a parameter. -/
def Declares (o : Outline) (x : String) : Prop :=
  ∃ l ∈ declaringLabels, ∃ first t rest,
    (Outline.node l (first :: .leaf t :: rest)).Within o ∧ t.text = x

/-- A whole number in an outline that has more digits than can be read. -/
def IsTooLong (o : Outline) (t : Token) : Prop :=
  (Outline.node "number" [.leaf t]).Within o ∧ '.' ∉ t.text.toList
    ∧ Number.digitLimit < t.text.length

/-- The bare name of an instance member where there is no instance. -/
structure NeedsObject (c : ClassDecl) (m : Member) (t : Token) : Prop where
  static : ∃ x, memberName? m = some (x, true)
  bare : IsBare (Outline.ofMember m) t
  isInstance : ∃ k ∈ c.members, memberName? k = some (t.text, false)
  notStatic : ∀ k ∈ c.members, memberName? k ≠ some (t.text, true)
  undeclared : ¬Declares (Outline.ofMember m) t.text

theorem mem_locals_iff (names : ClassNames) (m : Member) (x : String) :
    x ∈ (memberScope names m).locals ↔ Declares (Outline.ofMember m) x := by
  rw [← variables_ofMember, List.mem_map]
  constructor
  · rintro ⟨t, ht, rfl⟩
    obtain ⟨l, os, hw, hpick⟩ := (Outline.mem_collect _).mp ht
    unfold variableAt secondToken at hpick
    split at hpick
    · next hl =>
      split at hpick <;> cases hpick
      exact ⟨l, hl, _, t, _, hw, rfl⟩
    · cases hpick
  · rintro ⟨l, hl, first, t, rest, hw, rfl⟩
    refine ⟨t, (Outline.mem_collect _).mpr ⟨l, _, hw, ?_⟩, rfl⟩
    unfold variableAt
    rw [if_pos hl]
    rfl

theorem leafAt_eq_name_iff {l : String} {os : List Outline} {t : Token} :
    leafAt l os = some (.name t) ↔ l = "name" ∧ os = [.leaf t] := by
  constructor
  · intro h
    have hos := eq_of_leafAt h
    unfold leafAt at h
    split at h
    · next hl => exact ⟨hl, hos⟩
    · split at h
      · obtain ⟨_, -, hleaf⟩ := Option.map_eq_some_iff.mp h
        cases hleaf
      · cases h
  · rintro ⟨rfl, rfl⟩
    rfl

theorem leafAt_eq_number_iff {l : String} {os : List Outline} {t : Token} :
    leafAt l os = some (.number t) ↔ l = "number" ∧ os = [.leaf t] := by
  constructor
  · intro h
    have hos := eq_of_leafAt h
    unfold leafAt at h
    split at h
    · obtain ⟨_, -, hleaf⟩ := Option.map_eq_some_iff.mp h
      cases hleaf
    · split at h
      · next hl => exact ⟨hl, hos⟩
      · cases h
  · rintro ⟨rfl, rfl⟩
    rfl

theorem name_mem_memberLeaves {m : Member} {t : Token} :
    .name t ∈ memberLeaves m ↔ IsBare (Outline.ofMember m) t := by
  simp only [← collect_ofMember, Outline.mem_collect, leafAt_eq_name_iff]
  constructor
  · rintro ⟨l, os, hw, rfl, rfl⟩
    exact hw
  · exact fun hw => ⟨_, _, hw, rfl, rfl⟩

theorem number_mem_memberLeaves {m : Member} {t : Token} :
    .number t ∈ memberLeaves m ↔ (Outline.node "number" [.leaf t]).Within (Outline.ofMember m) := by
  simp only [← collect_ofMember, Outline.mem_collect, leafAt_eq_number_iff]
  constructor
  · rintro ⟨l, os, hw, rfl, rfl⟩
    exact hw
  · exact fun hw => ⟨_, _, hw, rfl, rfl⟩

/-! ## One leaf -/

theorem isStatic_memberScope_iff {names : ClassNames} {m : Member} :
    (memberScope names m).isStatic = true ↔ ∃ x, memberName? m = some (x, true) := by
  cases m with
  | field ms d => simp [memberScope, fieldScope, memberName?]
  | method ms t n ps b => simp [memberScope, bodyScope, memberName?]
  | constructor ms n ps b => simp [memberScope, bodyScope, memberName?]

@[simp]
theorem names_memberScope (names : ClassNames) (m : Member) : (memberScope names m).names = names := by
  cases m <;> rfl

theorem mem_statics_iff {c : ClassDecl} {x : String} :
    x ∈ (ClassNames.of c).statics ↔ ∃ k ∈ c.members, memberName? k = some (x, true) := by
  simp [ClassNames.of]

theorem mem_instances_iff {c : ClassDecl} {x : String} :
    x ∈ (ClassNames.of c).instances ↔ ∃ k ∈ c.members, memberName? k = some (x, false) := by
  simp [ClassNames.of]

theorem meaning_eq_instanceMember_iff {s : Scope} {x : String} : s.meaning x = .instanceMember
    ↔ x ∉ s.locals ∧ x ∉ s.names.statics ∧ x ∈ s.names.instances := by
  unfold Scope.meaning
  simp only [List.contains_iff_mem]
  split
  · next h => simp [h]
  · next h =>
    split
    · next h' => simp [h']
    · next h' => 
      split
      · next h'' => simp [h, h', h'']
      · next h'' => simp [h'']

/-- The scope of a member calls for an object just where the occurrence needs one. -/
theorem needsObject_iff {c : ClassDecl} {m : Member} {t : Token} :
    NeedsObject c m t ↔ .name t ∈ memberLeaves m
      ∧ (memberScope (ClassNames.of c) m).meaning t.text = .instanceMember
      ∧ (memberScope (ClassNames.of c) m).isStatic = true := by
  rw [name_mem_memberLeaves, meaning_eq_instanceMember_iff, isStatic_memberScope_iff,
    mem_locals_iff, names_memberScope, mem_statics_iff, mem_instances_iff]
  constructor
  · intro h
    refine ⟨h.bare, ⟨h.undeclared, ?_, h.isInstance⟩, h.static⟩
    rintro ⟨k, hk, hname⟩
    exact h.notStatic k hk hname
  · rintro ⟨hbare, ⟨hundeclared, hstatics, hinstance⟩, hstatic⟩
    exact ⟨hstatic, hbare, hinstance, fun k hk hname => hstatics ⟨k, hk, hname⟩, hundeclared⟩

theorem isHuge_iff {t : Token} :
    (Leaf.number t).isHuge = true ↔ '.' ∉ t.text.toList ∧ Number.digitLimit < t.text.length := by
  simp [Leaf.isHuge]

/-! ## All leaves of a file -/

/-- The members of a class that are looked at: all but the constructors after the first. -/
def lookedAt (seenConstructor : Bool) : List Member → List Member
  | [] => []
  | m :: ms =>
    let rest := lookedAt (seenConstructor || isConstructor m) ms
    if seenConstructor && isConstructor m then rest else m :: rest

/-- A leaf with the member and the class it stands in. -/
structure PlacedLeaf where
  type : ClassDecl
  member : Member
  leaf : Leaf

/-- The leaves of a file that are looked at, in order. -/
def fileLeaves (f : SourceFile) : List PlacedLeaf :=
  f.classes.flatMap fun c => (lookedAt false c.members).flatMap fun m =>
    (memberLeaves m).map fun l => ⟨c, m, l⟩

/-- What is wrong with a leaf where it stands. -/
def PlacedLeaf.finding (path : String) (l : PlacedLeaf) : Option Finding :=
  leafFinding path (memberScope (ClassNames.of l.type) l.member) l.leaf

theorem lookedAt_sublist (seen : Bool) (ms : List Member) : (lookedAt seen ms).Sublist ms := by
  induction ms generalizing seen with
  | nil => exact .refl _
  | cons m ms ih =>
    rw [lookedAt]
    split
    · exact (ih _).cons _
    · exact (ih _).cons_cons _

/-- The leaves of a file stand in the order of its tokens. -/
theorem fileLeaves_sublist (f : SourceFile) :
    ((fileLeaves f).map (·.leaf.token)).Sublist (Outline.ofFile f).tokens := by
  have hmember (m : Member) :
      ((memberLeaves m).map Leaf.token).Sublist (Outline.ofMember m).tokens := by
    rw [← collect_ofMember]
    exact Outline.collect_sublist (fun _ _ _ => eq_of_leafAt) _
  have hclass (c : ClassDecl) :
      ((lookedAt false c.members).flatMap fun m => (memberLeaves m).map Leaf.token).Sublist
        (Outline.ofClass c).tokens := by
    have hmembers : ((lookedAt false c.members).flatMap fun m =>
        (memberLeaves m).map Leaf.token).Sublist
          (Outline.allTokens (c.members.map Outline.ofMember)) := by
      rw [Outline.allTokens_eq_flatMap, List.flatMap_map]
      exact ((lookedAt_sublist _ _).flatMap _).trans (.flatMap_right _ fun m _ => hmember m)
    rw [Outline.ofClass, Outline.tokens, Outline.allTokens, Outline.allTokens, Outline.allTokens]
    exact hmembers.trans ((List.sublist_append_right _ _).trans
      ((List.sublist_append_right _ _).trans (List.sublist_append_right _ _)))
  have hfile : ((fileLeaves f).map (·.leaf.token)) = f.classes.flatMap fun c =>
      (lookedAt false c.members).flatMap fun m => (memberLeaves m).map Leaf.token := by
    simp only [fileLeaves, List.map_flatMap, List.map_map]
    rfl
  rw [hfile, Outline.ofFile, Outline.tokens, Outline.allTokens_append]
  refine List.Sublist.trans ?_ (List.sublist_append_right _ _)
  rw [Outline.allTokens_eq_flatMap, List.flatMap_map]
  exact .flatMap_right _ fun c _ => hclass c

/-- Each leaf of a parsed file stands behind the ones before it. -/
theorem fileLeaves_ordered {source : List Char} {f : SourceFile} (h : parse source = .ok f) :
    (fileLeaves f).Pairwise fun k l => k.leaf.token.position.Before l.leaf.token.position := by
  have htokens := (scan_ordered source).sublist
    (List.filter_sublist (p := fun t => Grammar.isKept t.kind))
  rw [← tokens_ofFile h] at htokens
  have hleaves := htokens.sublist (fileLeaves_sublist f)
  rwa [List.pairwise_map] at hleaves

/-! ## Findings -/

/-- The number of the problems that are looked for. -/
def instanceCode : String := "CR0120"

/-- Whether a finding has to do with instance members: it is such a problem or ends the work. -/
def Finding.isRelevant : Finding → Bool
  | .problem d => d.code == instanceCode
  | .hugeNumber _ => true

/-- The problem of a finding. -/
def Finding.problem? : Finding → Option Diagnostic
  | .problem d => some d
  | .hugeNumber _ => none

theorem isRelevant_of_leafFinding {path : String} {s : Scope} {l : Leaf} {x : Finding}
    (h : leafFinding path s l = some x) : x.isRelevant = true := by
  cases l with
  | name t =>
    rw [leafFinding] at h
    split at h <;> cases h
    rfl
  | number t =>
    rw [leafFinding] at h
    split at h <;> cases h
    rfl

theorem filter_leafFindings (path : String) (s : Scope) (ls : List Leaf) :
    (ls.filterMap (leafFinding path s)).filter Finding.isRelevant
      = ls.filterMap (leafFinding path s) := by
  rw [List.filter_eq_self]
  intro x hx
  obtain ⟨l, -, hl⟩ := List.mem_filterMap.mp hx
  exact isRelevant_of_leafFinding hl

theorem filter_memberFindings (path : String) (names : ClassNames) (first : Bool) (m : Member) :
    (memberFindings path names first m).filter Finding.isRelevant
      = if !first && isConstructor m then []
        else (memberLeaves m).filterMap (leafFinding path (memberScope names m)) := by
  cases m with
  | field ms d =>
    have hkind : isConstructor (.field ms d) = false := rfl
    rw [memberFindings, filter_leafFindings, hkind, Bool.and_false]
    rfl
  | method ms t n ps b =>
    have hkind : isConstructor (.method ms t n ps b) = false := rfl
    rw [memberFindings, filter_leafFindings, hkind, Bool.and_false]
    rfl
  | constructor ms n ps b =>
    cases first with
    | false => rfl
    | true =>
      have hnamed : (if n.text = names.type then []
          else [Finding.problem (Problem.missingReturnType.at path n.position)]).filter
            Finding.isRelevant = [] := by
        split <;> rfl
      rw [memberFindings, if_pos rfl, List.filter_append, hnamed, filter_leafFindings]
      rfl

theorem filter_membersFindings (path : String) (names : ClassNames) (seen : Bool)
    (ms : List Member) :
    (membersFindings path names seen ms).filter Finding.isRelevant
      = (lookedAt seen ms).flatMap fun m =>
        (memberLeaves m).filterMap (leafFinding path (memberScope names m)) := by
  induction ms generalizing seen with
  | nil => rfl
  | cons m ms ih =>
    rw [membersFindings, List.filter_append, filter_memberFindings, ih, lookedAt, Bool.not_not]
    by_cases hskip : (seen && isConstructor m) = true
    · rw [if_pos hskip, if_pos hskip, List.nil_append]
    · rw [if_neg hskip, if_neg hskip, List.flatMap_cons]

/-- The findings of the leaves of a file are those of the file that have to do with instance
members. -/
theorem filter_findings (path : String) (f : SourceFile) :
    (f.classes.flatMap (classFindings path)).filter Finding.isRelevant
      = (fileLeaves f).filterMap (PlacedLeaf.finding path) := by
  have hrepeated (c : ClassDecl) : ((repeatedMembers c.name.text [] c.members).map
      fun (x : String × Token) => Finding.problem
        ((Problem.duplicateMember c.name.text x.1).at path x.2.position)).filter
          Finding.isRelevant = [] := by
    rw [List.filter_eq_nil_iff]
    intro x hx
    obtain ⟨_, -, rfl⟩ := List.mem_map.mp hx
    exact Bool.false_ne_true
  rw [List.filter_flatMap, fileLeaves, List.filterMap_flatMap]
  refine List.flatMap_congr fun c _ => ?_
  rw [classFindings, List.filter_append, hrepeated, List.nil_append, filter_membersFindings,
    List.filterMap_flatMap]
  refine List.flatMap_congr fun m _ => ?_
  rw [List.filterMap_map]
  rfl

/-- The problems that are reported are the ones before the first finding that ends the work. -/
theorem filter_settleFindings (path : String) (fs : List Finding) :
    (settleFindings path fs).1.filter (·.code == instanceCode)
      = ((fs.filter Finding.isRelevant).takeWhile (!·.isHuge)).filterMap Finding.problem? := by
  induction fs with
  | nil => rfl
  | cons x fs ih =>
    cases x with
    | problem d =>
      rw [settleFindings, List.filter_cons, List.filter_cons, ih]
      by_cases hcode : (d.code == instanceCode) = true
      · rw [if_pos hcode, if_pos (show (Finding.problem d).isRelevant = true from hcode)]
        rfl
      · rw [if_neg hcode, if_neg (show ¬(Finding.problem d).isRelevant = true from hcode)]
    | hugeNumber n => rfl

/-- The problem of a leaf where it stands. -/
def PlacedLeaf.problem? (path : String) (l : PlacedLeaf) : Option Diagnostic :=
  (l.finding path).bind Finding.problem?

theorem takeWhile_finding (path : String) (ls : List PlacedLeaf) :
    ((ls.filterMap (PlacedLeaf.finding path)).takeWhile (!·.isHuge)).filterMap Finding.problem?
      = (ls.takeWhile (!·.leaf.isHuge)).filterMap (PlacedLeaf.problem? path) := by
  induction ls with
  | nil => rfl
  | cons l ls ih =>
    have hhuge : (l.finding path).any Finding.isHuge = l.leaf.isHuge := leafFinding_isHuge _ _ _
    cases hfinding : l.finding path with
    | none =>
      rw [hfinding, Option.any_none] at hhuge
      have hnone : l.problem? path = none := by rw [PlacedLeaf.problem?, hfinding, Option.bind_none]
      rw [List.filterMap_cons_none hfinding, ih, List.takeWhile_cons_of_pos (by simp [← hhuge]),
        List.filterMap_cons_none hnone]
    | some x =>
      have hsome : l.problem? path = x.problem? := by
        rw [PlacedLeaf.problem?, hfinding, Option.bind_some]
      rw [hfinding, Option.any_some] at hhuge
      rw [List.filterMap_cons_some hfinding, List.takeWhile_cons, List.takeWhile_cons, hhuge]
      cases l.leaf.isHuge with
      | true => rfl
      | false =>
        simp only [Bool.not_false, if_true, List.filterMap_cons, hsome, ih]

/-- What is reported about instance members, leaf by leaf. -/
theorem filter_lowerText (path : String) {source : List Char} {f : SourceFile}
    (h : parse source = .ok f) :
    (Program.lowerText path source).2.filter (·.code == instanceCode)
      = ((fileLeaves f).takeWhile (!·.leaf.isHuge)).filterMap (PlacedLeaf.problem? path) := by
  have hlower : (Program.lowerText path source).2
      = (settleFindings path (f.classes.flatMap (classFindings path))).1 := by
    rw [Program.lowerText, h]
    rfl
  rw [hlower, filter_settleFindings, filter_findings, takeWhile_finding]

/-- In an ordered list, what stands before the first member that fails a test are the members that
nothing fails before. -/
theorem mem_takeWhile_iff {α : Type} {r : α → α → Prop} {p : α → Bool} {l : List α}
    (hr : ∀ a b, r a b → ¬r b a) (h : l.Pairwise r) {x : α} :
    x ∈ l.takeWhile p ↔ x ∈ l ∧ p x = true ∧ ∀ y ∈ l, r y x → p y = true := by
  induction l with
  | nil => simp
  | cons a l ih =>
    obtain ⟨ha, hl⟩ := List.pairwise_cons.mp h
    by_cases hpa : p a = true
    · rw [List.takeWhile_cons_of_pos hpa, List.mem_cons, ih hl, List.mem_cons]
      constructor
      · rintro (rfl | ⟨hx, hpx, hbefore⟩)
        · refine ⟨.inl rfl, hpa, fun y hy hyx => ?_⟩
          rcases List.mem_cons.mp hy with rfl | hy
          · exact hpa
          · exact absurd (ha y hy) (hr _ _ hyx)
        · refine ⟨.inr hx, hpx, fun y hy hyx => ?_⟩
          rcases List.mem_cons.mp hy with rfl | hy
          · exact hpa
          · exact hbefore y hy hyx
      · rintro ⟨rfl | hx, hpx, hbefore⟩
        · exact .inl rfl
        · exact .inr ⟨hx, hpx, fun y hy => hbefore y (List.mem_cons_of_mem _ hy)⟩
    · rw [List.takeWhile_cons_of_neg hpa]
      refine iff_of_false List.not_mem_nil ?_
      rintro ⟨hx, hpx, hbefore⟩
      rcases List.mem_cons.mp hx with rfl | hx
      · exact hpa hpx
      · exact hpa (hbefore a List.mem_cons_self (ha x hx))

/-! ## Reports -/

/-- A whole number that cannot be read stands in front of a place, in a member that is looked at. -/
def Stopped (f : SourceFile) (p : Position) : Prop :=
  ∃ c ∈ f.classes, ∃ m ∈ lookedAt false c.members, ∃ t,
    IsTooLong (Outline.ofMember m) t ∧ t.position.Before p

/-- The report of an occurrence. -/
def instanceReport (path : String) (c : ClassDecl) (t : Token) : Diagnostic where
  file := some path
  line := t.position.line
  column := t.position.column
  code := "CR0120"
  message := "An object reference is required for the non-static member '" ++ c.name.text ++ "."
    ++ t.text ++ "'"

/-- Reports that are the same stand at the same place. -/
theorem position_of_instanceReport {path : String} {c d : ClassDecl} {t u : Token}
    (h : instanceReport path c t = instanceReport path d u) : t.position = u.position := by
  injection h with _ hline hcolumn
  have hplace : (⟨t.position.line, t.position.column⟩ : Position)
      = ⟨u.position.line, u.position.column⟩ := by rw [hline, hcolumn]
  exact hplace

theorem mem_fileLeaves {f : SourceFile} {l : PlacedLeaf} : l ∈ fileLeaves f
    ↔ l.type ∈ f.classes ∧ l.member ∈ lookedAt false l.type.members
      ∧ l.leaf ∈ memberLeaves l.member := by
  obtain ⟨c, m, l⟩ := l
  simp [fileLeaves]

/-- Members that are no constructors are looked at. -/
theorem mem_lookedAt {seen : Bool} {ms : List Member} {m : Member} (hm : m ∈ ms)
    (h : isConstructor m = false) : m ∈ lookedAt seen ms := by
  induction ms generalizing seen with
  | nil => cases hm
  | cons k ms ih =>
    rw [lookedAt]
    rcases List.mem_cons.mp hm with rfl | hm
    · rw [h, Bool.and_false]
      exact List.mem_cons_self
    · split
      · exact ih hm
      · exact List.mem_cons_of_mem _ (ih hm)

theorem problem?_eq_some_iff {path : String} {l : PlacedLeaf} {d : Diagnostic}
    (hl : l.leaf ∈ memberLeaves l.member) : l.problem? path = some d
      ↔ ∃ t, l.leaf = .name t ∧ NeedsObject l.type l.member t
        ∧ d = instanceReport path l.type t := by
  obtain ⟨c, m, leaf⟩ := l
  cases leaf with
  | name t =>
    have hneeds := needsObject_iff (c := c) (m := m) (t := t)
    simp only [PlacedLeaf.problem?, PlacedLeaf.finding, leafFinding, names_memberScope]
    split
    · next hfound =>
      simp only [Bool.and_eq_true, decide_eq_true_eq] at hfound
      constructor
      · intro hd
        cases hd
        exact ⟨t, rfl, hneeds.mpr ⟨hl, hfound⟩, rfl⟩
      · rintro ⟨u, hu, -, rfl⟩
        cases hu
        rfl
    · next hnot =>
      simp only [Bool.and_eq_true, decide_eq_true_eq] at hnot
      refine iff_of_false (fun hd => ?_) ?_
      · cases hd
      · rintro ⟨u, hu, hobject, -⟩
        cases hu
        exact hnot (hneeds.mp hobject).2
  | number t =>
    refine iff_of_false (fun hd => ?_) ?_
    · simp only [PlacedLeaf.problem?, PlacedLeaf.finding, leafFinding] at hd
      split at hd <;> cases hd
    · rintro ⟨u, hu, -⟩
      cases hu

/-- A report stands at the place of its leaf. -/
theorem place_of_problem? {path : String} {f : SourceFile} {l : PlacedLeaf} {d : Diagnostic}
    (hl : l ∈ fileLeaves f) (h : l.problem? path = some d) :
    (⟨d.line, d.column⟩ : Position) = l.leaf.token.position := by
  obtain ⟨t, ht, -, rfl⟩ := (problem?_eq_some_iff (mem_fileLeaves.mp hl).2.2).mp h
  rw [ht]
  rfl

theorem isConstructor_of_static {m : Member} {x : String} (h : memberName? m = some (x, true)) :
    isConstructor m = false := by
  cases m with
  | field ms d => rfl
  | method ms t n ps b => rfl
  | constructor ms n ps b => cases h

/-- No number ends the work in front of a leaf just when none that is too long stands before it. -/
theorem not_stopped_iff {f : SourceFile} {p : Position} : ¬Stopped f p
    ↔ ∀ l ∈ fileLeaves f, l.leaf.token.position.Before p → (!l.leaf.isHuge) = true := by
  constructor
  · intro hstopped l hl hbefore
    obtain ⟨c, m, leaf⟩ := l
    obtain ⟨hc, hm, hleaf⟩ := mem_fileLeaves.mp hl
    cases leaf with
    | name t => rfl
    | number t =>
      rw [Bool.not_eq_true']
      by_contra hhuge
      rw [Bool.not_eq_false, isHuge_iff] at hhuge
      exact hstopped ⟨c, hc, m, hm, t, ⟨number_mem_memberLeaves.mp hleaf, hhuge⟩, hbefore⟩
  · rintro hnone ⟨c, hc, m, hm, t, ⟨hnumber, hlong⟩, hbefore⟩
    have hleaf := hnone ⟨c, m, .number t⟩
      (mem_fileLeaves.mpr ⟨hc, hm, number_mem_memberLeaves.mpr hnumber⟩) hbefore
    rw [isHuge_iff.mpr hlong] at hleaf
    cases hleaf

section
variable (path : String) {source : List Char} {f : SourceFile} (h : parse source = .ok f)
include h

/-- The leaves that are come upon before the work ends. -/
theorem mem_takeWhile_fileLeaves (l : PlacedLeaf) :
    l ∈ (fileLeaves f).takeWhile (!·.leaf.isHuge)
      ↔ l ∈ fileLeaves f ∧ (!l.leaf.isHuge) = true ∧ ¬Stopped f l.leaf.token.position := by
  rw [mem_takeWhile_iff (fun _ _ => Position.Before.asymm) (fileLeaves_ordered h),
    not_stopped_iff]

/-- The occurrences that are reported. -/
theorem mem_reports_iff (d : Diagnostic) :
    d ∈ (Program.lowerText path source).2.filter (·.code == instanceCode)
      ↔ ∃ c ∈ f.classes, ∃ m ∈ c.members, ∃ t,
        NeedsObject c m t ∧ ¬Stopped f t.position ∧ d = instanceReport path c t := by
  rw [filter_lowerText path h, List.mem_filterMap]
  constructor
  · rintro ⟨l, hl, hd⟩
    obtain ⟨hmem, -, hreached⟩ := (mem_takeWhile_fileLeaves h l).mp hl
    obtain ⟨hc, hm, hleaf⟩ := mem_fileLeaves.mp hmem
    obtain ⟨t, ht, hneeds, rfl⟩ := (problem?_eq_some_iff hleaf).mp hd
    rw [ht] at hreached
    exact ⟨l.type, hc, l.member, (lookedAt_sublist _ _).subset hm, t, hneeds, hreached, rfl⟩
  · rintro ⟨c, hc, m, hm, t, hneeds, hreached, rfl⟩
    obtain ⟨x, hstatic⟩ := hneeds.static
    have hleaf : Leaf.name t ∈ memberLeaves m := name_mem_memberLeaves.mpr hneeds.bare
    have hmem : (⟨c, m, .name t⟩ : PlacedLeaf) ∈ fileLeaves f :=
      mem_fileLeaves.mpr ⟨hc, mem_lookedAt hm (isConstructor_of_static hstatic), hleaf⟩
    exact ⟨⟨c, m, .name t⟩, (mem_takeWhile_fileLeaves h _).mpr ⟨hmem, rfl, hreached⟩,
      (problem?_eq_some_iff hleaf).mpr ⟨t, rfl, hneeds, rfl⟩⟩

/-- The reports stand in the order of the source, each at another place. -/
theorem reports_ordered :
    (((Program.lowerText path source).2.filter (·.code == instanceCode)).map
      fun d => (⟨d.line, d.column⟩ : Position)).Pairwise Position.Before := by
  rw [filter_lowerText path h, List.pairwise_map, List.pairwise_filterMap]
  have hfirst := (fileLeaves_ordered h).sublist (List.takeWhile_sublist (!·.leaf.isHuge))
  refine hfirst.imp_of_mem fun hk hl hkl d hd e he => ?_
  rw [place_of_problem? ((mem_takeWhile_fileLeaves h _).mp hk).1 hd,
    place_of_problem? ((mem_takeWhile_fileLeaves h _).mp hl).1 he]
  exact hkl

end

/-- Where there is no instance, every bare name of an instance member in front of the first number
that cannot be read is reported once, at its place and in the order of the source, and nothing else
is reported so. -/
theorem instanceRequired_reported (path : String) {source : List Char} {f : SourceFile}
    (h : parse source = .ok f) :
    (((Program.lowerText path source).2.filter (·.code == "CR0120")).map
        fun d => (⟨d.line, d.column⟩ : Position)).Pairwise Position.Before
      ∧ ∀ d, d ∈ (Program.lowerText path source).2.filter (·.code == "CR0120")
        ↔ ∃ c ∈ f.classes, ∃ m ∈ c.members, ∃ t,
          NeedsObject c m t ∧ ¬Stopped f t.position ∧ d = instanceReport path c t :=
  ⟨reports_ordered path h, mem_reports_iff path h⟩

/-- A static method with a bare instance member, and one in which a variable hides it. -/
def hiddenSource : List Char :=
  ("class P \x7b int x; static int F(int y) \x7b return x + y; \x7d "
    ++ "static int G() \x7b int x = 1; return x; \x7d \x7d").toList

theorem instanceRequired_reported_hidden : ∃ f, parse hiddenSource = .ok f
    ∧ (Program.lowerText "a.cs" hiddenSource).2 = [⟨some "a.cs", 1, 47, "CR0120",
      "An object reference is required for the non-static member 'P.x'"⟩]
    ∧ ∃ c ∈ f.classes, ∃ m ∈ c.members, ∃ t, NeedsObject c m t ∧ ¬Stopped f t.position
      ∧ t.position = ⟨1, 47⟩ := by
  have hreports : (Program.lowerText "a.cs" hiddenSource).2 = [⟨some "a.cs", 1, 47, "CR0120",
      "An object reference is required for the non-static member 'P.x'"⟩] := by decide +kernel
  have hok : (parse hiddenSource).toBool = true := by decide +kernel
  cases hparse : parse hiddenSource with
  | error e =>
    rw [hparse] at hok
    cases hok
  | ok f =>
    have hfound := ((instanceRequired_reported "a.cs" hparse).2 ⟨some "a.cs", 1, 47, "CR0120",
      "An object reference is required for the non-static member 'P.x'"⟩).mp
        (by rw [hreports]; exact List.mem_singleton_self _)
    obtain ⟨c, hc, m, hm, t, hneeds, hreached, hd⟩ := hfound
    have hline := congrArg Diagnostic.line hd
    have hcolumn := congrArg Diagnostic.column hd
    exact ⟨f, rfl, hreports, c, hc, m, hm, t, hneeds, hreached,
      congr (congrArg Position.mk hline.symm) hcolumn.symm⟩

/-! ## Behind a number that cannot be read -/

/-- A whole number in front of a bare instance member, one digit longer than given. -/
def numberedSource (n : Nat) : List Char :=
  "class P \x7b int x; static int F() \x7b return ".toList ++ '1' :: (List.replicate n '1'
    ++ ';' :: " \x7d static int G() \x7b return x; \x7d \x7d".toList)

/-- A source with a number of 4301 digits. -/
def longSource : List Char := numberedSource 4300

/-- Whether a file has an occurrence at a place that needs an object. -/
def hasNeed (f : SourceFile) (p : Position) : Bool :=
  f.classes.any fun c => c.members.any fun m => (memberLeaves m).any fun
    | .name t => t.position = p
      && (memberScope (ClassNames.of c) m).meaning t.text = .instanceMember
      && (memberScope (ClassNames.of c) m).isStatic
    | .number _ => false

/-- Whether a file has a number at a place. -/
def hasNumber (f : SourceFile) (p : Position) : Bool :=
  (fileLeaves f).any fun l => match l.leaf with
    | .name _ => false
    | .number t => t.position = p

theorem exists_of_hasNeed {f : SourceFile} {p : Position} (h : hasNeed f p = true) :
    ∃ c ∈ f.classes, ∃ m ∈ c.members, ∃ t, NeedsObject c m t ∧ t.position = p := by
  obtain ⟨c, hc, hmembers⟩ := List.any_eq_true.mp h
  obtain ⟨m, hm, hleaves⟩ := List.any_eq_true.mp hmembers
  obtain ⟨l, hl, hneeds⟩ := List.any_eq_true.mp hleaves
  cases l with
  | name t =>
    simp only [Bool.and_eq_true, decide_eq_true_eq] at hneeds
    exact ⟨c, hc, m, hm, t, needsObject_iff.mpr ⟨hl, hneeds.1.2, hneeds.2⟩, hneeds.1.1⟩
  | number t => cases hneeds

theorem exists_of_hasNumber {f : SourceFile} {p : Position} (h : hasNumber f p = true) :
    ∃ l ∈ fileLeaves f, ∃ t, l.leaf = .number t ∧ t.position = p := by
  obtain ⟨⟨c, m, leaf⟩, hl, hnumber⟩ := List.any_eq_true.mp h
  cases leaf with
  | name t => cases hnumber
  | number t => exact ⟨_, hl, t, rfl, of_decide_eq_true hnumber⟩

/-- The place behind characters on the first line counts them. -/
theorem length_of_behind {before : List Char} {n : Nat}
    (h : Position.behind before = ⟨1, n + 1⟩) : before.length = n := by
  unfold Position.behind at h
  injection h with hline hcolumn
  have hfeed : '\n' ∉ before := List.count_eq_zero.mp (by omega)
  have hall : before.reverse.takeWhile (· != '\n') = before.reverse := by
    rw [List.takeWhile_eq_self_iff]
    intro c hc
    rw [bne_iff_ne]
    rintro rfl
    exact hfeed (List.mem_reverse.mp hc)
  rw [hall, List.length_reverse] at hcolumn
  exact Nat.succ_injective hcolumn

/-- The digits of a number are all read. -/
theorem pieceAt_ones (n : Nat) (tail : List Char) :
    pieceAt '1' (List.replicate n '1' ++ ';' :: tail) = .token .number n := by
  have hdigits : ∀ c ∈ List.replicate n '1', Text.isDigit c = true := by
    intro c hc
    rw [List.eq_of_mem_replicate hc]
    decide
  have hwhole : (List.replicate n '1' ++ ';' :: tail).takeWhile Text.isDigit
      = List.replicate n '1' := by
    rw [List.takeWhile_append_of_pos hdigits, List.takeWhile_cons_of_neg (by decide),
      List.append_nil]
  have hrest : numberRest (List.replicate n '1' ++ ';' :: tail) = n := by
    unfold numberRest
    rw [hwhole]
    simp
  unfold pieceAt
  rw [if_neg (by decide), if_neg (by decide), if_pos (by decide), hrest]

/-- The number is read with all of its digits. -/
theorem text_of_numberedSource {n : Nat} {t : Token} (ht : t ∈ (scan (numberedSource n)).tokens)
    (hp : t.position = ⟨1, 42⟩) : t.text = String.ofList ('1' :: List.replicate n '1') := by
  obtain ⟨before, c, rest, k, hsource, hplace, hpiece, htext⟩ := scan_pieces ht
  have hlength : before.length = 41 := length_of_behind (hplace.symm.trans hp)
  obtain ⟨-, hnumber⟩ := List.append_inj hsource (by rw [hlength]; rfl)
  injection hnumber with hc hrest
  subst hc hrest
  rw [pieceAt_ones] at hpiece
  injection hpiece with _ hk
  rw [htext, ← hk, List.take_left' List.length_replicate]

/-- The work on the file ends in front of the occurrence. -/
theorem stopped_longSource {f : SourceFile} (h : parse longSource = .ok f)
    (hnumber : hasNumber f ⟨1, 42⟩ = true) : Stopped f ⟨1, 4371⟩ := by
  obtain ⟨⟨c, m, leaf⟩, hl, t, rfl, hplace⟩ := exists_of_hasNumber hnumber
  obtain ⟨hc, hm, hleaf⟩ := mem_fileLeaves.mp hl
  have htoken : t ∈ (Outline.ofFile f).tokens :=
    (fileLeaves_sublist f).subset (List.mem_map.mpr ⟨_, hl, rfl⟩)
  rw [tokens_ofFile h] at htoken
  have htext := text_of_numberedSource (List.mem_filter.mp htoken).1 hplace
  refine ⟨c, hc, m, hm, t, ⟨number_mem_memberLeaves.mp hleaf, ?_, ?_⟩, ?_⟩
  · rw [htext, String.toList_ofList, ← List.replicate_succ]
    exact fun hpoint => absurd (List.eq_of_mem_replicate hpoint) (by decide)
  · rw [htext, String.length_ofList, List.length_cons, List.length_replicate]
    exact Nat.lt_succ_self _
  · rw [hplace]
    decide

/-- Behind a number that cannot be read a bare instance member is not reported. -/
theorem instanceRequired_behind_number : ∃ f, parse longSource = .ok f
    ∧ ∃ c ∈ f.classes, ∃ m ∈ c.members, ∃ t, NeedsObject c m t ∧ t.position = ⟨1, 4371⟩
      ∧ instanceReport "a.cs" c t ∉ (Program.lowerText "a.cs" longSource).2 := by
  have hkernel : (match parse longSource with
      | .ok f => hasNeed f ⟨1, 4371⟩ && hasNumber f ⟨1, 42⟩
      | .error _ => false) = true := by decide +kernel
  cases hparse : parse longSource with
  | error e =>
    rw [hparse] at hkernel
    cases hkernel
  | ok f =>
    simp only [hparse, Bool.and_eq_true] at hkernel
    obtain ⟨c, hc, m, hm, t, hneeds, hplace⟩ := exists_of_hasNeed hkernel.1
    refine ⟨f, rfl, c, hc, m, hm, t, hneeds, hplace, fun hmem => ?_⟩
    have hreported : instanceReport "a.cs" c t
        ∈ (Program.lowerText "a.cs" longSource).2.filter (·.code == instanceCode) :=
      List.mem_filter.mpr ⟨hmem, beq_self_eq_true instanceCode⟩
    obtain ⟨c', -, m', -, u, -, hreached, hsame⟩ :=
      (mem_reports_iff "a.cs" hparse _).mp hreported
    rw [← position_of_instanceReport hsame, hplace] at hreached
    exact hreached (stopped_longSource hparse hkernel.2)

end BraceScript.Lowering
