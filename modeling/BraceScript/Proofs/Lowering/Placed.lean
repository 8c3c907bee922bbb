import BraceScript.Proofs.Lowering.Occurrences

/-!
# Where problems are placed

A text that is no source file has one problem, and the classes and problems of any other text stand
at tokens. So every class and every problem of a text stands where the text has a character
(`Occupied`), except for the problem that it ends too early, which stands behind its last one
(`lowerText_placed`).
-/

namespace BraceScript

open Syntax Lowering
open Outline (collect)

namespace Syntax

/-- A place of a text where a character stands. -/
def Occupied (text : List Char) (p : Position) : Prop :=
  ∃ before c rest, text = before ++ c :: rest ∧ p = .behind before

/-- A text with an occupied place has one at its beginning. -/
theorem Occupied.start {text : List Char} {p : Position} (h : Occupied text p) :
    Occupied text .start := by
  obtain ⟨before, c, rest, rfl, -⟩ := h
  cases before with
  | nil => exact ⟨[], c, rest, rfl, rfl⟩
  | cons b before => exact ⟨[], b, before ++ c :: rest, rfl, rfl⟩

theorem scan_occupied {source : List Char} {t : Token} (ht : t ∈ (scan source).tokens) :
    Occupied source t.position := by
  obtain ⟨before, c, rest, -, hsource, hplace, -⟩ := scan_pieces ht
  exact ⟨before, c, rest, hsource, hplace⟩

/-- The tokens of a tree stand in its source. -/
theorem tree_occupied {source : List Char} {f : SourceFile} (h : parse source = .ok f) {t : Token}
    (ht : t ∈ (Outline.ofFile f).tokens) : Occupied source t.position := by
  rw [tokens_ofFile h] at ht
  exact scan_occupied (List.mem_filter.mp ht).1

namespace Outline

theorem mem_allTokens {os : List Outline} {t : Token} :
    t ∈ allTokens os ↔ ∃ o ∈ os, t ∈ o.tokens := by
  rw [allTokens_eq_flatMap, List.mem_flatMap]

/-- The tokens of a class are tokens of the file. -/
theorem tokens_ofClass_subset {f : SourceFile} {c : ClassDecl} (hc : c ∈ f.classes) :
    (ofClass c).tokens ⊆ (ofFile f).tokens := by
  intro t ht
  unfold ofFile
  rw [tokens, allTokens_append, List.mem_append, mem_allTokens, mem_allTokens]
  exact .inr ⟨ofClass c, List.mem_map_of_mem hc, ht⟩

/-- The tokens of a member are tokens of the class. -/
theorem tokens_ofMember_subset {c : ClassDecl} {m : Member} (hm : m ∈ c.members) :
    (ofMember m).tokens ⊆ (ofClass c).tokens := by
  intro t ht
  unfold ofClass
  rw [tokens, mem_allTokens]
  exact ⟨ofMember m, .tail _ (.tail _ (.tail _ (List.mem_map_of_mem hm))), ht⟩

theorem name_mem_tokens (c : ClassDecl) : c.name ∈ (ofClass c).tokens := by
  simp [ofClass, tokens, allTokens]

end Outline

end Syntax

namespace Lowering

/-! ## Problems of members -/

/-- The name of a member is a token of it. -/
theorem memberKey_mem_tokens (type : String) (m : Member) :
    (memberKey type m).2.2 ∈ (Outline.ofMember m).tokens := by
  cases m <;> simp [memberKey, Outline.ofMember, Outline.tokens, Outline.allTokens]

/-- The names and numbers of a member are tokens of it. -/
theorem leaf_mem_tokens {m : Member} {l : Leaf} (hl : l ∈ memberLeaves m) :
    l.token ∈ (Outline.ofMember m).tokens := by
  rw [← collect_ofMember] at hl
  exact (Outline.collect_sublist (fun _ _ _ => eq_of_leafAt) _).subset (List.mem_map_of_mem hl)

theorem mem_repeatedMembers {type shown : String} {seen : List String} {ms : List Member}
    {t : Token} (h : (shown, t) ∈ repeatedMembers type seen ms) :
    ∃ m ∈ ms, t = (memberKey type m).2.2 := by
  induction ms generalizing seen with
  | nil => cases h
  | cons m ms ih =>
    simp only [repeatedMembers] at h
    have hrest (hin : (shown, t) ∈ repeatedMembers type ((memberKey type m).1 :: seen) ms) :
        ∃ k ∈ m :: ms, t = (memberKey type k).2.2 := by
      obtain ⟨k, hk, rfl⟩ := ih hin
      exact ⟨k, .tail _ hk, rfl⟩
    split at h
    · rcases List.mem_cons.mp h with heq | h
      · cases heq
        exact ⟨m, List.mem_cons_self, rfl⟩
      · exact hrest h
    · exact hrest h

/-- `At ts d`: the diagnostic stands at one of the tokens. -/
def At (ts : List Token) (d : Diagnostic) : Prop :=
  ∃ t ∈ ts, (⟨d.line, d.column⟩ : Position) = t.position

theorem At.mono {ts us : List Token} {d : Diagnostic} (h : At ts d) (hs : ts ⊆ us) : At us d := by
  obtain ⟨t, ht, hplace⟩ := h
  exact ⟨t, hs ht, hplace⟩

theorem leafFinding_at {file : String} {s : Scope} {l : Leaf} {d : Diagnostic}
    (h : leafFinding file s l = some (.problem d)) : At [l.token] d := by
  cases l with
  | name t =>
    simp only [leafFinding] at h
    split at h
    · cases h
      exact ⟨t, List.mem_singleton.mpr rfl, rfl⟩
    · cases h
  | number t =>
    simp only [leafFinding] at h
    split at h <;> cases h

theorem memberFindings_at {file : String} {names : ClassNames} {first : Bool} {m : Member}
    {d : Diagnostic} (h : Finding.problem d ∈ memberFindings file names first m) :
    At (Outline.ofMember m).tokens d := by
  have hleaf {s : Scope}
      (hl : Finding.problem d ∈ (memberLeaves m).filterMap (leafFinding file s)) :
      At (Outline.ofMember m).tokens d := by
    obtain ⟨l, hl, hfound⟩ := List.mem_filterMap.mp hl
    refine (leafFinding_at hfound).mono fun t ht => ?_
    rw [List.mem_singleton.mp ht]
    exact leaf_mem_tokens hl
  cases m with
  | field ms d' => exact hleaf h
  | method ms t n ps b => exact hleaf h
  | constructor ms n ps b =>
    simp only [memberFindings] at h
    split at h
    · rcases List.mem_append.mp h with h | h
      · split at h
        · cases h
        · cases List.mem_singleton.mp h
          exact ⟨n, memberKey_mem_tokens "" (.constructor ms n ps b), rfl⟩
      · exact hleaf h
    · cases h

theorem membersFindings_at {file : String} {names : ClassNames} {seen : Bool} {ms : List Member}
    {d : Diagnostic} (h : Finding.problem d ∈ membersFindings file names seen ms) :
    ∃ m ∈ ms, At (Outline.ofMember m).tokens d := by
  induction ms generalizing seen with
  | nil => cases h
  | cons m ms ih =>
    rcases List.mem_append.mp h with h | h
    · exact ⟨m, List.mem_cons_self, memberFindings_at h⟩
    · obtain ⟨k, hk, hat⟩ := ih h
      exact ⟨k, .tail _ hk, hat⟩

theorem classFindings_at {file : String} {c : ClassDecl} {d : Diagnostic}
    (h : Finding.problem d ∈ classFindings file c) : At (Outline.ofClass c).tokens d := by
  rcases List.mem_append.mp h with h | h
  · obtain ⟨⟨shown, t⟩, ht, heq⟩ := List.mem_map.mp h
    cases heq
    obtain ⟨m, hm, rfl⟩ := mem_repeatedMembers ht
    exact ⟨_, Outline.tokens_ofMember_subset hm (memberKey_mem_tokens _ m), rfl⟩
  · obtain ⟨m, hm, hat⟩ := membersFindings_at h
    exact hat.mono (Outline.tokens_ofMember_subset hm)

/-! ## Files -/

/-- A problem that is settled was found, or stands at the beginning of a file with findings. -/
theorem mem_settleFindings {file : String} {fs : List Finding} {d : Diagnostic}
    (h : d ∈ (settleFindings file fs).1) :
    Finding.problem d ∈ fs ∨ fs ≠ [] ∧ (⟨d.line, d.column⟩ : Position) = .start := by
  induction fs with
  | nil => cases h
  | cons f fs ih =>
    cases f with
    | problem p =>
      rcases List.mem_cons.mp h with rfl | h
      · exact .inl List.mem_cons_self
      · exact (ih h).imp (List.mem_cons_of_mem _) fun hstart => ⟨List.cons_ne_nil _ _, hstart.2⟩
    | hugeNumber n =>
      obtain rfl := List.mem_singleton.mp h
      exact .inr ⟨List.cons_ne_nil _ _, rfl⟩

theorem classesCode_at {file : String} {n : Nat} {cs : List ClassDecl} :
    ∀ t ∈ classesCode file n cs, ∃ c ∈ cs, t.position = c.name.position := by
  induction cs generalizing n with
  | nil => simp [classesCode]
  | cons c cs ih =>
    intro t ht
    rcases List.mem_cons.mp ht with rfl | ht
    · exact ⟨c, List.mem_cons_self, rfl⟩
    · obtain ⟨d, hd, hplace⟩ := ih t ht
      exact ⟨d, .tail _ hd, hplace⟩

/-- The classes and problems of a file stand where its source has characters. -/
theorem lowerFile_occupied (file : String) {source : List Char} {f : SourceFile}
    (h : parse source = .ok f) :
    (∀ t ∈ (lowerFile file f).1, Occupied source t.position)
      ∧ ∀ d ∈ (lowerFile file f).2, Occupied source ⟨d.line, d.column⟩ := by
  have hclass {c : ClassDecl} (hc : c ∈ f.classes) : Occupied source c.name.position :=
    tree_occupied h (Outline.tokens_ofClass_subset hc (Outline.name_mem_tokens c))
  constructor
  · intro t ht
    simp only [lowerFile] at ht
    split at ht
    · obtain ⟨c, hc, hplace⟩ := classesCode_at t ht
      rw [hplace]
      exact hclass hc
    · cases ht
  · intro d hd
    rcases mem_settleFindings hd with hd | ⟨hne, hplace⟩
    · obtain ⟨c, hc, hd⟩ := List.mem_flatMap.mp hd
      obtain ⟨t, ht, hplace⟩ := classFindings_at hd
      rw [hplace]
      exact tree_occupied h (Outline.tokens_ofClass_subset hc ht)
    · -- a file with findings has a class, so its source is not empty
      obtain ⟨x, hx⟩ := List.exists_mem_of_ne_nil _ hne
      obtain ⟨c, hc, -⟩ := List.mem_flatMap.mp hx
      rw [hplace]
      exact (hclass hc).start

end Lowering

namespace Program

/-- The classes and problems of a text stand where it has characters, except for the problem that
it ends too early, which stands behind its last character. -/
theorem lowerText_placed (path : String) (text : List Char) :
    (∀ t ∈ (lowerText path text).1, Occupied text t.position)
      ∧ ∀ d ∈ (lowerText path text).2, Occupied text ⟨d.line, d.column⟩
        ∨ d.code = "CR1003" ∧ (⟨d.line, d.column⟩ : Position) = .behind text := by
  cases h : parse text with
  | ok f =>
    have hlower : lowerText path text = lowerFile path f := by rw [lowerText, h]
    rw [hlower]
    obtain ⟨htypes, hproblems⟩ := lowerFile_occupied path h
    exact ⟨htypes, fun d hd => .inl (hproblems d hd)⟩
  | error e =>
    obtain ⟨⟨problem, place, hlower, hfault⟩, -⟩ := lowerText_firstFault path h
    rw [hlower]
    refine ⟨List.forall_mem_nil _, fun d hd => ?_⟩
    obtain rfl := List.mem_singleton.mp hd
    cases hfault with
    | @token before after t hsplit =>
      refine .inl (scan_occupied (t := t) ?_)
      rw [hsplit]
      simp
    | character htext => exact .inl ⟨_, _, _, htext, rfl⟩
    | ending => exact .inr ⟨rfl, rfl⟩

end Program

end BraceScript
