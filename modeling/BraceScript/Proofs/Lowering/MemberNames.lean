import BraceScript.Proofs.Lowering.InstanceRequired

/-!
# Names of members

The members of a class are known by their names, and all its constructors by one name of their own.
A member whose name an earlier one has is reported (`Repeats`), and so is the first constructor if
it is not named like its class; `memberNames_reported` says that nothing else is and that each
report is made once. A later constructor is only known as a second one, whatever it is called, and
that one name can also be written as the name of a field or a method. Classes without either are
`Regular`: for these the reports are those of names declared again and of constructors that are not
named like their class.
-/

namespace BraceScript.Lowering

open Syntax

/-! ## Names -/

/-- The token of the name of a member. -/
def nameToken : Member → Token
  | .field _ d => d.name
  | .method _ _ n _ _ => n
  | .constructor _ n _ _ => n

/-- A field or a method of some name is among members. -/
def DeclaresMember (ms : List Member) (x : String) : Prop :=
  ∃ k ∈ ms, ∃ static, memberName? k = some (x, static)

/-- A constructor is among members. -/
def HasConstructor (ms : List Member) : Prop := ∃ k ∈ ms, isConstructor k = true

/-- A constructor that is not named like its class. -/
def IsMisnamed (c : ClassDecl) (m : Member) : Prop :=
  isConstructor m = true ∧ (nameToken m).text ≠ c.name.text

/-- A member behind others is known by the name of one of them. -/
inductive Repeats (front : List Member) (m : Member) : Prop
  | named (x : String) (static : Bool) : memberName? m = some (x, static) →
      DeclaresMember front x → Repeats front m
  | initNamed (static : Bool) : memberName? m = some (initName, static) →
      HasConstructor front → Repeats front m
  | constructor : isConstructor m = true → HasConstructor front → Repeats front m
  | initConstructor : isConstructor m = true → DeclaresMember front initName → Repeats front m

/-- A member behind others declares what one of them declares: a field or a method of its name, or
the constructor of the class. -/
inductive Redeclares (c : ClassDecl) (front : List Member) (m : Member) : Prop
  | named (x : String) (static : Bool) : memberName? m = some (x, static) →
      DeclaresMember front x → Redeclares c front m
  | constructor : isConstructor m = true → ¬IsMisnamed c m →
      (∃ k ∈ front, isConstructor k = true ∧ ¬IsMisnamed c k) → Redeclares c front m

/-- If there are several constructors, all are named like the class, and where there is one no field
and no method has the name by which constructors are known. -/
structure Regular (c : ClassDecl) : Prop where
  constructors : ∀ front m back, c.members = front ++ m :: back → isConstructor m = true →
    HasConstructor front → ∀ k ∈ c.members, ¬IsMisnamed c k
  spared : HasConstructor c.members → ¬DeclaresMember c.members initName

theorem memberKey_token (type : String) (m : Member) : (memberKey type m).2.2 = nameToken m := by
  cases m <;> rfl

theorem declaresMember_iff {ms : List Member} {x : String} :
    DeclaresMember ms x ↔ ∃ k ∈ ms, isConstructor k = false ∧ (nameToken k).text = x := by
  refine exists_congr fun k => and_congr_right fun _ => ?_
  cases k with
  | field ms d => simp [memberName?, isConstructor, nameToken]
  | method ms t n ps b => simp [memberName?, isConstructor, nameToken]
  | constructor ms n ps b => simp [memberName?, isConstructor]

/-- A key is the name of a field or a method, or that of all constructors. -/
theorem mem_keys_iff {type x : String} {ms : List Member} :
    x ∈ ms.map (fun k => (memberKey type k).1)
      ↔ DeclaresMember ms x ∨ x = initName ∧ HasConstructor ms := by
  rw [List.mem_map, declaresMember_iff]
  constructor
  · rintro ⟨k, hk, rfl⟩
    cases k with
    | field ms d => exact .inl ⟨_, hk, rfl, rfl⟩
    | method ms t n ps b => exact .inl ⟨_, hk, rfl, rfl⟩
    | constructor ms n ps b => exact .inr ⟨rfl, _, hk, rfl⟩
  · rintro (⟨k, hk, hkind, rfl⟩ | ⟨rfl, k, hk, hkind⟩)
    · cases k with
      | field ms d => exact ⟨_, hk, rfl⟩
      | method ms t n ps b => exact ⟨_, hk, rfl⟩
      | constructor ms n ps b => cases hkind
    · cases k with
      | field ms d => cases hkind
      | method ms t n ps b => cases hkind
      | constructor ms n ps b => exact ⟨_, hk, rfl⟩

/-- The key of a member is among those of the members in front of it just when it repeats one. -/
theorem repeats_iff {type : String} {front : List Member} {m : Member} :
    Repeats front m ↔ (memberKey type m).1 ∈ front.map (fun k => (memberKey type k).1) := by
  rw [mem_keys_iff]
  have hmember {x : String} (hname : ∃ static, memberName? m = some (x, static))
      (hkey : (memberKey type m).1 = x) (hkind : isConstructor m = false) : Repeats front m
        ↔ DeclaresMember front (memberKey type m).1
          ∨ (memberKey type m).1 = initName ∧ HasConstructor front := by
    obtain ⟨static, hname⟩ := hname
    rw [hkey]
    constructor
    · rintro (⟨y, s, hy, hfront⟩ | ⟨s, hy, hfront⟩ | ⟨hm, -⟩ | ⟨hm, -⟩)
      · obtain ⟨rfl, -⟩ := Prod.mk.inj (Option.some.inj (hname.symm.trans hy))
        exact .inl hfront
      · obtain ⟨rfl, -⟩ := Prod.mk.inj (Option.some.inj (hname.symm.trans hy))
        exact .inr ⟨rfl, hfront⟩
      · exact nomatch hkind.symm.trans hm
      · exact nomatch hkind.symm.trans hm
    · rintro (hfront | ⟨rfl, hfront⟩)
      · exact .named x static hname hfront
      · exact .initNamed static hname hfront
  cases m with
  | field ms d => exact hmember ⟨_, rfl⟩ rfl rfl
  | method ms t n ps b => exact hmember ⟨_, rfl⟩ rfl rfl
  | constructor ms n ps b =>
    constructor
    · rintro (⟨y, s, hy, -⟩ | ⟨s, hy, -⟩ | ⟨-, hfront⟩ | ⟨-, hfront⟩)
      · cases hy
      · cases hy
      · exact .inr ⟨rfl, hfront⟩
      · exact .inl hfront
    · rintro (hfront | ⟨-, hfront⟩)
      · exact .initConstructor rfl hfront
      · exact .constructor rfl hfront

/-! ## Regular classes -/

/-- The first of the elements with a property. -/
theorem exists_first {α : Type} {p : α → Prop} {l : List α} (h : ∃ k ∈ l, p k) :
    ∃ front k back, l = front ++ k :: back ∧ p k ∧ ∀ j ∈ front, ¬p j := by
  classical
  have hsome : (l.find? fun k => decide (p k)).isSome = true :=
    List.find?_isSome.mpr (by simpa using h)
  obtain ⟨k, hk⟩ := Option.isSome_iff_exists.mp hsome
  obtain ⟨hp, front, back, hsplit, hfront⟩ := List.find?_eq_some_iff_append.mp hk
  exact ⟨front, k, back, hsplit, of_decide_eq_true hp, fun j hj => by simpa using hfront j hj⟩

theorem memberName?_of_constructor {m : Member} (h : isConstructor m = true) :
    memberName? m = none := by
  cases m with
  | field ms d => cases h
  | method ms t n ps b => cases h
  | constructor ms n ps b => rfl

section
variable {c : ClassDecl} (h : ∀ front m back, c.members = front ++ m :: back →
  (Repeats front m ↔ Redeclares c front m) ∧ (IsMisnamed c m → ¬HasConstructor front))
include h

/-- A constructor behind a misnamed one would repeat it without declaring it again. -/
theorem no_constructor_behind {front back : List Member} {k : Member}
    (hsplit : c.members = front ++ k :: back) (hmis : IsMisnamed c k) : ¬HasConstructor back := by
  intro hback
  obtain ⟨between, m, rest, rfl, hm, hnone⟩ := exists_first hback
  have hsplit' : c.members = (front ++ k :: between) ++ m :: rest := by
    rw [hsplit, List.append_assoc, List.cons_append]
  have hrepeats : Repeats (front ++ k :: between) m :=
    .constructor hm ⟨k, List.mem_append_right _ List.mem_cons_self, hmis.1⟩
  rcases (h _ _ _ hsplit').1.mp hrepeats with ⟨x, s, hname, -⟩ | ⟨-, -, j, hj, hjkind, hjnamed⟩
  · exact nomatch (memberName?_of_constructor hm).symm.trans hname
  · rcases List.mem_append.mp hj with hj | hj
    · exact (h _ _ _ hsplit).2 hmis ⟨j, hj, hjkind⟩
    · rcases List.mem_cons.mp hj with rfl | hj
      · exact hjnamed hmis
      · exact hnone j hj hjkind

/-- The later one of a constructor and a member with the name of constructors would repeat the
other without declaring it again. -/
theorem spared_of_repeats (hhas : HasConstructor c.members) :
    ¬DeclaresMember c.members initName := by
  obtain ⟨front, k, back, hsplit, hk, hnone⟩ := exists_first hhas
  have hfront : ¬DeclaresMember front initName := by
    intro hdeclares
    rcases (h _ _ _ hsplit).1.mp (.initConstructor hk hdeclares) with
      ⟨x, s, hname, -⟩ | ⟨-, -, j, hj, hjkind, -⟩
    · exact nomatch (memberName?_of_constructor hk).symm.trans hname
    · exact hnone j hj hjkind
  have hself {s : Bool} : memberName? k ≠ some (initName, s) := by
    rw [memberName?_of_constructor hk]
    exact nofun
  rintro ⟨j, hj, s, hname⟩
  rw [hsplit] at hj
  rcases List.mem_append.mp hj with hj | hj
  · exact hfront ⟨j, hj, s, hname⟩
  rcases List.mem_cons.mp hj with rfl | hj
  · exact hself hname
  obtain ⟨between, m, rest, rfl, ⟨s', hm⟩, hfirst⟩ :=
    exists_first (p := fun m => ∃ s, memberName? m = some (initName, s)) ⟨j, hj, s, hname⟩
  have hsplit' : c.members = (front ++ k :: between) ++ m :: rest := by
    rw [hsplit, List.append_assoc, List.cons_append]
  have hrepeats : Repeats (front ++ k :: between) m :=
    .initNamed s' hm ⟨k, List.mem_append_right _ List.mem_cons_self, hk⟩
  rcases (h _ _ _ hsplit').1.mp hrepeats with ⟨x, t, hx, i, hi, hideclares⟩ | ⟨hkind, -, -⟩
  · obtain ⟨rfl, -⟩ := Prod.mk.inj (Option.some.inj (hm.symm.trans hx))
    rcases List.mem_append.mp hi with hi | hi
    · exact hfront ⟨i, hi, hideclares⟩
    · rcases List.mem_cons.mp hi with rfl | hi
      · obtain ⟨u, hu⟩ := hideclares
        exact hself hu
      · exact hfirst i hi hideclares
  · exact nomatch (memberName?_of_constructor hkind).symm.trans hm

end

/-- What repeats a name redeclares a member, and misnamed constructors are first ones, in regular
classes and in no others. -/
theorem regular_iff (c : ClassDecl) : Regular c ↔ ∀ front m back, c.members = front ++ m :: back →
    (Repeats front m ↔ Redeclares c front m) ∧ (IsMisnamed c m → ¬HasConstructor front) := by
  constructor
  · rintro ⟨hconstructors, hspared⟩ front m back hsplit
    have hfront {k : Member} (hk : k ∈ front) : k ∈ c.members := by
      rw [hsplit]
      exact List.mem_append_left _ hk
    have hm : m ∈ c.members := by
      rw [hsplit]
      exact List.mem_append_right _ List.mem_cons_self
    refine ⟨⟨?_, ?_⟩, fun hmis hhas => hconstructors front m back hsplit hmis.1 hhas m hm hmis⟩
    · rintro (⟨x, s, hname, hx⟩ | ⟨s, hname, k, hk, hkind⟩ | ⟨hkind, hhas⟩ | ⟨hkind, k, hk, s, hname⟩)
      · exact .named x s hname hx
      · exact absurd ⟨m, hm, s, hname⟩ (hspared ⟨k, hfront hk, hkind⟩)
      · have hnamed := hconstructors front m back hsplit hkind hhas
        obtain ⟨k, hk, hkkind⟩ := hhas
        exact .constructor hkind (hnamed m hm) ⟨k, hk, hkkind, hnamed k (hfront hk)⟩
      · exact absurd ⟨k, hfront hk, s, hname⟩ (hspared ⟨m, hm, hkind⟩)
    · rintro (⟨x, s, hname, hx⟩ | ⟨hkind, -, k, hk, hkkind, -⟩)
      · exact .named x s hname hx
      · exact .constructor hkind ⟨k, hk, hkkind⟩
  · intro h
    refine ⟨fun front m back hsplit hkind hhas k hk hmis => ?_, spared_of_repeats h⟩
    obtain ⟨before, after, hk⟩ := List.append_of_mem hk
    have hbefore : ¬HasConstructor before := (h _ _ _ hk).2 hmis
    -- the misnamed constructor stands in front of the second one
    rcases List.append_eq_append_iff.mp (hsplit.symm.trans hk) with
      ⟨as, rfl, -⟩ | ⟨bs, rfl, hrest⟩
    · obtain ⟨j, hj, hjkind⟩ := hhas
      exact hbefore ⟨j, List.mem_append_left _ hj, hjkind⟩
    · cases bs with
      | nil =>
        rw [List.append_nil] at hhas
        exact hbefore hhas
      | cons b bs =>
        obtain ⟨-, rfl⟩ := List.cons.inj hrest
        exact no_constructor_behind h hk hmis
          ⟨m, List.mem_append_right _ List.mem_cons_self, hkind⟩

/-! ## Findings up to a number that cannot be read -/

/-- Members without a whole number that has too many digits to be read. -/
def Readable (ms : List Member) : Prop := ∀ m ∈ ms, ∀ t, ¬IsTooLong (Outline.ofMember m) t

/-- The problems of a number in front of the first finding that ends the work. -/
def problemsOf (code : String) (fs : List Finding) : List Diagnostic :=
  ((fs.takeWhile (!·.isHuge)).filterMap Finding.problem?).filter (·.code == code)

@[simp]
theorem problemsOf_nil (code : String) : problemsOf code [] = [] := rfl

@[simp]
theorem problemsOf_huge (code : String) (n : Nat) (fs : List Finding) :
    problemsOf code (.hugeNumber n :: fs) = [] := rfl

theorem problemsOf_problem (code : String) (d : Diagnostic) (fs : List Finding) :
    problemsOf code (.problem d :: fs)
      = (if d.code = code then [d] else []) ++ problemsOf code fs := by
  have hcons : problemsOf code (.problem d :: fs)
      = [d].filter (·.code == code) ++ problemsOf code fs := by
    rw [problemsOf, problemsOf, ← List.filter_append]
    rfl
  rw [hcons]
  by_cases hd : d.code = code
  · simp [hd]
  · simp [hd]

theorem filter_settleFindings_of_ne {code : String} (path : String) (fs : List Finding)
    (h : code ≠ "CR9999") :
    (settleFindings path fs).1.filter (·.code == code) = problemsOf code fs := by
  induction fs with
  | nil => rfl
  | cons x fs ih =>
    cases x with
    | problem d =>
      rw [settleFindings, problemsOf_problem, ← ih, List.filter_cons]
      simp only [beq_iff_eq]
      split <;> rfl
    | hugeNumber n =>
      rw [settleFindings, problemsOf_huge, List.filter_eq_nil_iff]
      intro d hd
      obtain rfl := List.mem_singleton.mp hd
      simpa [Problem.at, Problem.code] using h.symm

theorem problemsOf_append (code : String) (fs gs : List Finding) : problemsOf code (fs ++ gs)
    = problemsOf code fs ++ if fs.any Finding.isHuge then [] else problemsOf code gs := by
  induction fs with
  | nil => rfl
  | cons x fs ih =>
    cases x with
    | problem d =>
      rw [List.cons_append, problemsOf_problem, problemsOf_problem, ih, List.append_assoc]
      rfl
    | hugeNumber n => rfl

theorem problemsOf_eq_nil {code : String} {fs : List Finding}
    (h : ∀ x ∈ fs, ∀ d, x = .problem d → d.code ≠ code) : problemsOf code fs = [] := by
  induction fs with
  | nil => rfl
  | cons x fs ih =>
    obtain ⟨hx, hfs⟩ := List.forall_mem_cons.mp h
    cases x with
    | problem d => rw [problemsOf_problem, if_neg (hx d rfl), ih hfs, List.nil_append]
    | hugeNumber n => rfl

/-- Up to the first number that cannot be read the findings are those of all classes in turn. -/
theorem mem_problemsOf_flatMap {code : String} {d : Diagnostic} {g : ClassDecl → List Finding}
    {cs : List ClassDecl} : d ∈ problemsOf code (cs.flatMap g)
      ↔ ∃ before c after, cs = before ++ c :: after
        ∧ (∀ b ∈ before, (g b).any Finding.isHuge = false) ∧ d ∈ problemsOf code (g c) := by
  induction cs with
  | nil => simp
  | cons c cs ih =>
    rw [List.flatMap_cons, problemsOf_append, List.mem_append]
    constructor
    · rintro (hd | hd)
      · exact ⟨[], c, cs, rfl, List.forall_mem_nil _, hd⟩
      · split at hd
        · cases hd
        · next hhuge =>
          obtain ⟨before, b, after, rfl, hbefore, hd⟩ := ih.mp hd
          exact ⟨c :: before, b, after, rfl,
            List.forall_mem_cons.mpr ⟨Bool.eq_false_of_not_eq_true hhuge, hbefore⟩, hd⟩
    · rintro ⟨before, b, after, hsplit, hbefore, hd⟩
      cases before with
      | nil =>
        obtain ⟨rfl, rfl⟩ := List.cons.inj hsplit
        exact .inl hd
      | cons a before =>
        obtain ⟨rfl, rfl⟩ := List.cons.inj hsplit
        obtain ⟨hhuge, hbefore⟩ := List.forall_mem_cons.mp hbefore
        rw [if_neg (by rw [hhuge]; exact Bool.false_ne_true)]
        exact .inr (ih.mpr ⟨before, b, after, rfl, hbefore, hd⟩)

theorem readable_iff {ms : List Member} :
    Readable ms ↔ ms.any (fun m => (memberLeaves m).any Leaf.isHuge) = false := by
  rw [List.any_eq_false]
  refine forall₂_congr fun m _ => ?_
  rw [Bool.not_eq_true, List.any_eq_false]
  constructor
  · intro h l hl hhuge
    cases l with
    | name t => cases hhuge
    | number t => exact h t ⟨number_mem_memberLeaves.mp hl, isHuge_iff.mp hhuge⟩
  · rintro h t ⟨hnumber, hlong⟩
    exact h _ (number_mem_memberLeaves.mpr hnumber) (isHuge_iff.mpr hlong)

theorem any_isHuge_filter (fs : List Finding) :
    (fs.filter Finding.isRelevant).any Finding.isHuge = fs.any Finding.isHuge := by
  rw [List.any_filter]
  congr 1
  funext x
  cases x with
  | problem d => exact Bool.and_false _
  | hugeNumber n => rfl

/-- The members that are looked at decide whether the check of a class comes to its end. -/
theorem classFindings_readable (path : String) (c : ClassDecl) :
    (classFindings path c).any Finding.isHuge = false ↔ Readable (lookedAt false c.members) := by
  have hrepeated : ((repeatedMembers c.name.text [] c.members).map fun (x : String × Token) =>
      Finding.problem ((Problem.duplicateMember c.name.text x.1).at path x.2.position)).any
        Finding.isHuge = false := by
    rw [List.any_map]
    exact List.any_eq_false.mpr fun _ _ => Bool.false_ne_true
  rw [classFindings, List.any_append, hrepeated, Bool.false_or, ← any_isHuge_filter,
    filter_membersFindings, List.any_flatMap, readable_iff]
  simp only [leavesFindings_isHuge]

/-! ## Findings of a class -/

/-- The report of a member that repeats a name. -/
def repeatReport (path : String) (c : ClassDecl) (m : Member) : Diagnostic where
  file := some path
  line := (nameToken m).position.line
  column := (nameToken m).position.column
  code := "CR0102"
  message := "The type '" ++ c.name.text ++ "' already contains a definition for '"
    ++ (if isConstructor m then c.name.text else (nameToken m).text) ++ "'"

/-- The report of a constructor that is not named like its class. -/
def misnamedReport (path : String) (m : Member) : Diagnostic where
  file := some path
  line := (nameToken m).position.line
  column := (nameToken m).position.column
  code := "CR1520"
  message := "Method must have a return type"

theorem repeatReport_eq (path : String) (c : ClassDecl) (m : Member) :
    (Problem.duplicateMember c.name.text (memberKey c.name.text m).2.1).at path
      (memberKey c.name.text m).2.2.position = repeatReport path c m := by
  cases m <;> rfl

theorem mem_repeatedMembers_iff {type : String} {seen : List String} {ms : List Member}
    {x : String × Token} : x ∈ repeatedMembers type seen ms
      ↔ ∃ front m back, ms = front ++ m :: back ∧ ((memberKey type m).1 ∈ seen
        ∨ (memberKey type m).1 ∈ front.map fun k => (memberKey type k).1)
        ∧ x = (memberKey type m).2 := by
  induction ms generalizing seen with
  | nil => simp [repeatedMembers]
  | cons m ms ih =>
    have hcons : x ∈ repeatedMembers type seen (m :: ms)
        ↔ ((memberKey type m).1 ∈ seen ∧ x = (memberKey type m).2)
          ∨ x ∈ repeatedMembers type ((memberKey type m).1 :: seen) ms := by
      simp only [repeatedMembers, List.contains_iff_mem]
      split
      · next hseen => rw [List.mem_cons, and_iff_right hseen]
      · next hnew => rw [or_iff_right (fun h => hnew h.1)]
    rw [hcons, ih]
    constructor
    · rintro (⟨hseen, rfl⟩ | ⟨front, k, back, rfl, hkey, rfl⟩)
      · exact ⟨[], m, ms, rfl, .inl hseen, rfl⟩
      · refine ⟨m :: front, k, back, rfl, ?_, rfl⟩
        rw [List.map_cons, List.mem_cons]
        rw [List.mem_cons] at hkey
        tauto
    · rintro ⟨front, k, back, hsplit, hkey, rfl⟩
      cases front with
      | nil =>
        obtain ⟨rfl, rfl⟩ := List.cons.inj hsplit
        exact .inl ⟨hkey.resolve_right List.not_mem_nil, rfl⟩
      | cons a front =>
        obtain ⟨rfl, rfl⟩ := List.cons.inj hsplit
        refine .inr ⟨front, k, back, rfl, ?_, rfl⟩
        rw [List.map_cons, List.mem_cons] at hkey
        rw [List.mem_cons]
        tauto

/-- Leaves that are reported are names that need an object. -/
theorem code_of_leaves {path : String} {s : Scope} {ls : List Leaf} {d : Diagnostic}
    (h : .problem d ∈ ls.filterMap (leafFinding path s)) : d.code = instanceCode := by
  obtain ⟨l, -, hl⟩ := List.mem_filterMap.mp h
  exact beq_iff_eq.mp (isRelevant_of_leafFinding hl)

theorem problemsOf_leaves {code path : String} {s : Scope} (ls : List Leaf)
    (h : code ≠ instanceCode) : problemsOf code (ls.filterMap (leafFinding path s)) = [] := by
  refine problemsOf_eq_nil fun x hx d hd hcode => h ?_
  subst hd
  exact hcode.symm.trans (code_of_leaves hx)

theorem memberFindings_plain {path : String} {names : ClassNames} {first : Bool} {m : Member}
    (h : isConstructor m = false) : memberFindings path names first m
      = (memberLeaves m).filterMap (leafFinding path (memberScope names m)) := by
  cases m with
  | field ms d => rfl
  | method ms t n ps b => rfl
  | constructor ms n ps b => cases h

theorem memberFindings_constructor {path : String} {names : ClassNames} {m : Member}
    (h : isConstructor m = true) : memberFindings path names true m
      = (if (nameToken m).text = names.type then [] else [.problem (misnamedReport path m)])
        ++ (memberLeaves m).filterMap (leafFinding path (memberScope names m)) := by
  cases m with
  | field ms d => cases h
  | method ms t n ps b => cases h
  | constructor ms n ps b => rfl

/-- Behind a constructor no further one is looked at. -/
theorem membersFindings_seen (path : String) (names : ClassNames) (ms : List Member) :
    problemsOf "CR1520" (membersFindings path names true ms) = [] := by
  induction ms with
  | nil => rfl
  | cons m ms ih =>
    rw [membersFindings, Bool.true_or, problemsOf_append, ih, ite_self, List.append_nil]
    cases hm : isConstructor m with
    | false => rw [memberFindings_plain hm, problemsOf_leaves _ (by decide)]
    | true =>
      cases m with
      | field ms d => cases hm
      | method ms t n ps b => cases hm
      | constructor ms n ps b => rfl

/-- The only constructor that is reported as misnamed is the first one. -/
theorem mem_misnamed {path : String} {names : ClassNames} {ms : List Member} {d : Diagnostic} :
    d ∈ problemsOf "CR1520" (membersFindings path names false ms)
      ↔ ∃ front m back, ms = front ++ m :: back ∧ isConstructor m = true
        ∧ (nameToken m).text ≠ names.type ∧ ¬HasConstructor front ∧ Readable front
        ∧ d = misnamedReport path m := by
  induction ms with
  | nil => simp [membersFindings]
  | cons m ms ih =>
    rw [membersFindings, Bool.false_or, problemsOf_append, Bool.not_false]
    cases hm : isConstructor m with
    | true =>
      rw [membersFindings_seen, ite_self, List.append_nil, memberFindings_constructor hm,
        problemsOf_append, problemsOf_leaves _ (by decide), ite_self, List.append_nil]
      constructor
      · intro hd
        split at hd
        · cases hd
        · next hname =>
          cases List.mem_singleton.mp hd
          exact ⟨[], m, ms, rfl, hm, hname, by simp [HasConstructor], by simp [Readable], rfl⟩
      · rintro ⟨front, k, back, hsplit, hk, hname, hnone, -, rfl⟩
        cases front with
        | nil =>
          obtain ⟨rfl, rfl⟩ := List.cons.inj hsplit
          rw [if_neg hname]
          exact List.mem_singleton_self _
        | cons a front =>
          obtain ⟨rfl, rfl⟩ := List.cons.inj hsplit
          exact absurd ⟨m, List.mem_cons_self, hm⟩ hnone
    | false =>
      rw [memberFindings_plain hm, problemsOf_leaves _ (by decide), List.nil_append,
        leavesFindings_isHuge]
      have hreadable : Readable [m] ↔ (memberLeaves m).any Leaf.isHuge = false := by
        rw [readable_iff, List.any_cons, List.any_nil, Bool.or_false]
      constructor
      · intro hd
        split at hd
        · cases hd
        · next hhuge =>
          obtain ⟨front, k, back, rfl, hk, hname, hnone, hfront, rfl⟩ := ih.mp hd
          have hfirst := hreadable.mpr (Bool.eq_false_of_not_eq_true hhuge)
          refine ⟨m :: front, k, back, rfl, hk, hname, ?_,
            List.forall_mem_cons.mpr ⟨hfirst m List.mem_cons_self, hfront⟩, rfl⟩
          rintro ⟨j, hj, hjkind⟩
          rcases List.mem_cons.mp hj with rfl | hj
          · exact absurd (hm.symm.trans hjkind) Bool.false_ne_true
          · exact hnone ⟨j, hj, hjkind⟩
      · rintro ⟨front, k, back, hsplit, hk, hname, hnone, hfront, rfl⟩
        cases front with
        | nil =>
          obtain ⟨rfl, rfl⟩ := List.cons.inj hsplit
          exact absurd (hm.symm.trans hk) Bool.false_ne_true
        | cons a front =>
          obtain ⟨rfl, rfl⟩ := List.cons.inj hsplit
          obtain ⟨hfirst, hfront⟩ := List.forall_mem_cons.mp hfront
          have hhuge := hreadable.mp (List.forall_mem_singleton.mpr hfirst)
          rw [if_neg (by rw [hhuge]; exact Bool.false_ne_true)]
          refine ih.mpr ⟨front, k, back, rfl, hk, hname, ?_, hfront, rfl⟩
          rintro ⟨j, hj, hjkind⟩
          exact hnone ⟨j, List.mem_cons_of_mem _ hj, hjkind⟩

/-- Inside members no repeated name is reported. -/
theorem not_repeated_inside {path : String} {names : ClassNames} {seen : Bool} {ms : List Member}
    {d : Diagnostic} (h : .problem d ∈ membersFindings path names seen ms) : d.code ≠ "CR0102" := by
  have hleaves {s : Scope} {ls : List Leaf}
      (h : .problem d ∈ ls.filterMap (leafFinding path s)) : d.code ≠ "CR0102" := by
    rw [code_of_leaves h]
    decide
  induction ms generalizing seen with
  | nil => cases h
  | cons m ms ih =>
    refine (List.mem_append.mp h).elim (fun h => ?_) ih
    cases hm : isConstructor m with
    | false =>
      rw [memberFindings_plain hm] at h
      exact hleaves h
    | true =>
      cases seen with
      | true =>
        cases m with
        | field ms d => cases hm
        | method ms t n ps b => cases hm
        | constructor ms n ps b => cases h
      | false =>
        rw [Bool.not_false, memberFindings_constructor hm] at h
        refine (List.mem_append.mp h).elim (fun h => ?_) hleaves
        split at h
        · cases h
        · cases List.mem_singleton.mp h
          exact (by decide : ("CR1520" : String) ≠ "CR0102")

section
variable (path : String) (c : ClassDecl)

/-- The findings of the names of a class. -/
def repeatedFindings : List Finding :=
  (repeatedMembers c.name.text [] c.members).map fun x =>
    .problem ((Problem.duplicateMember c.name.text x.1).at path x.2.position)

theorem problemsOf_repeatedFindings (code : String) : problemsOf code (repeatedFindings path c)
    = if code = "CR0102" then (repeatedMembers c.name.text [] c.members).map fun x =>
        (Problem.duplicateMember c.name.text x.1).at path x.2.position
      else [] := by
  unfold repeatedFindings
  induction repeatedMembers c.name.text [] c.members with
  | nil => simp
  | cons x xs ih =>
    rw [List.map_cons, problemsOf_problem, ih, List.map_cons]
    by_cases hcode : code = "CR0102"
    · subst hcode
      rfl
    · rw [if_neg hcode, if_neg hcode, if_neg fun h => hcode h.symm, List.append_nil]

/-- The names of a class are checked to the end. -/
theorem problemsOf_classFindings (code : String) : problemsOf code (classFindings path c)
    = problemsOf code (repeatedFindings path c)
      ++ problemsOf code (membersFindings path (ClassNames.of c) false c.members) := by
  have hhuge : (repeatedFindings path c).any Finding.isHuge = false := by
    rw [repeatedFindings, List.any_map]
    exact List.any_eq_false.mpr fun _ _ => Bool.false_ne_true
  show problemsOf code (repeatedFindings path c ++ _) = _
  rw [problemsOf_append, hhuge, if_neg Bool.false_ne_true]

theorem problemsOf_repeated : problemsOf "CR0102" (classFindings path c)
    = (repeatedMembers c.name.text [] c.members).map fun x =>
      (Problem.duplicateMember c.name.text x.1).at path x.2.position := by
  have hmembers : problemsOf "CR0102" (membersFindings path (ClassNames.of c) false c.members)
      = [] :=
    problemsOf_eq_nil fun x hx d hd => not_repeated_inside (hd ▸ hx)
  rw [problemsOf_classFindings, problemsOf_repeatedFindings, hmembers, if_pos rfl, List.append_nil]

theorem problemsOf_misnamed : problemsOf "CR1520" (classFindings path c)
    = problemsOf "CR1520" (membersFindings path (ClassNames.of c) false c.members) := by
  rw [problemsOf_classFindings, problemsOf_repeatedFindings, if_neg (by decide), List.nil_append]

theorem mem_repeated {d : Diagnostic} : d ∈ problemsOf "CR0102" (classFindings path c)
    ↔ ∃ front m back, c.members = front ++ m :: back ∧ Repeats front m
      ∧ d = repeatReport path c m := by
  rw [problemsOf_repeated, List.mem_map]
  constructor
  · rintro ⟨x, hx, rfl⟩
    obtain ⟨front, m, back, hsplit, hkey, rfl⟩ := mem_repeatedMembers_iff.mp hx
    exact ⟨front, m, back, hsplit, repeats_iff.mpr (hkey.resolve_left List.not_mem_nil),
      repeatReport_eq path c m⟩
  · rintro ⟨front, m, back, hsplit, hrepeats, rfl⟩
    exact ⟨_, mem_repeatedMembers_iff.mpr ⟨front, m, back, hsplit, .inr (repeats_iff.mp hrepeats), rfl⟩,
      repeatReport_eq path c m⟩

/-! ## The order of reports -/

theorem repeatedMembers_sublist (type : String) (seen : List String) (ms : List Member) :
    ((repeatedMembers type seen ms).map (·.2)).Sublist (ms.map nameToken) := by
  induction ms generalizing seen with
  | nil => exact .slnil
  | cons m ms ih =>
    simp only [repeatedMembers]
    split
    · rw [List.map_cons, List.map_cons, memberKey_token]
      exact (ih _).cons_cons _
    · exact (ih _).cons _

theorem repeated_places : ((problemsOf "CR0102" (classFindings path c)).map
    fun d => (⟨d.line, d.column⟩ : Position)).Sublist
      ((c.members.map nameToken).map (·.position)) := by
  have hplaces : (problemsOf "CR0102" (classFindings path c)).map
      (fun d => (⟨d.line, d.column⟩ : Position))
        = ((repeatedMembers c.name.text [] c.members).map (·.2)).map (·.position) := by
    rw [problemsOf_repeated, List.map_map, List.map_map]
    rfl
  rw [hplaces]
  exact (repeatedMembers_sublist _ _ _).map _

theorem misnamed_places : ((problemsOf "CR1520" (classFindings path c)).map
    fun d => (⟨d.line, d.column⟩ : Position)).Sublist
      ((c.members.map nameToken).map (·.position)) := by
  rw [problemsOf_misnamed]
  induction c.members with
  | nil => exact .slnil
  | cons m ms ih =>
    rw [membersFindings, Bool.false_or, problemsOf_append, Bool.not_false]
    cases hm : isConstructor m with
    | true =>
      rw [membersFindings_seen, ite_self, List.append_nil, memberFindings_constructor hm,
        problemsOf_append, problemsOf_leaves _ (by decide), ite_self, List.append_nil]
      refine List.Sublist.trans ?_ (List.singleton_sublist.mpr List.mem_cons_self)
      split
      · exact List.nil_sublist _
      · exact .refl _
    | false =>
      rw [memberFindings_plain hm, problemsOf_leaves _ (by decide), List.nil_append]
      split
      · exact List.nil_sublist _
      · exact ih.cons _

end

theorem problemsOf_flatMap_sublist (code : String) (g : ClassDecl → List Finding)
    (cs : List ClassDecl) : (problemsOf code (cs.flatMap g)).Sublist
      (cs.flatMap fun c => problemsOf code (g c)) := by
  induction cs with
  | nil => exact .slnil
  | cons c cs ih =>
    rw [List.flatMap_cons, problemsOf_append, List.flatMap_cons]
    split
    · exact (List.Sublist.refl _).append (List.nil_sublist _)
    · exact (List.Sublist.refl _).append ih

/-- The names of members stand in the order of the tokens of the file. -/
theorem nameTokens_sublist (f : SourceFile) :
    (f.classes.flatMap fun c => c.members.map nameToken).Sublist (Outline.ofFile f).tokens := by
  have hmember (m : Member) : [nameToken m].Sublist (Outline.ofMember m).tokens := by
    rw [List.singleton_sublist]
    cases m <;> simp [nameToken, Outline.ofMember, Outline.tokens, Outline.allTokens]
  have hclass (c : ClassDecl) : (c.members.map nameToken).Sublist (Outline.ofClass c).tokens := by
    have hmembers : (c.members.map nameToken).Sublist
        (Outline.allTokens (c.members.map Outline.ofMember)) := by
      rw [Outline.allTokens_eq_flatMap, List.flatMap_map, ← List.flatMap_singleton' (c.members.map _),
        List.flatMap_map]
      exact .flatMap_right _ fun m _ => hmember m
    rw [Outline.ofClass, Outline.tokens, Outline.allTokens, Outline.allTokens, Outline.allTokens]
    exact hmembers.trans ((List.sublist_append_right _ _).trans
      ((List.sublist_append_right _ _).trans (List.sublist_append_right _ _)))
  rw [Outline.ofFile, Outline.tokens, Outline.allTokens_append]
  refine List.Sublist.trans ?_ (List.sublist_append_right _ _)
  rw [Outline.allTokens_eq_flatMap, List.flatMap_map]
  exact .flatMap_right _ fun c _ => hclass c

/-! ## Reports -/

/-- The work on a file comes to a class: no number in the classes in front of it ends it. -/
def IsChecked (f : SourceFile) (c : ClassDecl) : Prop :=
  ∃ before after, f.classes = before ++ c :: after
    ∧ ∀ b ∈ before, Readable (lookedAt false b.members)

section
variable (path : String) {source : List Char} {f : SourceFile} (h : parse source = .ok f)
include h

theorem filter_reports {code : String} (hcode : code ≠ "CR9999") :
    (Program.lowerText path source).2.filter (·.code == code)
      = problemsOf code (f.classes.flatMap (classFindings path)) := by
  rw [← filter_settleFindings_of_ne path _ hcode, Program.lowerText, h]
  rfl

theorem mem_filter_reports {code : String} (hcode : code ≠ "CR9999") (d : Diagnostic) :
    d ∈ (Program.lowerText path source).2.filter (·.code == code)
      ↔ ∃ c, IsChecked f c ∧ d ∈ problemsOf code (classFindings path c) := by
  rw [filter_reports path h hcode, mem_problemsOf_flatMap]
  simp only [classFindings_readable, IsChecked]
  constructor
  · rintro ⟨before, c, after, hsplit, hbefore, hd⟩
    exact ⟨c, ⟨before, after, hsplit, hbefore⟩, hd⟩
  · rintro ⟨c, ⟨before, after, hsplit, hbefore⟩, hd⟩
    exact ⟨before, c, after, hsplit, hbefore, hd⟩

/-- Reports at names of members, class by class, stand in the order of the source. -/
theorem places_ordered {code : String} (hcode : code ≠ "CR9999")
    (hplaces : ∀ c, ((problemsOf code (classFindings path c)).map
      fun d => (⟨d.line, d.column⟩ : Position)).Sublist
        ((c.members.map nameToken).map (·.position))) :
    (((Program.lowerText path source).2.filter (·.code == code)).map
      fun d => (⟨d.line, d.column⟩ : Position)).Pairwise Position.Before := by
  have htokens := (scan_ordered source).sublist
    (List.filter_sublist (p := fun t => Grammar.isKept t.kind))
  rw [← tokens_ofFile h] at htokens
  have hnames := htokens.sublist (nameTokens_sublist f)
  rw [← List.pairwise_map (f := Token.position)] at hnames
  refine hnames.sublist ?_
  rw [filter_reports path h hcode, List.map_flatMap]
  refine ((problemsOf_flatMap_sublist code _ _).map _).trans ?_
  rw [List.map_flatMap]
  exact .flatMap_right _ fun c _ => hplaces c

end

/-- A member that repeats a name is reported once as such, and the first constructor of a class is
reported once as misnamed if it is not named like the class; nothing else is. These are the members
that declare something again and the misnamed constructors just in regular classes. -/
theorem memberNames_reported (path : String) {source : List Char} {f : SourceFile}
    (h : parse source = .ok f) :
    (∀ code ∈ ["CR0102", "CR1520"], (((Program.lowerText path source).2.filter
        (·.code == code)).map fun d => (⟨d.line, d.column⟩ : Position)).Pairwise Position.Before)
      ∧ (∀ d, d ∈ (Program.lowerText path source).2.filter (·.code == "CR0102")
        ↔ ∃ c front m back, IsChecked f c ∧ c.members = front ++ m :: back
          ∧ Repeats front m ∧ d = repeatReport path c m)
      ∧ (∀ d, d ∈ (Program.lowerText path source).2.filter (·.code == "CR1520")
        ↔ ∃ c front m back, IsChecked f c ∧ c.members = front ++ m :: back
          ∧ IsMisnamed c m ∧ ¬HasConstructor front ∧ Readable front ∧ d = misnamedReport path m)
      ∧ ∀ c, Regular c ↔ ∀ front m back, c.members = front ++ m :: back →
        (Repeats front m ↔ Redeclares c front m) ∧ (IsMisnamed c m → ¬HasConstructor front) := by
  refine ⟨?_, fun d => ?_, fun d => ?_, regular_iff⟩
  · simp only [List.forall_mem_cons]
    exact ⟨places_ordered path h (by decide) (repeated_places path),
      places_ordered path h (by decide) (misnamed_places path), List.forall_mem_nil _⟩
  · rw [mem_filter_reports path h (by decide)]
    simp only [mem_repeated]
    constructor
    · rintro ⟨c, hc, front, m, back, hd⟩
      exact ⟨c, front, m, back, hc, hd⟩
    · rintro ⟨c, front, m, back, hc, hd⟩
      exact ⟨c, hc, front, m, back, hd⟩
  · rw [mem_filter_reports path h (by decide)]
    simp only [problemsOf_misnamed, mem_misnamed]
    constructor
    · rintro ⟨c, hc, front, m, back, hsplit, hm, hname, hd⟩
      exact ⟨c, front, m, back, hc, hsplit, ⟨hm, hname⟩, hd⟩
    · rintro ⟨c, front, m, back, hc, hsplit, ⟨hm, hname⟩, hd⟩
      exact ⟨c, hc, front, m, back, hsplit, hm, hname, hd⟩

/-- A field and a method of one name, and two constructors of which the first one is misnamed. -/
def namesSource : List Char :=
  "class P \x7b int x; void x() \x7b \x7d Q() \x7b \x7d P() \x7b \x7d \x7d".toList

theorem memberNames_reported_misnamed : ∃ f, parse namesSource = .ok f
    ∧ (Program.lowerText "a.cs" namesSource).2
      = [⟨some "a.cs", 1, 23, "CR0102", "The type 'P' already contains a definition for 'x'"⟩,
        ⟨some "a.cs", 1, 39, "CR0102", "The type 'P' already contains a definition for 'P'"⟩,
        ⟨some "a.cs", 1, 31, "CR1520", "Method must have a return type"⟩]
    ∧ ∃ c front m back, IsChecked f c ∧ c.members = front ++ m :: back ∧ IsMisnamed c m
      ∧ ¬HasConstructor front ∧ (nameToken m).position = ⟨1, 31⟩ := by
  have hreports : (Program.lowerText "a.cs" namesSource).2
      = [⟨some "a.cs", 1, 23, "CR0102", "The type 'P' already contains a definition for 'x'"⟩,
        ⟨some "a.cs", 1, 39, "CR0102", "The type 'P' already contains a definition for 'P'"⟩,
        ⟨some "a.cs", 1, 31, "CR1520", "Method must have a return type"⟩] := by decide +kernel
  have hok : (parse namesSource).toBool = true := by decide +kernel
  cases hparse : parse namesSource with
  | error e =>
    rw [hparse] at hok
    cases hok
  | ok f =>
    obtain ⟨-, -, hmisnamed, -⟩ := memberNames_reported "a.cs" hparse
    obtain ⟨c, front, m, back, hc, hsplit, hm, hnone, -, hd⟩ :=
      (hmisnamed ⟨some "a.cs", 1, 31, "CR1520", "Method must have a return type"⟩).mp
        (by rw [hreports]; decide)
    injection hd with _ hline hcolumn
    exact ⟨f, rfl, hreports, c, front, m, back, hc, hsplit, hm, hnone,
      congr (congrArg Position.mk hline.symm) hcolumn.symm⟩

end BraceScript.Lowering
