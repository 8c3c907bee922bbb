import BraceScript.Lowering.Class
import Mathlib

/-!
# What the members of a class become

Every method of a class becomes a function with its name and its parameters, and every static field
a name with a value; besides, there is at most the initialiser (`mem_functions`, `exists_function`,
`mem_fields`). A class with nothing to report has no two members of one name, and it is the code of
such classes that a file without problems is lowered to (`lowerFile_fine`).
-/

namespace BraceScript.Lowering

open Syntax

/-! ## Members one by one -/

/-- The function that a member becomes is called like it and has its parameters. -/
inductive BecomesFunction : Member → Code.Function → Prop
  | method {ms : List Token} {t : TypeRef} {name : Token} {ps : List Param} {b : List Stmt}
      {code : List Code.Stmt} :
      BecomesFunction (.method ms t name ps b) ⟨Code.ident name.text,
        if isStatic ms then paramsCode ps else selfParam :: paramsCode ps, isStatic ms, code⟩

/-- The name with a value that a member becomes. -/
inductive BecomesField : Member → String × Code.Expr → Prop
  | field {ms : List Token} {d : Declaration} {value : Code.Expr} (h : isStatic ms) :
      BecomesField (.field ms d) (Code.ident d.name.text, value)

/-- The code of a class in progress after the code of some members was added. -/
structure Gathers (ms : List Member) (p q : Pieces) : Prop where
  methods : ∀ f ∈ q.methods, f ∈ p.methods ∨ ∃ m ∈ ms, BecomesFunction m f
  kept : p.methods ⊆ q.methods
  found : ∀ ms' t name ps b, .method ms' t name ps b ∈ ms →
    ∃ f ∈ q.methods, BecomesFunction (.method ms' t name ps b) f
  fields : ∀ e ∈ q.staticFields, e ∈ p.staticFields ∨ ∃ m ∈ ms, BecomesField m e
  constructor : ∀ c ∈ q.constructor?, c ∈ p.constructor? ∨ ∃ ps, c.1 = paramsCode ps

theorem Gathers.refl (p : Pieces) : Gathers [] p p where
  methods _ := .inl
  kept := List.Subset.refl _
  found _ _ _ _ _ h := absurd h List.not_mem_nil
  fields _ := .inl
  constructor _ := .inl

theorem Gathers.trans {ms ms' : List Member} {p q r : Pieces} (h : Gathers ms p q)
    (h' : Gathers ms' q r) : Gathers (ms ++ ms') p r where
  methods f hf := by
    rcases h'.methods f hf with hf | ⟨m, hm, hmf⟩
    · exact (h.methods f hf).imp_right fun ⟨m, hm, hmf⟩ => ⟨m, List.mem_append_left _ hm, hmf⟩
    · exact .inr ⟨m, List.mem_append_right _ hm, hmf⟩
  kept := List.Subset.trans h.kept h'.kept
  found ms t name ps b hm := by
    rcases List.mem_append.mp hm with hm | hm
    · obtain ⟨f, hf, hmf⟩ := h.found ms t name ps b hm
      exact ⟨f, h'.kept hf, hmf⟩
    · exact h'.found ms t name ps b hm
  fields e he := by
    rcases h'.fields e he with he | ⟨m, hm, hme⟩
    · exact (h.fields e he).imp_right fun ⟨m, hm, hme⟩ => ⟨m, List.mem_append_left _ hm, hme⟩
    · exact .inr ⟨m, List.mem_append_right _ hm, hme⟩
  constructor c hc := (h'.constructor c hc).elim (h.constructor c) .inr

/-- One member adds its own code. -/
theorem memberCodeOf_gathers (names : ClassNames) (p : Pieces) (n : Nat) (m : Member) :
    Gathers [m] p (memberCodeOf names p n m).1 := by
  cases m with
  | field ms d =>
    by_cases hstatic : isStatic ms
    · simp only [memberCodeOf, hstatic, if_true]
      refine ⟨fun _ => .inl, List.Subset.refl _, by simp, fun e he => ?_, fun _ => .inl⟩
      refine (List.mem_append.mp he).imp_right fun he => ?_
      obtain rfl := List.mem_singleton.mp he
      exact ⟨_, List.mem_cons_self, .field hstatic⟩
    · simp only [memberCodeOf, hstatic, Bool.false_eq_true, if_false]
      exact ⟨fun _ => .inl, List.Subset.refl _, by simp, fun _ => .inl, fun _ => .inl⟩
  | method ms t name ps b =>
    refine ⟨fun f hf => ?_, List.subset_append_left _ _, ?_, fun _ => .inl, fun _ => .inl⟩
    · refine (List.mem_append.mp hf).imp_right fun hf => ?_
      obtain rfl := List.mem_singleton.mp hf
      exact ⟨_, List.mem_cons_self, .method⟩
    · intro ms' t' name' ps' b' hm
      obtain ⟨rfl, rfl, rfl, rfl, rfl⟩ := Member.method.inj (List.mem_singleton.mp hm)
      exact ⟨_, List.mem_append_right _ List.mem_cons_self, .method⟩
  | constructor ms name ps b =>
    by_cases hsome : p.constructor?.isSome
    · simp only [memberCodeOf, hsome, if_true]
      exact ⟨fun _ => .inl, List.Subset.refl _, by simp, fun _ => .inl, fun _ => .inl⟩
    · simp only [memberCodeOf, hsome, Bool.false_eq_true, if_false]
      refine ⟨fun _ => .inl, List.Subset.refl _, by simp, fun _ => .inl, fun c hc => ?_⟩
      obtain rfl := Option.mem_some_iff.mp hc
      exact .inr ⟨ps, rfl⟩

theorem membersCode_gathers (names : ClassNames) (p : Pieces) (n : Nat) (ms : List Member) :
    Gathers ms p (membersCode names p n ms).1 := by
  induction ms generalizing p n with
  | nil => exact .refl p
  | cons m ms ih => exact (memberCodeOf_gathers names p n m).trans (ih _ _)

/-! ## Classes -/

section
variable {c : ClassDecl} {n : Nat}

/-- The parameters of the initialiser are those of a constructor, if there is one. -/
theorem mem_initCode {hasBase : Bool} {p : Pieces} {f : Code.Function} (h : f ∈ initCode hasBase p) :
    f.name = initName ∧ f.isStatic = false ∧ ∃ params,
      f.params = selfParam :: params ∧ (params = [] ∨ ∃ b, p.constructor? = some (params, b)) := by
  unfold initCode at h
  split at h
  · cases h
  · obtain rfl := List.mem_singleton.mp h
    refine ⟨rfl, rfl, _, rfl, ?_⟩
    cases hc : p.constructor? with
    | none => exact .inl rfl
    | some r => exact .inr ⟨r.2, rfl⟩

/-- The functions of a class are its methods and the initialiser. -/
theorem mem_functions {f : Code.Function} (h : f ∈ (classCode c n).1.functions) :
    (∃ m ∈ c.members, BecomesFunction m f)
      ∨ f.name = initName ∧ f.isStatic = false ∧ ∃ ps, f.params = selfParam :: paramsCode ps := by
  have hgathers := membersCode_gathers (ClassNames.of c) ⟨[], none, [], []⟩ n c.members
  refine (List.mem_append.mp h).imp (fun hf => ?_) fun hf => ?_
  · exact (hgathers.methods f hf).resolve_left List.not_mem_nil
  · obtain ⟨hname, hstatic, params, hparams, hfrom⟩ := mem_initCode hf
    refine ⟨hname, hstatic, ?_⟩
    rcases hfrom with rfl | ⟨b, hc⟩
    · exact ⟨[], hparams⟩
    · obtain ⟨ps, rfl⟩ := (hgathers.constructor _ hc).resolve_left (Option.not_mem_none _)
      exact ⟨ps, hparams⟩

/-- A parameter of a function of a class is the current object or one that is declared. -/
theorem mem_params {f : Code.Function} (hf : f ∈ (classCode c n).1.functions) {p : Code.Param}
    (hp : p ∈ f.params) : p = selfParam ∨ ∃ ps, p ∈ paramsCode ps := by
  have hself {ps : List Param} (hp : p ∈ selfParam :: paramsCode ps) :
      p = selfParam ∨ ∃ ps, p ∈ paramsCode ps :=
    (List.mem_cons.mp hp).imp_right fun hp => ⟨ps, hp⟩
  rcases mem_functions hf with ⟨m, -, hmf⟩ | ⟨-, -, ps, hps⟩
  · cases hmf with
    | @method ms _ _ ps =>
      simp only at hp
      split at hp
      · exact .inr ⟨ps, hp⟩
      · exact hself hp
  · exact hself (hps ▸ hp)

/-- Every method of a class is one of its functions. -/
theorem exists_function {ms : List Token} {t : TypeRef} {name : Token} {ps : List Param}
    {b : List Stmt} (h : .method ms t name ps b ∈ c.members) :
    ∃ f ∈ (classCode c n).1.functions, BecomesFunction (.method ms t name ps b) f := by
  have hgathers := membersCode_gathers (ClassNames.of c) ⟨[], none, [], []⟩ n c.members
  obtain ⟨f, hf, hmf⟩ := hgathers.found ms t name ps b h
  exact ⟨f, List.mem_append_left _ hf, hmf⟩

/-- The fields of the code of a class are its static fields. -/
theorem mem_fields {e : String × Code.Expr} (h : e ∈ (classCode c n).1.fields) :
    ∃ m ∈ c.members, BecomesField m e := by
  have hgathers := membersCode_gathers (ClassNames.of c) ⟨[], none, [], []⟩ n c.members
  exact (hgathers.fields e h).resolve_left List.not_mem_nil

end

/-! ## Names -/

theorem repeatedMembers_eq_nil {type : String} {seen : List String} {ms : List Member}
    (h : repeatedMembers type seen ms = []) :
    (ms.map fun m => (memberKey type m).1).Nodup ∧ ∀ m ∈ ms, (memberKey type m).1 ∉ seen := by
  induction ms generalizing seen with
  | nil => exact ⟨List.nodup_nil, by simp⟩
  | cons m ms ih =>
    unfold repeatedMembers at h
    simp only at h
    split at h
    · cases h
    · next hnew =>
      obtain ⟨hnodup, hfresh⟩ := ih h
      have hfresh (m' : Member) (hm' : m' ∈ ms) :
          (memberKey type m').1 ≠ (memberKey type m).1 ∧ (memberKey type m').1 ∉ seen := by
        simpa using hfresh m' hm'
      refine ⟨List.nodup_cons.mpr ⟨fun hmem => ?_, hnodup⟩, ?_⟩
      · obtain ⟨m', hm', hsame⟩ := List.mem_map.mp hmem
        exact (hfresh m' hm').1 hsame
      · refine List.forall_mem_cons.mpr ⟨by simpa using hnew, fun m' hm' => (hfresh m' hm').2⟩

/-- Of the members of a class with nothing to report no two are known by one name. -/
theorem eq_of_memberKey_eq {file : String} {c : ClassDecl} (h : classFindings file c = [])
    {m m' : Member} (hm : m ∈ c.members) (hm' : m' ∈ c.members)
    (hkey : (memberKey c.name.text m).1 = (memberKey c.name.text m').1) : m = m' := by
  obtain ⟨hrepeated, -⟩ := List.append_eq_nil_iff.mp h
  have hnodup := (repeatedMembers_eq_nil (List.map_eq_nil_iff.mp hrepeated)).1
  exact List.inj_on_of_nodup_map hnodup hm hm' hkey

/-! ## Files -/

/-- A type with the name of a class and its code. -/
structure IsCodeOf (c : ClassDecl) (d : TypeDecl) : Prop where
  name : d.name = c.name.text
  code : ∃ n, d.code = (classCode c n).1

theorem classesCode_isCodeOf (file : String) (n : Nat) (cs : List ClassDecl) :
    List.Forall₂ IsCodeOf cs (classesCode file n cs) := by
  induction cs generalizing n with
  | nil => exact .nil
  | cons c cs ih => exact .cons ⟨rfl, n, rfl⟩ (ih _)

theorem settleFindings_eq_nil {file : String} {fs : List Finding}
    (h : (settleFindings file fs).1 = []) : fs = [] := by
  cases fs with
  | nil => rfl
  | cons f fs => cases f <;> cases h

/-- A file without problems is lowered to the code of its classes, and there is nothing to report
about any of them. -/
theorem lowerFile_fine {file : String} {f : SourceFile} (h : (lowerFile file f).2 = []) :
    (∀ c ∈ f.classes, classFindings file c = [])
      ∧ List.Forall₂ IsCodeOf f.classes (lowerFile file f).1 := by
  have hfindings := settleFindings_eq_nil h
  refine ⟨List.flatMap_eq_nil_iff.mp hfindings, ?_⟩
  unfold lowerFile
  rw [hfindings]
  exact classesCode_isCodeOf file 0 f.classes

end BraceScript.Lowering
