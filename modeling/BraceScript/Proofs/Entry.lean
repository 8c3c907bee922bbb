import BraceScript.Proofs.Eval.Loading
import BraceScript.Proofs.Lowering.Members
import BraceScript.Proofs.Program.Permutation

/-!
# What a program can start with

Which methods a program can start with is decided on its loaded classes; what can be said about it
is said about its sources. `candidates_iff_declared` is the step from one to the other: under the
name of a method a class has the function of that method, and its only parameter has the hint of a
list of texts exactly if the type of the parameter is an array of texts or of characters.
-/

namespace BraceScript.Entry

open Eval Lowering Syntax
open Program (allClasses fileResult fileFailure? namesOf)

/-! ## Declarations in sources -/

/-- The tree of a file that can be read. -/
def sourceFile? (h : Host) (encoding path : String) : Option SourceFile :=
  match h.findCompiled path with
  | .file bytes => do
    let e ← Text.Encoding.ofName? encoding
    let cs ← (e.decode bytes).toOption
    (parse (Text.unifyBreaks cs)).toOption
  | _ => none

/-- The classes that some files declare. -/
def declared (h : Host) (encoding : String) (sources : List String) : List ClassDecl :=
  sources.flatMap fun path => ((sourceFile? h encoding path).map (·.classes)).getD []

/-- The types whose one-dimensional arrays are lists of texts. -/
def textTypes : List String := ["string", "String", "char"]

/-- A static method of a name whose only parameter is an array of texts. -/
inductive IsEntry (name : String) : Member → Prop
  | method {ms : List Token} {t : TypeRef} {n : Token} {p : Param} {b : List Stmt}
      (hname : n.text = name) (hstatic : isStatic ms) (hrank : p.type.rank = 1)
      (htype : p.type.name.text ∈ textTypes) : IsEntry name (.method ms t n [p] b)

/-- A static field of a name. -/
inductive IsStaticField (name : String) : Member → Prop
  | field {ms : List Token} {d : Declaration} (hname : d.name.text = name)
      (hstatic : isStatic ms) : IsStaticField name (.field ms d)

section
variable {h : Host} {encoding : String} {sources : List String}

/-- A file with nothing to report has a tree, and is lowered to the code of the classes of it. -/
theorem sourceFile?_of_fine {path : String} (hread : fileFailure? h encoding path = none)
    (hfine : (fileResult h encoding path).2 = []) :
    ∃ f, sourceFile? h encoding path = some f
      ∧ fileResult h encoding path = lowerFile path f := by
  have hok := Program.compileFile_of_fine hread
  unfold Program.compileFile at hok
  rw [Act.bind_of_ok (lookCompiled_apply path h)] at hok
  unfold fileFailure? at hread
  unfold sourceFile?
  cases hfound : h.findCompiled path with
  | file bytes =>
    simp only [hfound, Source.encodingOf] at hok hread ⊢
    cases hencoding : Text.Encoding.ofName? encoding with
    | none =>
      rw [hencoding] at hread
      cases hread
    | some e =>
      simp only [hencoding, Act.bind_of_ok (Act.pure_apply e _)] at hok ⊢
      cases hdecode : e.decode bytes with
      | error err =>
        rw [hdecode] at hok
        rw [← Except.ok.inj hok] at hfine
        cases hfine
      | ok cs =>
        rw [hdecode] at hok
        have hlower : Program.lowerText path (Text.unifyBreaks cs) = fileResult h encoding path :=
          Except.ok.inj hok
        unfold Program.lowerText at hlower
        cases hparse : parse (Text.unifyBreaks cs) with
        | error err =>
          rw [hparse] at hlower
          rw [← hlower] at hfine
          cases hfine
        | ok f =>
          rw [hparse] at hlower
          exact ⟨f, by simp [hdecode, hparse, Except.toOption], hlower.symm⟩
  | missing | directory | notDirectory | tooLong =>
    rw [hfound] at hok
    rw [← Except.ok.inj hok] at hfine
    cases hfine
  | invalid =>
    rw [hfound] at hread
    cases hread

/-- When nothing is reported, the classes of the sources are lowered one by one. -/
theorem declared_of_fine (hfine : ∀ path ∈ sources, fileFailure? h encoding path = none
      ∧ (fileResult h encoding path).2 = []) :
    List.Forall₂ IsCodeOf (declared h encoding sources) (allClasses h encoding sources)
      ∧ ∀ c ∈ declared h encoding sources, ∃ file, classFindings file c = [] := by
  have hfile (path : String) (hpath : path ∈ sources) :
      ∃ f, sourceFile? h encoding path = some f ∧ fileResult h encoding path = lowerFile path f
        ∧ (∀ c ∈ f.classes, classFindings path c = [])
        ∧ List.Forall₂ IsCodeOf f.classes (lowerFile path f).1 := by
    obtain ⟨hread, hproblems⟩ := hfine path hpath
    obtain ⟨f, hf, hresult⟩ := sourceFile?_of_fine hread hproblems
    exact ⟨f, hf, hresult, lowerFile_fine (hresult ▸ hproblems)⟩
  constructor
  · -- the two lists are made of the same files, so it is enough to look at one of them
    refine List.rel_flatMap (R := fun p q => p = q ∧ p ∈ sources)
      (List.forall₂_same.mpr fun _ hp => ⟨rfl, hp⟩) ?_
    rintro path _ ⟨rfl, hpath⟩
    obtain ⟨f, hf, hresult, -, hcode⟩ := hfile path hpath
    beta_reduce
    rw [hf, hresult]
    exact hcode
  · intro c hc
    obtain ⟨path, hpath, hc⟩ := List.mem_flatMap.mp hc
    obtain ⟨f, hf, -, hnone, -⟩ := hfile path hpath
    rw [hf] at hc
    exact ⟨path, hnone c hc⟩

end

/-! ## The hint of a list of texts -/

theorem lookup_basicTypes {name : String} :
    basicTypes.lookup name = some "str" ↔ name ∈ textTypes := by
  -- a name that is in the table is checked against it, and any other one is in neither list
  by_cases hbasic : name ∈ basicTypes.map Prod.fst
  · have hall : ∀ n ∈ basicTypes.map Prod.fst, basicTypes.lookup n = some "str" ↔ n ∈ textTypes := by
      decide +kernel
    exact hall name hbasic
  · have htexts : ∀ n ∈ textTypes, n ∈ basicTypes.map Prod.fst := by decide +kernel
    have hnone : basicTypes.lookup name = none :=
      List.lookup_eq_none_iff.mpr fun e he => bne_iff_ne.mpr fun heq =>
        hbasic (heq ▸ List.mem_map_of_mem he)
    simp [hnone, mt (htexts name) hbasic]

theorem hint_eq_some {name : String} {rank : Nat} {e : Code.Expr} (h : hint name rank = some e) :
    e = arrayHint (elementHint name) rank := by
  unfold hint at h
  split at h
  · cases h
  · exact (Option.some.inj h).symm

/-- Only the arrays of texts and of characters have the hint of a list of texts. -/
theorem hint_eq_textsHint {name : String} {rank : Nat} :
    hint name rank = some textsHint ↔ rank = 1 ∧ name ∈ textTypes := by
  rw [← lookup_basicTypes, ← arrayHint_eq_textsHint]
  refine ⟨fun h => (hint_eq_some h).symm, fun h => ?_⟩
  obtain ⟨rfl, -⟩ := arrayHint_eq_textsHint.mp h
  simp [hint, h]

theorem paramsCode_hints (ps : List Param) {p : Code.Param} (hp : p ∈ paramsCode ps) {e : Code.Expr}
    (he : p.hint = some e) : ∃ name rank, e = arrayHint (elementHint name) rank := by
  obtain ⟨q, -, rfl⟩ := List.mem_map.mp hp
  exact ⟨_, _, hint_eq_some he⟩

/-- A static method takes one list of texts exactly if its only parameter is an array of texts. -/
theorem hasTexts_iff {m : Member} {f : Code.Function} (hmf : BecomesFunction m f) {name : String}
    (hname : ∀ y ∈ memberName? m, y.1 = name) :
    (f.isStatic ∧ HasTexts f) ↔ IsEntry name m := by
  cases hmf with
  | @method ms t n ps b code =>
    have hn : n.text = name := hname _ rfl
    constructor
    · rintro ⟨hstatic, y, hparams⟩
      simp only at hstatic hparams
      rw [if_pos hstatic] at hparams
      obtain ⟨p, ps', rfl, hp, hps'⟩ := List.map_eq_cons_iff.mp hparams
      obtain rfl := List.map_eq_nil_iff.mp hps'
      obtain ⟨-, hhint⟩ := Code.Param.mk.inj hp
      obtain ⟨hrank, htype⟩ := hint_eq_textsHint.mp hhint
      exact .method hn hstatic hrank htype
    · intro hentry
      cases hentry with
      | @method _ _ _ p _ _ hstatic hrank htype =>
        refine ⟨hstatic, Code.ident p.name.text, ?_⟩
        simp only [if_pos hstatic]
        rw [← hint_eq_textsHint.mpr ⟨hrank, htype⟩]
        rfl

/-! ## Members of one class -/

/-- The name under which a class keeps a member. -/
def storedName (c : ClassDecl) (name : String) : String :=
  Code.privateName (Code.ident c.name.text) (Code.ident name)

/-- A class in which a member of a name is told from all others: hints mean what they usually do,
since no member is kept under a name they use, and the member is kept under its own name. -/
structure Tells (c : ClassDecl) (name : String) : Prop where
  hints : ∀ m ∈ c.members, ∀ y ∈ memberName? m, ∀ e ∈ usualNames, storedName c y.1 ≠ e.1
  own : ∀ m ∈ c.members, ∀ y ∈ memberName? m, storedName c y.1 = Code.ident name ↔ y.1 = name
  notInit : Code.ident name ≠ Lowering.initName

instance (c : ClassDecl) (name : String) : Decidable (Tells c name) :=
  decidable_of_iff
    ((∀ m ∈ c.members, ∀ y ∈ memberName? m, ∀ e ∈ usualNames, storedName c y.1 ≠ e.1)
      ∧ (∀ m ∈ c.members, ∀ y ∈ memberName? m,
        (storedName c y.1 = Code.ident name ↔ y.1 = name))
      ∧ Code.ident name ≠ Lowering.initName)
    ⟨fun h => ⟨h.1, h.2.1, h.2.2⟩, fun h => ⟨h.hints, h.own, h.notInit⟩⟩

/-- A value that a program can start with: a static method that takes one list of texts. -/
def IsEntryValue (s : Store) (v : Value) : Prop := ∃ f, v = .staticMethod f ∧ takesTexts s f

theorem ownMethod?_isSome {s : Store} {place : Nat} {name : String} :
    (ownMethod? s (.cls (.loaded place)) name).isSome ↔
      ∃ v ∈ (s.loadedClass place).members.get? (Code.ident name), IsEntryValue s v := by
  unfold ownMethod? IsEntryValue
  simp only
  split
  · next f hf => simp [hf]
  · next hno =>
    refine ⟨fun h => absurd h Bool.false_ne_true, ?_⟩
    rintro ⟨v, hv, f, rfl, -⟩
    exact absurd hv (hno f)

theorem privateName_init (cls : String) :
    Code.privateName cls Lowering.initName = Lowering.initName := by
  have hprivate : Code.isPrivate Lowering.initName = false := by decide +kernel
  rw [Code.privateName, hprivate]
  rfl

section
variable {c : ClassDecl} {d : TypeDecl} {file name : String} {s : Store}

/-- The hints of such a class mean what they usually do. -/
theorem Tells.hintsUsual (h : Tells c name) (hd : IsCodeOf c d) : HintsUsual d.code := by
  obtain ⟨n, hcode⟩ := hd.code
  rw [hcode]
  refine ⟨fun f hf p hp e he => ?_, fun f hf e he => ?_⟩
  · rcases mem_params hf hp with rfl | ⟨ps, hp⟩
    · cases he
    · exact paramsCode_hints ps hp he
  · rcases mem_functions hf with ⟨m, hm, hmf⟩ | ⟨hname, -⟩
    · cases hmf with
      | method => exact h.hints _ hm _ rfl e he
    · have hno : ∀ e ∈ usualNames, Lowering.initName ≠ e.1 := by decide +kernel
      rw [hname, privateName_init]
      exact hno e he

/-- A method becomes a value that a program can start with exactly if it is declared as one. -/
theorem isEntryValue_iff {m : Member} {f : Code.Function} {v : Value} (hmf : BecomesFunction m f)
    (hname : ∀ y ∈ memberName? m, y.1 = name) (hv : BecomesIn s f v) :
    IsEntryValue s v ↔ IsEntry name m := by
  obtain ⟨q, -, rfl, htakes⟩ := hv
  rw [← hasTexts_iff hmf hname, ← htakes]
  unfold IsEntryValue
  by_cases hstatic : f.isStatic <;> simp [hstatic]

theorem IsEntry.key {m : Member} (h : IsEntry name m) (type : String) :
    (memberKey type m).1 = name := by
  cases h with
  | method hname => exact hname

theorem IsStaticField.key {m : Member} (h : IsStaticField name m) (type : String) :
    (memberKey type m).1 = name := by
  cases h with
  | field hname => exact hname

/-- What a class has under the name of a method can be started with exactly if the class declares
the method that way, or a static field of the name and the value of the field can. -/
theorem member_iff_declared (h : Tells c name) (hd : IsCodeOf c d)
    (hfine : classFindings file c = []) {found : Option Value}
    (hmember : MemberIs (Code.ident name) s d.code found) :
    (∃ v ∈ found, IsEntryValue s v) ↔
      (∃ m ∈ c.members, IsEntry name m)
        ∨ (∃ m ∈ c.members, IsStaticField name m) ∧ ∃ v ∈ found, IsEntryValue s v := by
  obtain ⟨n, hcode⟩ := hd.code
  rw [hcode] at hmember
  have hsame {m m' : Member} (hm : m ∈ c.members) (hm' : m' ∈ c.members)
      (hkey : (memberKey c.name.text m).1 = name) (hkey' : (memberKey c.name.text m').1 = name) :
      m = m' := eq_of_memberKey_eq hfine hm hm' (hkey.trans hkey'.symm)
  -- a name is declared at most once, so what is found under it says what is declared
  cases hmember with
  | field he hname =>
    obtain ⟨m, hm, hme⟩ := mem_fields he
    cases hme with
    | @field ms decl value hstatic =>
      have hfield : IsStaticField name (.field ms decl) :=
        .field ((h.own _ hm _ rfl).mp hname) hstatic
      refine ⟨fun hv => .inr ⟨⟨_, hm, hfield⟩, hv⟩, ?_⟩
      rintro (⟨m', hm', hentry⟩ | ⟨-, hv⟩)
      · obtain rfl := hsame hm hm' (hfield.key _) (hentry.key _)
        cases hentry
      · exact hv
  | @function f v hf hname hv =>
    rcases mem_functions hf with ⟨m, hm, hmf⟩ | ⟨hinit, -⟩
    · have hown : ∀ y ∈ memberName? m, y.1 = name := by
        cases hmf with
        | method => exact fun y hy => (h.own _ hm y hy).mp (Option.mem_some_iff.mp hy ▸ hname)
      have hkey : (memberKey c.name.text m).1 = name := by
        cases hmf with
        | method => exact hown _ rfl
      have hvalue : (∃ w ∈ some v, IsEntryValue s w) ↔ IsEntry name m := by
        simp [isEntryValue_iff hmf hown hv]
      rw [hvalue]
      refine ⟨fun hentry => .inl ⟨m, hm, hentry⟩, ?_⟩
      rintro (⟨m', hm', hentry⟩ | ⟨-, hentry⟩)
      · exact hsame hm hm' hkey (hentry.key _) ▸ hentry
      · exact hentry
    · rw [hinit, privateName_init] at hname
      exact absurd hname.symm h.notInit
  | none hno =>
    refine ⟨fun ⟨_, hv, _⟩ => absurd hv (Option.not_mem_none _), ?_⟩
    rintro (⟨m, hm, hentry⟩ | ⟨-, hv⟩)
    · cases hentry with
      | @method _ _ y _ _ hname =>
        obtain ⟨f, hf, hmf⟩ := exists_function (n := n) hm
        have hfname : f.name = Code.ident y.text := by
          cases hmf
          rfl
        have hstored : storedName c y.text = Code.ident name := (h.own _ hm _ rfl).mpr hname
        have hno := hno f hf
        rw [hfname] at hno
        exact absurd hstored hno
    · exact hv

end

/-! ## Programs -/

section
variable {s : Store} {types : Variables} {type method : String} {f : Value}

theorem mem_candidatesIn {e : String × Value} :
    ⟨type, method, f⟩ ∈ candidatesIn s method e ↔ e.1 = type ∧ ownMethod? s e.2 method = some f := by
  unfold candidatesIn
  cases ownMethod? s e.2 method <;> simp [eq_comm]

theorem get?_eq_some {v : Value} (hnames : (types.map Prod.fst).Nodup) :
    types.get? type = some v ↔ (type, v) ∈ types := by
  induction types with
  | nil => simp [Bindings.get?]
  | cons e es ih =>
    obtain ⟨hnew, hnames⟩ := List.nodup_cons.mp hnames
    unfold Bindings.get?
    by_cases he : e.1 = type
    · have hno : (type, v) ∉ es := fun hmem => hnew (he ▸ List.mem_map_of_mem (f := Prod.fst) hmem)
      obtain ⟨name, w⟩ := e
      subst he
      simp [hno, eq_comm]
    · have hne : (type, v) ≠ e := fun heq => he (heq ▸ rfl)
      rw [if_neg he, ih hnames, List.mem_cons]
      simp [hne]

/-- The candidates for a name in a type are the methods that a loaded class of the type has. -/
theorem exists_candidate (s : Store) {types : Variables} (hnames : (types.map Prod.fst).Nodup)
    (type method : String) :
    ((∃ f, ⟨type, method, f⟩ ∈ candidates s types (some ⟨type, method⟩)) ↔
        ∃ v, (type, v) ∈ types ∧ (ownMethod? s v method).isSome)
      ∧ ((∃ f, ⟨type, mainName, f⟩ ∈ candidates s types none) ↔
        ∃ v, (type, v) ∈ types ∧ (ownMethod? s v mainName).isSome) := by
  constructor
  · unfold candidates
    simp only [← get?_eq_some hnames]
    cases types.get? type with
    | none => simp
    | some v => simp [mem_candidatesIn, Option.isSome_iff_exists]
  · simp only [candidates, List.mem_flatMap, mem_candidatesIn, Option.isSome_iff_exists]
    constructor
    · rintro ⟨f, ⟨_, v⟩, hmem, rfl, hf⟩
      exact ⟨v, hmem, f, hf⟩
    · rintro ⟨v, hmem, f, hf⟩
      exact ⟨f, (type, v), hmem, rfl, hf⟩

end

/-- What a loaded type has under a name. -/
def loadedMember? (s : Store) (types : Variables) (type name : String) : Option Value :=
  match types.get? type with
  | some (.cls (.loaded place)) => (s.loadedClass place).members.get? (Code.ident name)
  | _ => none

/-- Nothing stands between what the sources declare as a method of a type and what is found under
its name when the program is loaded. -/
structure Unobscured (h : Host) (encoding : String) (sources : List String) (p : Program)
    (s : Store) (type method : String) : Prop where
  /-- No library has a name that hints use. -/
  libraries : ∀ l ∈ p.libraries, ∀ e ∈ usualNames, l.1 ≠ e.1
  /-- No class has a name that hints use. -/
  classes : ∀ d ∈ p.types, ∀ e ∈ usualNames, d.code.name ≠ e.1
  /-- No name that hints use was given another meaning, and no object was the item of a hint. -/
  untouched : Untouched s
  /-- Writers do not keep their stream under the name of the method. -/
  writer : "_stream_name" ≠ Code.ident method
  /-- No code assigns an attribute of that name. -/
  assigned : ∀ d ∈ p.types, SparedBy (Code.ident method) d.code
  /-- The type tells its members from each other. -/
  members : ∀ c ∈ declared h encoding sources, c.name.text = type → Tells c method

instance (h : Host) (encoding : String) (sources : List String) (p : Program) (s : Store)
    (type method : String) : Decidable (Unobscured h encoding sources p s type method) :=
  decidable_of_iff
    ((∀ l ∈ p.libraries, ∀ e ∈ usualNames, l.1 ≠ e.1)
      ∧ (∀ d ∈ p.types, ∀ e ∈ usualNames, d.code.name ≠ e.1) ∧ Untouched s
      ∧ "_stream_name" ≠ Code.ident method ∧ (∀ d ∈ p.types, SparedBy (Code.ident method) d.code)
      ∧ ∀ c ∈ declared h encoding sources, c.name.text = type → Tells c method)
    ⟨fun h => ⟨h.1, h.2.1, h.2.2.1, h.2.2.2.1, h.2.2.2.2.1, h.2.2.2.2.2⟩,
      fun h => ⟨h.libraries, h.classes, h.untouched, h.writer, h.assigned, h.members⟩⟩

/-- Whether a type is declared so that a program can start with a method of it: as a static method
that takes one array of texts, or as a static field whose value is such a method. -/
def Startable (h : Host) (encoding : String) (sources : List String) (s : Store)
    (types : Variables) (type method : String) : Prop :=
  ∃ c ∈ declared h encoding sources, c.name.text = type ∧
    ((∃ m ∈ c.members, IsEntry method m)
      ∨ (∃ m ∈ c.members, IsStaticField method m)
        ∧ ∃ v ∈ loadedMember? s types type method, IsEntryValue s v)

theorem exists_of_forall₂ {α β : Type} {R : α → β → Prop} {as : List α} {bs : List β}
    (h : List.Forall₂ R as bs) {a : α} (ha : a ∈ as) : ∃ b ∈ bs, R a b := by
  induction h with
  | nil => cases ha
  | @cons a' b' as' bs' hab _ ih =>
    rcases List.mem_cons.mp ha with rfl | ha
    · exact ⟨b', List.mem_cons_self, hab⟩
    · obtain ⟨b, hb, hab⟩ := ih ha
      exact ⟨b, List.mem_cons_of_mem _ hb, hab⟩

section
variable {h : Host} {encoding : String} {sources references : List String} {p : Program}
  {input : String} {types : Variables} {s : Store} {type method : String}

/-- The types of a program are loaded under their names, which no two of them share. -/
theorem loaded_names (hnodup : (namesOf p.types).Nodup) {x : String}
    (hloaded : List.Forall₂ (LoadedAs x s) p.types types) : (types.map Prod.fst).Nodup := by
  have hnames : List.Forall₂ (· = ·) (namesOf p.types) (types.map Prod.fst) :=
    List.rel_map (fun _ _ hde => hde.1.symm) hloaded
  rw [List.forall₂_eq_eq_eq] at hnames
  exact hnames ▸ hnodup

/-- A type that one class declares has the candidate exactly if the class declares it. -/
theorem ownMethod?_iff_declared {c : ClassDecl} {d : TypeDecl} {v : Value} {file : String}
    (htells : Tells c method) (hfine : classFindings file c = []) (hcode : IsCodeOf c d)
    (hloaded : LoadedAs (Code.ident method) s d (type, v)) (hv : types.get? type = some v) :
    (ownMethod? s v method).isSome ↔
      (∃ m ∈ c.members, IsEntry method m)
        ∨ (∃ m ∈ c.members, IsStaticField method m)
          ∧ ∃ v ∈ loadedMember? s types type method, IsEntryValue s v := by
  obtain ⟨-, place, -, rfl, hmember⟩ := hloaded
  have hfound : loadedMember? s types type method
      = (s.loadedClass place).members.get? (Code.ident method) := by
    unfold loadedMember?
    rw [hv]
  rw [ownMethod?_isSome, hfound]
  exact member_iff_declared htells hcode hfine (hmember (htells.hintsUsual hcode))

end

/-- A file with one class and its entry procedure. -/
def entryHost : Host where
  tree := ⟨[(["a.cs"], .file (Text.encodeUtf8
    "class P \x7b static int n; static void Main(string[] args) \x7b \x7d \x7d\n".toList))]⟩
  cwd := "/"
  home := "/"
  tempDir := "/"
  copies := []
  named := 0
  notices := []
  asked := []

/-- What a program is loaded to. -/
def loaded? : Except Stop Variables × Store → Option (Variables × Store)
  | (.ok types, s) => some (types, s)
  | (.error _, _) => none

theorem loaded?_eq_some {r : Except Stop Variables × Store} {types : Variables} {s : Store} :
    loaded? r = some (types, s) ↔ r = (.ok types, s) := by
  obtain ⟨_ | _, _⟩ := r <;> simp [loaded?]

end BraceScript.Entry
