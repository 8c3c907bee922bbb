import BraceScript.Proofs.CommandLine.Argument
import BraceScript.Proofs.Eval.Later
import BraceScript.Proofs.Lowering.Words

/-!
# Candidates by their names

The types of a program and the methods that it can start with are called by words, since no loaded
class has a member that is called otherwise (`load_without`). A word has no point, so the name of a
candidate can be read in one way only, and it leads back to the candidate: whatever a program could
start with can be asked for by its name (`candidates_selectable`).
-/

namespace BraceScript.Eval

open Code (privateName)
open Lowering
open Syntax (IsWord)
open Program (namesOf)

/-! ## Members that no class has -/

/-- The code of a class that has no member of a name, and assigns no attribute of it. -/
structure Lacks (x : String) (c : Code.Class) : Prop where
  spared : SparedBy x c
  functions : ∀ f ∈ c.functions, (classFrame c).meant f.name ≠ x
  fields : ∀ e ∈ c.fields, (classFrame c).meant e.1 ≠ x

/-- A loaded class that has no member of a name. -/
def Without (x : String) (s : Store) (v : Value) : Prop :=
  ∃ place < s.classes.size, v = .cls (.loaded place)
    ∧ (s.loadedClass place).members.get? x = none

section
variable {x : String} {c : Code.Class} {s t : Store} {v : Value}

/-- What is no word is nowhere in the code of a class that is named by words. -/
theorem lacks_of_namedByWords (hc : NamedByWords c) (hx : ¬IsWord x) : Lacks x c := by
  have hother {y : String} (hy : IsWord y) : privateName c.name y ≠ x := fun h =>
    hx (h ▸ IsWord.privateName hc.name hy)
  exact ⟨fun f hf y hy => hother ((hc.functions f hf).2 y hy),
    fun f hf => hother (hc.functions f hf).1, fun e he => hother (hc.fields e he)⟩

theorem Without.later (h : Without x s v) (hst : Later x s t) : Without x t v := by
  obtain ⟨place, hplace, rfl, hnone⟩ := h
  exact ⟨place, hplace.trans_le hst.classes, rfl, (hst.member place hplace).trans hnone⟩

/-- The members of a class are what its body gave a value to. -/
theorem loadClass_without (hc : Lacks x c) (h : loadClass c s = (.ok v, t)) : Without x t v := by
  obtain ⟨rfl, b, u, base, -, hreach, -, rfl⟩ := loadClass_eq_ok h
  obtain ⟨_, r, hfunctions, hfields⟩ := bind_eq_ok.mp hreach.body
  have hnone : u.locals.get? x = none := by
    rw [defineFields_other hc.fields hfields, defineFunctions_other hc.functions hfunctions]
    rfl
  have hplace : s.classes.size < (finished s c base u).classes.size := by
    simpa [finished] using hreach.place
  have hmembers : ((finished s c base u).loadedClass s.classes.size).members = u.locals :=
    congrArg ClassInfo.members (loadedClass_finished hreach base)
  exact ⟨s.classes.size, hplace, rfl, by rw [hmembers, hnone]⟩

theorem loadTypes_without {ds : List TypeDecl} {types : Variables}
    (hds : ∀ d ∈ ds, Lacks x d.code) (hs : Spared x s) (h : ds.mapM loadType s = (.ok types, t)) :
    Later x s t ∧ ∀ e ∈ types, Without x t e.2 := by
  induction ds generalizing s types with
  | nil =>
    cases h
    exact ⟨.refl _, List.forall_mem_nil _⟩
  | cons d ds ih =>
    simp only [List.mapM_cons, bind_eq_ok, loadType] at h
    obtain ⟨e, r', ⟨v, r, hload, hname⟩, es, r'', hrest, hlast⟩ := h
    cases hname
    cases hlast
    obtain ⟨hd, hds⟩ := List.forall_mem_cons.mp hds
    obtain ⟨hlater, hr⟩ := loadClass_later hd.spared hs hload
    obtain ⟨hlater', hall⟩ := ih hds hr hrest
    have hfirst := (loadClass_without hd hload).later hlater'
    exact ⟨hlater.trans hlater', List.forall_mem_cons.mpr ⟨hfirst, hall⟩⟩

/-- No class of a loaded program has a member that the code of no class has. -/
theorem load_without {p : Program} {input : String} {types : Variables} (hx : "_stream_name" ≠ x)
    (hds : ∀ d ∈ p.types, Lacks x d.code) (h : load p (prelude input) = (.ok types, t)) :
    ∀ e ∈ types, Without x t e.2 := by
  obtain ⟨_, r, hlibraries, htypes⟩ := bind_eq_ok.mp h
  have hstart := (prelude_ready hx input).spared
  have hr := ((bindLibraries_proceeds p.libraries).after hstart hlibraries).2
  exact (loadTypes_without hds hr htypes).2

theorem names_of_loadTypes {ds : List TypeDecl} {types : Variables}
    (h : ds.mapM loadType s = (.ok types, t)) : types.map Prod.fst = namesOf ds := by
  induction ds generalizing s types with
  | nil =>
    cases h
    rfl
  | cons d ds ih =>
    simp only [List.mapM_cons, bind_eq_ok, loadType] at h
    obtain ⟨e, r', ⟨v, r, -, hname⟩, es, r'', hrest, hlast⟩ := h
    cases hname
    cases hlast
    exact congrArg (d.name :: ·) (ih hrest)

end

end BraceScript.Eval

namespace BraceScript.Entry

open Eval Lowering
open Syntax (IsWord Worded)
open Program (namesOf)

/-! ## Names of programs -/

section
variable {h : Host} {encoding : String} {sources references : List String} {p : Program}

/-- The tree of a file is what some text is read as. -/
theorem parse_of_sourceFile? {path : String} {f : Syntax.SourceFile}
    (hf : sourceFile? h encoding path = some f) : ∃ cs, Syntax.parse cs = .ok f := by
  unfold sourceFile? at hf
  split at hf
  · simp only [Option.bind_eq_bind, Option.bind_eq_some_iff] at hf
    obtain ⟨_, -, cs, -, hparse⟩ := hf
    refine ⟨Text.unifyBreaks cs, ?_⟩
    cases hread : Syntax.parse (Text.unifyBreaks cs) with
    | error e =>
      rw [hread] at hparse
      cases hparse
    | ok g =>
      rw [hread] at hparse
      cases hparse
      rfl
  · cases hf

/-- The classes of the sources are worded. -/
theorem worded_of_declared {c : Syntax.ClassDecl} (hc : c ∈ declared h encoding sources) :
    Worded (Syntax.Spelling.ofClass c) := by
  obtain ⟨path, -, hc⟩ := List.mem_flatMap.mp hc
  cases hf : sourceFile? h encoding path with
  | none =>
    rw [hf] at hc
    cases hc
  | some f =>
    rw [hf] at hc
    obtain ⟨cs, hparse⟩ := parse_of_sourceFile? hf
    exact Syntax.worded_ofClass hparse hc

/-- The types of a program are called by words, and so is all that their code has. -/
theorem program_words (hp : (Program.compile encoding sources references h).1 = .ok (.ok p)) :
    ∀ d ∈ p.types, IsWord d.name ∧ NamedByWords d.code := by
  intro d hd
  obtain ⟨hfine, -⟩ := Program.compile_eq_program_iff.mp hp
  obtain ⟨hperm, -⟩ := Program.types_of_program hp
  obtain ⟨hcode, -⟩ := declared_of_fine hfine
  obtain ⟨c, hc, hcd⟩ := exists_of_forall₂ hcode.flip (hperm.subset hd)
  obtain ⟨n, hn⟩ := hcd.code
  have hwords : NamedByWords d.code := hn ▸ namedByWords_classCode (worded_of_declared hc) n
  refine ⟨?_, hwords⟩
  rw [← isWord_ident, ← (program_named hp d hd).1]
  exact hwords.name

/-- The methods of loaded types are called by words. -/
theorem isWord_of_ownMethod? {input : String} {types : Variables} {s : Store}
    (hp : (Program.compile encoding sources references h).1 = .ok (.ok p))
    (hload : load p (prelude input) = (.ok types, s)) {e : String × Value} (he : e ∈ types)
    {method : String} {f : Value} (hf : ownMethod? s e.2 method = some f) : IsWord method := by
  by_contra hmethod
  have hx : ¬IsWord (Code.ident method) := mt isWord_ident.mp hmethod
  have hwriter : "_stream_name" ≠ Code.ident method := by
    rintro heq
    have hword : IsWord "_stream_name" := by decide +kernel
    exact hx (heq ▸ hword)
  have hlacks : ∀ d ∈ p.types, Lacks (Code.ident method) d.code := fun d hd =>
    lacks_of_namedByWords (program_words hp d hd).2 hx
  obtain ⟨place, -, hvalue, hnone⟩ := load_without hwriter hlacks hload e he
  rw [hvalue, ownMethod?, hnone] at hf
  cases hf

end

/-! ## Searches -/

section
variable {s : Store} {types : Variables} {type method : String} {e : String × Value} {c : Candidate}

theorem length_candidatesIn_le (s : Store) (method : String) (e : String × Value) :
    (candidatesIn s method e).length ≤ 1 := by
  unfold candidatesIn
  cases ownMethod? s e.2 method <;> simp

/-- A type has a candidate of a name at most once. -/
theorem mem_candidatesIn_iff_eq : c ∈ candidatesIn s method e ↔ candidatesIn s method e = [c] := by
  have hlength := length_candidatesIn_le s method e
  generalize candidatesIn s method e = found at hlength ⊢
  match found, hlength with
  | [], _ => simp
  | [c'], _ => simp [eq_comm]

/-- What is asked for is looked for in the type of that name. -/
theorem candidates_asked (hnames : (types.map Prod.fst).Nodup) (he : e ∈ types) (method : String) :
    candidates s types (some ⟨e.1, method⟩) = candidatesIn s method e := by
  have hfound : types.get? e.1 = some e.2 := (get?_eq_some hnames).mpr he
  simp only [candidates, hfound]

/-- Searching all types is searching one after the other. -/
theorem candidates_none (s : Store) (hnames : (types.map Prod.fst).Nodup) :
    candidates s types none
      = (types.map Prod.fst).flatMap fun t => candidates s types (some ⟨t, mainName⟩) := by
  rw [List.flatMap_map]
  exact List.flatMap_congr fun e he => (candidates_asked hnames he mainName).symm

theorem length_candidates_asked_le (s : Store) (types : Variables) (e : EntrySpec) :
    (candidates s types (some e)).length ≤ 1 := by
  simp only [candidates]
  split
  · next v _ => exact length_candidatesIn_le s e.method (e.type, v)
  · exact Nat.zero_le 1

/-- A candidate is a method of a type, whichever way it is found. -/
theorem mem_candidates {asked : Option EntrySpec} (hnames : (types.map Prod.fst).Nodup)
    (hc : c ∈ candidates s types asked) :
    ∃ e ∈ types, e.1 = c.type ∧ ownMethod? s e.2 c.method = some c.target
      ∧ c ∈ candidatesIn s c.method e := by
  have hfound {method : String} {e : String × Value} (he : e ∈ types)
      (hc : c ∈ candidatesIn s method e) : ∃ e ∈ types, e.1 = c.type
        ∧ ownMethod? s e.2 c.method = some c.target ∧ c ∈ candidatesIn s c.method e := by
    obtain rfl : c.method = method := by
      obtain ⟨f, -, rfl⟩ := List.mem_map.mp hc
      rfl
    obtain ⟨htype, hf⟩ := mem_candidatesIn.mp hc
    exact ⟨e, he, htype, hf, hc⟩
  cases asked with
  | none =>
    obtain ⟨e, he, hc⟩ := List.mem_flatMap.mp hc
    exact hfound he hc
  | some entry =>
    simp only [candidates] at hc
    split at hc
    · next v hv => exact hfound ((get?_eq_some hnames).mp hv) hc
    · cases hc

end

/-! ## Loaded programs -/

section
variable {h : Host} {encoding : String} {sources references : List String} {p : Program}
  {input : String} {types : Variables} {s : Store}

/-- Without a name, the candidates of a loaded program are those of the usual name in its types, in
the order of the types, and there is one at most for each of them. And whichever way a candidate is
found, the name under which it is shown is read as a type and a method, and asking for these finds
just that candidate. -/
theorem candidates_selectable
    (hp : (Program.compile encoding sources references h).1 = .ok (.ok p))
    (hload : load p (prelude input) = (.ok types, s)) :
    candidates s types none
        = (namesOf p.types).flatMap (fun t => candidates s types (some ⟨t, mainName⟩))
      ∧ (∀ e, (candidates s types (some e)).length ≤ 1)
      ∧ ∀ asked, ∀ c ∈ candidates s types asked,
        EntrySpec.parse? c.name = some ⟨c.type, c.method⟩
          ∧ only? (candidates s types (some ⟨c.type, c.method⟩)) = some c := by
  obtain ⟨_, r, -, htypes⟩ := bind_eq_ok.mp hload
  have hnames : types.map Prod.fst = namesOf p.types := names_of_loadTypes htypes
  have hnodup : (types.map Prod.fst).Nodup := hnames ▸ (Program.types_of_program hp).2.nodup
  refine ⟨hnames ▸ candidates_none s hnodup, length_candidates_asked_le s types, ?_⟩
  intro asked c hc
  obtain ⟨e, he, htype, hmethod, hfound⟩ := mem_candidates hnodup hc
  have hword : IsWord c.method := isWord_of_ownMethod? hp hload he hmethod
  have hmem : e.1 ∈ namesOf p.types := hnames ▸ List.mem_map_of_mem he
  obtain ⟨d, hd, hname⟩ := List.mem_map.mp hmem
  have hdeclared : IsWord c.type := htype ▸ hname ▸ (program_words hp d hd).1
  constructor
  · exact EntrySpec.parse?_eq_some_iff.mpr ⟨rfl, hdeclared.1, hword.1, hword.point_notMem⟩
  · rw [← htype, candidates_asked hnodup he, mem_candidatesIn_iff_eq.mp hfound]
    rfl

end

/-- A file with two entry procedures and another method that could be one. -/
def ambiguousHost : Host where
  tree := ⟨[(["a.cs"], .file (Text.encodeUtf8
    ("class P \x7b static void Main(string[] args) \x7b \x7d "
    ++ "static void pass(string[] args) \x7b \x7d \x7d "
    ++ "class with \x7b static void Main(string[] args) \x7b \x7d \x7d").toList))]⟩
  cwd := "/"
  home := "/"
  tempDir := "/"
  copies := []
  named := 0
  notices := []
  asked := []

theorem candidates_selectable_ambiguous :
    ∃ p types s, (Program.compile "utf-8" ["a.cs"] [] ambiguousHost).1 = .ok (.ok p)
      ∧ load p (prelude "") = (.ok types, s)
      ∧ (candidates s types none).map (·.name) = ["P.Main", "with.Main"]
      ∧ only? (candidates s types none) = none
      ∧ (∀ c ∈ candidates s types none, EntrySpec.parse? c.name = some ⟨c.type, c.method⟩
        ∧ only? (candidates s types (some ⟨c.type, c.method⟩)) = some c)
      ∧ ∃ c ∈ candidates s types (some ⟨"P", "pass"⟩), c.name = "P.pass"
        ∧ EntrySpec.parse? c.name = some ⟨c.type, c.method⟩
        ∧ only? (candidates s types (some ⟨c.type, c.method⟩)) = some c := by
  have hall : ((Program.program? (Program.compile "utf-8" ["a.cs"] [] ambiguousHost).1).bind
      fun p => (loaded? (load p (prelude ""))).map fun r =>
        ((candidates r.2 r.1 none).map (·.name),
          (candidates r.2 r.1 (some ⟨"P", "pass"⟩)).map (·.name)))
      = some (["P.Main", "with.Main"], ["P.pass"]) := by decide +kernel
  obtain ⟨p, hp, hp'⟩ := Option.bind_eq_some_iff.mp hall
  obtain ⟨⟨types, s⟩, hload, hnames⟩ := Option.map_eq_some_iff.mp hp'
  obtain ⟨hfound, hasked⟩ := Prod.mk.inj hnames
  have hp := Program.program?_eq_some.mp hp
  have hload := loaded?_eq_some.mp hload
  obtain ⟨-, -, hselect⟩ := candidates_selectable hp hload
  obtain ⟨c, hc, hname⟩ := List.mem_map.mp (hasked ▸ List.mem_cons_self)
  refine ⟨p, types, s, hp, hload, hfound, ?_, hselect none, c, hc, hname, hselect _ c hc⟩
  have hlength : (candidates s types none).length = 2 := by
    rw [← List.length_map (·.name), hfound]
    rfl
  generalize candidates s types none = found at hlength ⊢
  obtain ⟨a, b, rfl⟩ := List.length_eq_two.mp hlength
  rfl

end BraceScript.Entry
