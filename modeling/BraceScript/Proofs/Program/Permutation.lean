import BraceScript.Proofs.Program.Outcome
import Mathlib

/-!
# The order of the sources

A program does not depend on the order in which its files are compiled (`compile_permuted`).
Whether something is reported about the order of types is a question about the set of types
(`orderTypes_fine_perm`), and so is everything else that keeps a compilation from ending in a
program.
-/

namespace BraceScript.Program

open Lowering (TypeDecl)

/-! ## Types in another order -/

section
variable {types types' : List TypeDecl}

theorem IsBase.of_perm (hperm : types.Perm types') {d base : TypeDecl} (h : IsBase types d base) :
    IsBase types' d base :=
  ⟨hperm.subset h.declared, h.named⟩

theorem OnCycle.of_perm (hperm : types.Perm types') {d : TypeDecl} (h : OnCycle types d) :
    OnCycle types' d :=
  Relation.TransGen.mono (fun _ _ => IsBase.of_perm hperm) _ _ h

theorem unknownBase?_perm (hperm : types.Perm types') (isKnown : String → Bool) :
    unknownBase? types isKnown = unknownBase? types' isKnown := by
  funext d
  have hnames (b : String) : b ∈ namesOf types ↔ b ∈ namesOf types' := (hperm.map _).mem_iff
  simp only [unknownBase?, hnames]

theorem orderTypes_fine_of_perm {isLibrary : String → Bool} (hperm : types.Perm types')
    (h : (orderTypes types isLibrary).2 = []) : (orderTypes types' isLibrary).2 = [] := by
  obtain ⟨hnames, hknown, hcycles⟩ := orderTypes_fine_iff.mp h
  refine orderTypes_fine_iff.mpr ⟨(hperm.map _).nodup_iff.mp hnames, fun d hd => ?_, fun d hd => ?_⟩
  · rw [← unknownBase?_perm hperm]
    exact hknown d (hperm.mem_iff.mpr hd)
  · exact fun hcycle => hcycles d (hperm.mem_iff.mpr hd) (hcycle.of_perm hperm.symm)

end

/-! ## Files in another order -/

section
variable {h : Host} {encoding : String} {sources sources' references : List String}

theorem allClasses_perm (hperm : sources.Perm sources') :
    (allClasses h encoding sources).Perm (allClasses h encoding sources') :=
  hperm.flatMap_right _

/-- Files that end in a program do so in any order. -/
theorem exists_program_of_perm (hperm : sources.Perm sources') {p : Program}
    (hp : (compile encoding sources references h).1 = .ok (.ok p)) :
    ∃ p', (compile encoding sources' references h).1 = .ok (.ok p') := by
  obtain ⟨hfiles, hlibraries, horder, hsound⟩ := compile_eq_program_iff.mp hp
  have hclasses : (allClasses h encoding sources).Perm (allClasses h encoding sources') :=
    allClasses_perm hperm
  have hfine := orderTypes_fine_of_perm hclasses (congrArg Prod.snd horder)
  refine ⟨⟨(orderTypes (allClasses h encoding sources') p.libraries.has).1, p.libraries⟩, ?_⟩
  refine compile_eq_program_iff.mpr ⟨fun path hpath => ?_, hlibraries, Prod.ext rfl hfine,
    fun d hd => ?_⟩
  · exact hfiles path (hperm.mem_iff.mpr hpath)
  · exact hsound d (hclasses.mem_iff.mpr hd)

/-- The types of a program are all classes of its files, bases first. -/
theorem types_of_program {p : Program}
    (hp : (compile encoding sources references h).1 = .ok (.ok p)) :
    p.types.Perm (allClasses h encoding sources) ∧ BasesFirst p.types p.types := by
  obtain ⟨-, -, horder, -⟩ := compile_eq_program_iff.mp hp
  obtain ⟨hperm, hfirst⟩ := orderTypes_ok horder
  exact ⟨hperm, hfirst.of_perm hperm.symm⟩

/-- Files end in a program in one order exactly when they do so in another one, and the two
programs have the same libraries and the same types, each with its bases first. -/
theorem compile_permuted (hperm : sources.Perm sources') (h : Host) (encoding : String)
    (references : List String) :
    ((∃ p, (compile encoding sources references h).1 = .ok (.ok p)) ↔
        ∃ p, (compile encoding sources' references h).1 = .ok (.ok p))
      ∧ ∀ p p', (compile encoding sources references h).1 = .ok (.ok p) →
        (compile encoding sources' references h).1 = .ok (.ok p') →
          p.types.Perm p'.types ∧ p.libraries = p'.libraries
            ∧ BasesFirst p.types p.types ∧ BasesFirst p'.types p'.types := by
  refine ⟨⟨fun ⟨_, hp⟩ => exists_program_of_perm hperm hp,
    fun ⟨_, hp⟩ => exists_program_of_perm hperm.symm hp⟩, fun p p' hp hp' => ?_⟩
  obtain ⟨htypes, hfirst⟩ := types_of_program hp
  obtain ⟨htypes', hfirst'⟩ := types_of_program hp'
  obtain ⟨-, hlibraries, -⟩ := compile_eq_program_iff.mp hp
  obtain ⟨-, hlibraries', -⟩ := compile_eq_program_iff.mp hp'
  have hsame := Except.ok.inj (hlibraries.symm.trans hlibraries')
  refine ⟨htypes.trans ((allClasses_perm hperm).trans htypes'.symm), congrArg Prod.fst hsame,
    hfirst, hfirst'⟩

end

/-- The program that a compilation ended in. -/
def program? {ε : Type} : Except Failure (Except ε Program) → Option Program
  | .ok (.ok p) => some p
  | _ => none

theorem program?_eq_some {ε : Type} {r : Except Failure (Except ε Program)} {p : Program} :
    program? r = some p ↔ r = .ok (.ok p) := by
  constructor
  · intro h
    match r with
    | .ok (.ok p') =>
      cases h
      rfl
    | .ok (.error _) => cases h
    | .error _ => cases h
  · rintro rfl
    rfl

/-- A file with a class whose base is in another file. -/
def pairHost : Host where
  tree := ⟨[(["a.cs"], .file (Text.encodeUtf8 "class B : A \x7b \x7d\n".toList)),
    (["b.cs"], .file (Text.encodeUtf8 "class A \x7b int x; \x7d\n".toList))]⟩
  cwd := "/"
  home := "/"
  tempDir := "/"
  copies := []
  named := 0
  notices := []
  asked := []

theorem compile_permuted_pair :
    ["a.cs", "b.cs"].Perm ["b.cs", "a.cs"]
      ∧ ∃ p p', (compile "utf-8" ["a.cs", "b.cs"] [] pairHost).1 = .ok (.ok p)
        ∧ (compile "utf-8" ["b.cs", "a.cs"] [] pairHost).1 = .ok (.ok p')
        ∧ namesOf p.types = ["A", "B"] ∧ p.types.Perm p'.types := by
  have hperm : ["a.cs", "b.cs"].Perm ["b.cs", "a.cs"] := .swap _ _ _
  have hnames : (program? (compile "utf-8" ["a.cs", "b.cs"] [] pairHost).1).map
      (namesOf ·.types) = some ["A", "B"] := by decide +kernel
  obtain ⟨p, hp, hnames⟩ := Option.map_eq_some_iff.mp hnames
  have hp := program?_eq_some.mp hp
  obtain ⟨hiff, hsame⟩ := compile_permuted hperm pairHost "utf-8" []
  obtain ⟨p', hp'⟩ := hiff.mp ⟨p, hp⟩
  exact ⟨hperm, p, p', hp, hp', hnames, (hsame p p' hp hp').1⟩

end BraceScript.Program
