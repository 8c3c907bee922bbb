import BraceScript.Program.Compile
import BraceScript.Proofs.Source.Resolution
import Mathlib

/-!
# What compiling leaves behind

Reading, lowering and loading keep files and copies (`compileUnits_keeps`), so all that a
compilation has to give back are the copies of its resolution. `compileProgram_leaves` says that it
gives back exactly these, however it ends.
-/

namespace BraceScript

open Source

/-- How the files of a script are scanned. -/
def Config.settings (config : Config) : Settings :=
  ⟨config.tempDir.map (·.string), config.encoding.string⟩

/-- The host when the units of a resolution are about to be compiled. -/
def compiling (config : Config) (r : Resolution) (h : Host) : Host :=
  (tell (.compilingAll r.size
    (Program.references (config.defaultReferences.map (·.string)) r.units)) h).2

namespace Program

/-! ## Steps that keep everything -/

theorem tell_keeps (n : Notice) : (tell n).Keeps := (Act.Reads.tell n).toKeeps

theorem pure_keeps {α : Type} (a : α) : (pure a : Act α).Keeps := (Act.Looks.pure a).toKeeps

theorem throw_keeps {α : Type} (e : Failure) : (throw e : Act α).Keeps :=
  (Act.Looks.throw e).toKeeps

theorem compileFile_keeps (encoding path : String) : (compileFile encoding path).Keeps := by
  have hlook : (lookCompiled path).Keeps := ⟨fun _ => ⟨rfl, rfl, rfl, rfl⟩, fun _ => rfl⟩
  refine hlook.bind fun found => ?_
  cases found with
  | file bytes =>
    refine (encodingOf_looks encoding).toKeeps.bind fun e => ?_
    split
    · exact pure_keeps _
    · exact pure_keeps _
  | invalid => exact throw_keeps _
  | directory | missing | notDirectory | tooLong => exact pure_keeps _

theorem compileFiles_keeps (encoding : String) (paths : List String) :
    (compileFiles encoding paths).Keeps := by
  induction paths with
  | nil => exact pure_keeps _
  | cons p ps ih =>
    refine (tell_keeps _).bind fun _ => ?_
    refine (compileFile_keeps encoding p).bind fun r => ?_
    exact ih.bind fun rs => pure_keeps _

theorem checkTypes_keeps (ds : List Lowering.TypeDecl) : (checkTypes ds).Keeps := by
  induction ds with
  | nil => exact pure_keeps _
  | cons d ds ih =>
    unfold checkTypes
    extract_lets rest
    have hrest : ∀ x, (rest x).Keeps := by
      intro x
      refine ih.bind fun r => ?_
      split <;> exact pure_keeps _
    split
    · exact (throw_keeps _).bind hrest
    · exact hrest ()

theorem loadLibrary_keeps (reference : String) : (loadLibrary reference).Keeps := by
  refine (Act.Looks.look reference).toKeeps.bind fun found => ?_
  cases found with
  | file bytes =>
    have hget : (get : Act Host).Keeps := ⟨.refl, fun _ => rfl⟩
    exact hget.bind fun h => pure_keeps _
  | directory | missing | notDirectory | tooLong | invalid =>
    simp only
    split
    · exact pure_keeps _
    · split
      · exact (throw_keeps _).bind fun _ => pure_keeps _
      · exact pure_keeps _

theorem loadLibraries_keeps (seen : List String) (bound : Libraries) (problems : List Diagnostic)
    (refs : List String) : (loadLibraries seen bound problems refs).Keeps := by
  induction refs generalizing seen bound problems with
  | nil => exact pure_keeps _
  | cons r rs ih =>
    unfold loadLibraries
    split
    · exact ih _ _ _
    · refine (loadLibrary_keeps r).bind fun l => ?_
      split
      · exact ih _ _ _
      · exact (tell_keeps _).bind fun _ => ih _ _ _

theorem compile_keeps (encoding : String) (sources references : List String) :
    (compile encoding sources references).Keeps := by
  refine (compileFiles_keeps encoding sources).bind fun r => ?_
  refine (loadLibraries_keeps [] [] [] references).bind fun l => ?_
  refine (checkTypes_keeps _).bind fun t => ?_
  simp only
  split
  · exact pure_keeps _
  · exact (tell_keeps _).bind fun _ => pure_keeps _

theorem compileUnits_keeps (config : Config) (r : Resolution) : (compileUnits config r).Keeps := by
  refine (tell_keeps _).bind fun _ => ?_
  refine (compile_keeps _ _ _).bind fun p => ?_
  split <;> exact pure_keeps _

/-! ## Whole programs -/

/-- However a compilation ends, the copies behind it are those that were there before, and so are
all files and directories. -/
theorem compileProgram_leaves (config : Config) (entry : String) (h : Host) :
    (compileProgram config entry h).2.copies = h.copies
      ∧ (compileProgram config entry h).2.tree = h.tree := by
  rcases hr : (resolve ⟨config.tempDir.map (·.string), config.encoding.string⟩ .empty entry).run h
    with ⟨⟨r, resolved⟩, h'⟩
  obtain ⟨⟨h₁, hscans, hcopies⟩, halike, -⟩ := resolveWithin_spec (resolve_apply.symm.trans hr)
  have hsame : h₁.Alike h' := hscans.alike.symm.trans halike
  unfold compileProgram
  simp only [hr]
  cases resolved with
  | error f =>
    obtain ⟨hback, hfiles⟩ := hscans.release hsame hcopies
    exact ⟨hback, hfiles.tree⟩
  | ok _ =>
    have hkeeps := compileUnits_keeps config r
    have hsame' : h₁.Alike ((compileUnits config r).run h').2 := hsame.trans (hkeeps.alike h')
    obtain ⟨hback, hfiles⟩ := hscans.release hsame' ((hkeeps.copies h').trans hcopies)
    exact ⟨hback, hfiles.tree⟩

end Program

end BraceScript
