import BraceScript.Proofs.Program.Compile
import BraceScript.Proofs.Program.Order
import Mathlib

/-!
# What a compilation ends in

Every stage of a compilation only reads files and copies (`Act.Consults`), so what it gives is a
function of them, and the stages can be looked at one by one: `compileFiles_cons`, `checkTypes_fst`
and `compile_fst`. A compilation ends in a program exactly when no stage has anything to report
(`compile_eq_program_iff`). It fails only for four kinds of reasons, and then without a result
(`compile_returns`): a path with a null character, an encoding that is not known, a library that is
named relative to nothing, and a class whose code holds a null character.
-/

namespace BraceScript.Program

open Lowering (TypeDecl)

/-! ## Stages read files and copies -/

theorem compileFile_consults (encoding path : String) : (compileFile encoding path).Consults := by
  refine (Act.Consults.lookCompiled path).bind fun found => ?_
  cases found with
  | file bytes =>
    refine (Source.encodingOf_looks encoding).toReads.consults.bind fun e => ?_
    split
    · exact (Act.Looks.pure _).toReads.consults
    · exact (Act.Looks.pure _).toReads.consults
  | invalid => exact (Act.Looks.throw _).toReads.consults
  | directory | missing | notDirectory | tooLong => exact (Act.Looks.pure _).toReads.consults

theorem compileFiles_consults (encoding : String) (paths : List String) :
    (compileFiles encoding paths).Consults := by
  induction paths with
  | nil => exact (Act.Looks.pure _).toReads.consults
  | cons p ps ih =>
    refine (Act.Reads.tell _).consults.bind fun _ => ?_
    refine (compileFile_consults encoding p).bind fun r => ?_
    exact ih.bind fun rs => (Act.Looks.pure _).toReads.consults

theorem loadLibrary_reads (reference : String) : (loadLibrary reference).Reads := by
  refine (Act.Looks.look reference).toReads.bind fun found => ?_
  cases found with
  | file bytes =>
    refine ⟨⟨fun h => .refl h, fun _ => rfl⟩, fun {h h'} hh => ?_⟩
    show Except.ok (loadFile reference (h'.absolute reference) bytes)
      = .ok (loadFile reference (h.absolute reference) bytes)
    rw [hh.absolute]
  | directory | missing | notDirectory | tooLong | invalid =>
    simp only
    split
    · exact (Act.Looks.pure _).toReads
    · split
      · exact ((Act.Looks.throw _).bind fun _ => Act.Looks.pure _).toReads
      · exact (Act.Looks.pure _).toReads

theorem loadLibraries_reads (seen : List String) (bound : Libraries) (problems : List Diagnostic)
    (refs : List String) : (loadLibraries seen bound problems refs).Reads := by
  induction refs generalizing seen bound problems with
  | nil => exact (Act.Looks.pure _).toReads
  | cons r rs ih =>
    unfold loadLibraries
    split
    · exact ih _ _ _
    · refine (loadLibrary_reads r).bind fun l => ?_
      split
      · exact ih _ _ _
      · exact (Act.Reads.tell _).bind fun _ => ih _ _ _

theorem checkTypes_reads (ds : List TypeDecl) : (checkTypes ds).Reads := by
  induction ds with
  | nil => exact (Act.Looks.pure _).toReads
  | cons d ds ih =>
    unfold checkTypes
    extract_lets rest
    have hrest : ∀ x, (rest x).Reads := by
      intro x
      refine ih.bind fun r => ?_
      split <;> exact (Act.Looks.pure _).toReads
    split
    · exact (Act.Looks.throw _).toReads.bind hrest
    · exact hrest ()

/-! ## Files -/

section
variable (h : Host) (encoding : String)

/-- The classes and problems of a file, none if it fails. -/
def fileResult (path : String) : List TypeDecl × List Diagnostic :=
  match (compileFile encoding path h).1 with
  | .ok r => r
  | .error _ => ([], [])

/-- The classes of several files. -/
def allClasses (paths : List String) : List TypeDecl :=
  paths.flatMap fun path => (fileResult h encoding path).1

/-- The problems of several files. -/
def allProblems (paths : List String) : List Diagnostic :=
  paths.flatMap fun path => (fileResult h encoding path).2

/-- Why a file cannot even be reported about. -/
def fileFailure? (path : String) : Option Failure :=
  match h.findCompiled path with
  | .invalid => some .nullInPath
  | .file _ => if (Text.Encoding.ofName? encoding).isSome then none else some (.unknownEncoding encoding)
  | _ => none

end

/-- The failure that something ended in. -/
def failure? {α : Type} : Except Failure α → Option Failure
  | .ok _ => none
  | .error f => some f

theorem failure?_eq_some {α : Type} {r : Except Failure α} {f : Failure} :
    failure? r = some f ↔ r = .error f := by
  cases r <;> simp [failure?]

/-- Of two steps the first failure counts. -/
theorem failure?_bind {α β : Type} {r : Except Failure α} {f : α → Except Failure β}
    {g : Option Failure} (h : ∀ a, r = .ok a → failure? (f a) = g) :
    failure? (r.bind f) = (failure? r).or g := by
  cases r with
  | error e => rfl
  | ok a => exact h a rfl

section
variable {h : Host} {encoding : String}

/-- Reading a path is all that can fail with a file. -/
theorem compileFile_failure? (path : String) :
    failure? (compileFile encoding path h).1 = fileFailure? h encoding path := by
  unfold compileFile fileFailure?
  rw [Act.bind_of_ok (lookCompiled_apply path h)]
  cases h.findCompiled path with
  | invalid | directory | missing | notDirectory | tooLong => rfl
  | file bytes =>
    simp only [Source.encodingOf]
    cases Text.Encoding.ofName? encoding with
    | none => rfl
    | some e =>
      rw [Act.bind_of_ok (Act.pure_apply e _)]
      cases e.decode bytes <;> rfl

/-- What several files give is what each of them gives. -/
theorem compileFiles_cons (path : String) (paths : List String) :
    (compileFiles encoding (path :: paths) h).1
      = (compileFile encoding path h).1.bind fun r =>
        (compileFiles encoding paths h).1.bind fun rs => .ok (r.1 ++ rs.1, r.2 ++ rs.2) := by
  have hpure (r rs : List TypeDecl × List Diagnostic) :
      (pure (r.1 ++ rs.1, r.2 ++ rs.2) : Act _).Consults := (Act.Looks.pure _).toReads.consults
  have hrest (r : List TypeDecl × List Diagnostic) :=
    (compileFiles_consults encoding paths).bind fun rs => hpure r rs
  have hone := (compileFile_consults encoding path).bind hrest
  rw [compileFiles, (tell_keeps _).bind_fst fun _ => hone]
  show ((compileFile encoding path >>= _) h).1 = _
  rw [(compileFile_keeps encoding path).bind_fst hrest]
  congr 1
  funext r
  exact (compileFiles_keeps encoding paths).bind_fst (hpure r) h

theorem compileFiles_failure? (paths : List String) :
    failure? (compileFiles encoding paths h).1 = paths.findSome? (fileFailure? h encoding) := by
  induction paths with
  | nil => rfl
  | cons path paths ih =>
    rw [compileFiles_cons, List.findSome?_cons, ← compileFile_failure? path,
      failure?_bind (g := paths.findSome? (fileFailure? h encoding))]
    · cases failure? (compileFile encoding path h).1 <;> rfl
    · intro r _
      rw [failure?_bind (g := none) fun _ _ => rfl, ih, Option.or_none]

theorem compileFile_of_fine {path : String} (hfine : fileFailure? h encoding path = none) :
    (compileFile encoding path h).1 = .ok (fileResult h encoding path) := by
  rw [← compileFile_failure?] at hfine
  unfold fileResult
  cases hr : (compileFile encoding path h).1 with
  | ok r => rfl
  | error f =>
    rw [hr] at hfine
    cases hfine

/-- Files that do not fail give the classes and problems of all of them. -/
theorem compileFiles_of_fine {paths : List String}
    (hfine : ∀ path ∈ paths, fileFailure? h encoding path = none) :
    (compileFiles encoding paths h).1
      = .ok (allClasses h encoding paths, allProblems h encoding paths) := by
  induction paths with
  | nil => rfl
  | cons path paths ih =>
    obtain ⟨hone, hrest⟩ := List.forall_mem_cons.mp hfine
    rw [compileFiles_cons, compileFile_of_fine hone, ih hrest]
    rfl

theorem compileFiles_eq_ok_iff {paths : List String} {r : List TypeDecl × List Diagnostic} :
    (compileFiles encoding paths h).1 = .ok r ↔
      (∀ path ∈ paths, fileFailure? h encoding path = none)
        ∧ r = (allClasses h encoding paths, allProblems h encoding paths) := by
  constructor
  · intro hr
    have hfine : ∀ path ∈ paths, fileFailure? h encoding path = none := by
      rw [← List.findSome?_eq_none_iff, ← compileFiles_failure?, hr]
      rfl
    rw [compileFiles_of_fine hfine] at hr
    exact ⟨hfine, (Except.ok.inj hr).symm⟩
  · rintro ⟨hfine, rfl⟩
    exact compileFiles_of_fine hfine

/-! ## Libraries -/

end

/-- Why a library cannot even be reported about. -/
def libraryFailure? (h : Host) (reference : String) : Option Failure :=
  match h.find reference with
  | .file _ => none
  | _ =>
    if knownModules.contains reference then none
    else if reference.toList.head? == some '.' then some (.relativeLibrary reference)
    else none

theorem loadLibrary_failure? (h : Host) (reference : String) :
    failure? (loadLibrary reference h).1 = libraryFailure? h reference := by
  unfold loadLibrary libraryFailure?
  rw [Act.bind_of_ok (look_apply reference h)]
  cases h.find reference with
  | file bytes => rfl
  | directory | missing | notDirectory | tooLong | invalid =>
    simp only
    split
    · rfl
    · split <;> rfl

/-- A library that was loaded before did not fail, so only the first time counts. -/
theorem loadLibraries_failure? {h : Host} {seen : List String} (bound : Libraries)
    (problems : List Diagnostic) (refs : List String)
    (hseen : ∀ r ∈ seen, libraryFailure? h r = none) :
    failure? (loadLibraries seen bound problems refs h).1
      = refs.findSome? (libraryFailure? h) := by
  induction refs generalizing seen bound problems with
  | nil => rfl
  | cons r rs ih =>
    rw [loadLibraries, List.findSome?_cons]
    split
    · next hmem =>
      rw [ih bound problems hseen, hseen r (List.contains_iff_mem.mp hmem)]
    · rw [(loadLibrary_keeps r).bind_fst,
        failure?_bind (g := rs.findSome? (libraryFailure? h)), loadLibrary_failure?]
      · cases libraryFailure? h r <;> rfl
      · intro l hl
        have hfine : libraryFailure? h r = none := by rw [← loadLibrary_failure?, hl]; rfl
        have hnext : ∀ x ∈ r :: seen, libraryFailure? h x = none :=
          List.forall_mem_cons.mpr ⟨hfine, hseen⟩
        cases l with
        | error p => exact ih bound _ hnext
        | ok l =>
          simp only
          rw [(tell_keeps _).bind_fst fun _ => (loadLibraries_reads _ _ _ _).consults]
          exact ih _ problems hnext
      · intro l
        cases l with
        | error p => exact (loadLibraries_reads _ _ _ _).consults
        | ok l => exact ((Act.Reads.tell _).bind fun _ => loadLibraries_reads _ _ _ _).consults

/-! ## Types -/

/-- A class that holds a null character is all that can fail with types. -/
theorem checkTypes_fst (h : Host) (ds : List TypeDecl) :
    (checkTypes ds h).1 =
      if ds.any (·.code.hasNull) then .error .nullInSource
      else .ok (ds.filter (·.code.fault?.isNone),
        ds.filterMap fun d => d.code.fault?.map fun f => problemAt (.generation f.message) d) := by
  induction ds with
  | nil => rfl
  | cons d ds ih =>
    unfold checkTypes
    extract_lets rest
    by_cases hnull : d.code.hasNull
    · simp only [hnull, if_true, List.any_cons, Bool.true_or]
      rfl
    · simp only [hnull, List.any_cons, Bool.false_or, if_false, Bool.false_eq_true, rest]
      rw [(checkTypes_keeps ds).bind_fst, ih]
      · split
        · rfl
        · cases hfault : d.code.fault? <;> simp [Except.bind, hfault]
      · intro r
        cases d.code.fault? <;> exact (Act.Looks.pure _).toReads.consults

/-! ## Compilations -/

/-- The classes of a program whose code is checked: the first ones of all names. -/
def keptClasses (h : Host) (encoding : String) (sources : List String) : List TypeDecl :=
  firsts (allClasses h encoding sources)

/-- Why a compilation fails: because of a file, else of a library, else of a class. -/
def compileFailure? (h : Host) (encoding : String) (sources references : List String) :
    Option Failure :=
  (sources.findSome? (fileFailure? h encoding)).or
    ((references.findSome? (libraryFailure? h)).or
      (if (keptClasses h encoding sources).any (·.code.hasNull) then some .nullInSource else none))

/-- The end of a compilation: a program, if there are no problems. -/
def conclude (problems : List Diagnostic) (p : Program) :
    Act (Except (List Diagnostic) Program) := do
  if problems.isEmpty then return .ok p
  else
    tell (.failed problems.length)
    return .error problems

theorem conclude_consults (problems : List Diagnostic) (p : Program) :
    (conclude problems p).Consults := by
  unfold conclude
  split
  · exact (Act.Looks.pure _).toReads.consults
  · exact ((Act.Reads.tell _).bind fun _ => (Act.Looks.pure _).toReads).consults

theorem conclude_fst (problems : List Diagnostic) (p : Program) (h : Host) :
    (conclude problems p h).1 = .ok (if problems.isEmpty then .ok p else .error problems) := by
  unfold conclude
  split <;> rfl

section
variable {h : Host} {encoding : String} {sources references : List String}

/-- What a compilation gives is what its stages give, one after another. -/
theorem compile_fst : (compile encoding sources references h).1 =
    (compileFiles encoding sources h).1.bind fun files =>
      (loadLibraries [] [] [] references h).1.bind fun libraries =>
        (checkTypes (orderTypes files.1 libraries.1.has).1 h).1.bind fun checked =>
          (conclude (files.2 ++ libraries.2 ++ (orderTypes files.1 libraries.1.has).2 ++ checked.2)
            ⟨checked.1, libraries.1⟩ h).1 := by
  have hend (files : List TypeDecl × List Diagnostic) (libraries : Libraries × List Diagnostic)
      (checked : List TypeDecl × List Diagnostic) :=
    conclude_consults
      (files.2 ++ libraries.2 ++ (orderTypes files.1 libraries.1.has).2 ++ checked.2)
      ⟨checked.1, libraries.1⟩
  have hchecked (files : List TypeDecl × List Diagnostic)
      (libraries : Libraries × List Diagnostic) :=
    (checkTypes_reads (orderTypes files.1 libraries.1.has).1).consults.bind (hend files libraries)
  have hlibraries (files : List TypeDecl × List Diagnostic) :=
    (loadLibraries_reads [] [] [] references).consults.bind (hchecked files)
  refine ((compileFiles_keeps encoding sources).bind_fst hlibraries h).trans ?_
  congr 1
  funext files
  refine ((loadLibraries_keeps [] [] [] references).bind_fst (hchecked files) h).trans ?_
  congr 1
  funext libraries
  exact (checkTypes_keeps _).bind_fst (hend files libraries) h

/-- The stages of a compilation fail for these reasons, and for no others. -/
theorem compile_failure? : failure? (compile encoding sources references h).1
    = compileFailure? h encoding sources references := by
  rw [compile_fst, compileFailure?, ← compileFiles_failure?]
  refine failure?_bind fun files hfiles => ?_
  have hseen : ∀ r ∈ ([] : List String), libraryFailure? h r = none := List.forall_mem_nil _
  have hlibraries := loadLibraries_failure? [] [] references hseen
  rw [← hlibraries]
  refine failure?_bind fun libraries _ => ?_
  obtain ⟨-, rfl⟩ := compileFiles_eq_ok_iff.mp hfiles
  obtain ⟨-, -, hperm, -⟩ := orderTypes_spec (allClasses h encoding sources) libraries.1.has
  rw [checkTypes_fst, hperm.any_eq, keptClasses]
  split
  · rfl
  · exact congrArg failure? (conclude_fst _ _ h)

theorem compileFailure?_eq_none_iff : compileFailure? h encoding sources references = none ↔
    (∀ path ∈ sources, fileFailure? h encoding path = none)
      ∧ (∀ r ∈ references, libraryFailure? h r = none)
      ∧ ∀ d ∈ keptClasses h encoding sources, d.code.hasNull = false := by
  have hnull : (if (keptClasses h encoding sources).any (·.code.hasNull) then
      some Failure.nullInSource else none) = none ↔
      ∀ d ∈ keptClasses h encoding sources, d.code.hasNull = false := by
    simp [List.any_eq_true]
  rw [compileFailure?, Option.or_eq_none_iff, Option.or_eq_none_iff, List.findSome?_eq_none_iff,
    List.findSome?_eq_none_iff, hnull]

/-- The problems of classes for which there is no code. -/
def brokenCode (ds : List TypeDecl) : List Diagnostic :=
  ds.filterMap fun d => d.code.fault?.map fun f => problemAt (.generation f.message) d

theorem brokenCode_eq_nil {ds : List TypeDecl} :
    brokenCode ds = [] ↔ ∀ d ∈ ds, d.code.fault? = none := by
  simp [brokenCode, List.filterMap_eq_nil_iff]

/-- What a compilation gives that does not fail, where some libraries were loaded. -/
theorem compile_of_fine {libraries : Libraries} {missing : List Diagnostic}
    (hfiles : ∀ path ∈ sources, fileFailure? h encoding path = none)
    (hlibraries : (loadLibraries [] [] [] references h).1 = .ok (libraries, missing))
    (hnull : ∀ d ∈ keptClasses h encoding sources, d.code.hasNull = false) :
    (compile encoding sources references h).1 =
      let order := orderTypes (allClasses h encoding sources) libraries.has
      let problems := allProblems h encoding sources ++ missing ++ order.2 ++ brokenCode order.1
      .ok (if problems.isEmpty then .ok ⟨order.1.filter (·.code.fault?.isNone), libraries⟩
        else .error problems) := by
  obtain ⟨-, -, hperm, -⟩ := orderTypes_spec (allClasses h encoding sources) libraries.has
  have hchecked : (orderTypes (allClasses h encoding sources) libraries.has).1.any
      (·.code.hasNull) = false := by
    rw [List.any_eq_false]
    intro d hd
    simp [hnull d (hperm.subset hd)]
  rw [compile_fst, compileFiles_of_fine hfiles, hlibraries]
  simp only [Except.bind]
  rw [checkTypes_fst, hchecked]
  exact conclude_fst _ _ h

theorem allProblems_eq_nil : allProblems h encoding sources = [] ↔
    ∀ path ∈ sources, (fileResult h encoding path).2 = [] := by
  rw [allProblems, List.flatMap_eq_nil_iff]

/-- When nothing is reported about the order, no class was dropped. -/
theorem kept_of_fine {isLibrary : String → Bool}
    (hfine : (orderTypes (allClasses h encoding sources) isLibrary).2 = []) :
    (orderTypes (allClasses h encoding sources) isLibrary).1.Perm (allClasses h encoding sources)
      ∧ keptClasses h encoding sources = allClasses h encoding sources := by
  obtain ⟨hnames, -⟩ := orderTypes_fine_iff.mp hfine
  exact ⟨(orderTypes_ok (Prod.ext rfl hfine)).1, firsts_eq_self (repeats_eq_nil hnames)⟩

/-- There is a program exactly when no stage has anything to report. -/
theorem compile_eq_program_iff {p : Program} :
    (compile encoding sources references h).1 = .ok (.ok p) ↔
      (∀ path ∈ sources, fileFailure? h encoding path = none
        ∧ (fileResult h encoding path).2 = [])
      ∧ (loadLibraries [] [] [] references h).1 = .ok (p.libraries, [])
      ∧ orderTypes (allClasses h encoding sources) p.libraries.has = (p.types, [])
      ∧ ∀ d ∈ allClasses h encoding sources, d.code.hasNull = false ∧ d.code.fault? = none := by
  constructor
  · intro hr
    have hfine : compileFailure? h encoding sources references = none := by
      rw [← compile_failure?, hr]
      rfl
    obtain ⟨hfiles, -, hnull⟩ := compileFailure?_eq_none_iff.mp hfine
    rcases hlibraries : (loadLibraries [] [] [] references h).1 with f | ⟨libraries, missing⟩
    · rw [compile_fst, compileFiles_of_fine hfiles, hlibraries] at hr
      cases hr
    rw [compile_of_fine hfiles hlibraries hnull] at hr
    simp only at hr
    split at hr
    · next hnone =>
      obtain rfl := Except.ok.inj (Except.ok.inj hr)
      have hnone := List.isEmpty_iff.mp hnone
      -- none of the four lists of problems has one
      obtain ⟨hnone, hbroken⟩ := List.append_eq_nil_iff.mp hnone
      obtain ⟨hnone, hmisplaced⟩ := List.append_eq_nil_iff.mp hnone
      obtain ⟨hfound, hmissing⟩ := List.append_eq_nil_iff.mp hnone
      have hbroken := brokenCode_eq_nil.mp hbroken
      obtain ⟨hperm, hkept⟩ := kept_of_fine hmisplaced
      have hall : (orderTypes (allClasses h encoding sources) libraries.has).1.filter
          (·.code.fault?.isNone) = (orderTypes (allClasses h encoding sources) libraries.has).1 :=
        List.filter_eq_self.mpr fun d hd => by rw [hbroken d hd]; rfl
      refine ⟨fun path hpath => ⟨hfiles path hpath, allProblems_eq_nil.mp hfound path hpath⟩,
        by rw [hmissing], Prod.ext hall.symm hmisplaced, fun d hd => ?_⟩
      exact ⟨hnull d (hkept.symm ▸ hd), hbroken d (hperm.mem_iff.mpr hd)⟩
    · cases Except.ok.inj hr
  · rintro ⟨hfiles, hlibraries, horder, hsound⟩
    obtain ⟨hperm, hkept⟩ := kept_of_fine (congrArg Prod.snd horder)
    have hnull : ∀ d ∈ keptClasses h encoding sources, d.code.hasNull = false :=
      fun d hd => (hsound d (hkept ▸ hd)).1
    rw [horder] at hperm
    have hbroken : brokenCode p.types = [] :=
      brokenCode_eq_nil.mpr fun d hd => (hsound d (hperm.subset hd)).2
    have hall : p.types.filter (·.code.fault?.isNone) = p.types :=
      List.filter_eq_self.mpr fun d hd => by rw [(hsound d (hperm.subset hd)).2]; rfl
    have hfound : allProblems h encoding sources = [] :=
      allProblems_eq_nil.mpr fun path hpath => (hfiles path hpath).2
    rw [compile_of_fine (fun path hpath => (hfiles path hpath).1) hlibraries hnull]
    simp only [horder, hfound, hbroken, hall, List.append_nil, List.isEmpty_nil, if_true]

/-- A library that is named relative to nothing is not reported. -/
example : failure? (compile "utf-8" [] [".x"] ⟨⟨[]⟩, "/", "/", "/", [], 0, [], []⟩).1
    = some (.relativeLibrary ".x") := by decide +kernel

end

end BraceScript.Program
