import BraceScript.Program.Compile
import BraceScript.Proofs.Source.Resolution
import Mathlib

/-!
# Which file a report names

A diagnostic comes with the path of a compiled file, and the report names the file that the user
wrote. The compiled files of a resolution are all different (`Scans.compilePaths_nodup`), and the
compiler names no others (`compile_among`). But the owner of a path is looked for without regard
to the case of letters, so the report names the first unit whose compiled file is spelled alike up
to case (`compileProgram_reports`).
-/

namespace BraceScript.Source

open Files

/-! ## The compiled files of a resolution -/

/-- Where the compiled file of a unit is: it is the file of the unit itself, or a copy made since
`h`, which stands where `h` has nothing. -/
def Stands (h h' : Host) (path : String) (u : SourceUnit) : Prop :=
  (u.compilePath = path ∧ ∃ bytes, h.find path = .file bytes)
    ∨ (h.Vacant u.compilePath ∧ u.compilePath ∈ h'.copies.map Prod.fst)

theorem Stands.mono {h h₁ h₂ : Host} {path : String} {u : SourceUnit} (hs : Stands h h₁ path u)
    (hc : h₁.copies ⊆ h₂.copies) : Stands h h₂ path u := by
  rcases hs with hplain | ⟨hv, hmem⟩
  · exact .inl hplain
  · exact .inr ⟨hv, List.map_subset _ hc hmem⟩

/-- The compiled file of a unit that was just scanned. -/
theorem Scanned.stands {settings : Settings} {path : String} {h h₁ h₂ : Host} {f : Front}
    {u : SourceUnit} (hu : Scanned settings path h₁ f u h₂) (a : h.Alike h₁) :
    Stands h h₂ path u := by
  cases hb : f.leading.hasBlock with
  | false =>
    obtain ⟨bytes, -, hfile, -⟩ := inspect_ok hu.inspected
    refine .inl ⟨(hu.plain hb).1, bytes, ?_⟩
    rw [← a.find, hfile]
  | true =>
    obtain ⟨-, -, -, hvacant, hcopies⟩ := hu.copied hb
    refine .inr ⟨hvacant.of_alike a, ?_⟩
    rw [hcopies]
    simp

namespace Scans

variable {settings : Settings} {h h' : Host} {found : List (String × SourceUnit)}

/-- A unit is found under the path that the user wrote. -/
theorem sourcePaths (hs : Scans settings h found h') : ∀ e ∈ found, e.2.sourcePath = e.1 := by
  induction hs with
  | nil => simp
  | quiet _ _ ih => exact ih
  | scan _ hu ih =>
    obtain ⟨f, hu⟩ := scan_ok hu
    intro e he
    rcases List.mem_append.mp he with he | he
    · exact ih e he
    · rw [List.mem_singleton] at he
      subst he
      exact hu.sourcePath

theorem stands (hs : Scans settings h found h') : ∀ e ∈ found, Stands h h' e.1 e.2 := by
  induction hs with
  | nil => simp
  | quiet _ hq ih =>
    intro e he
    exact (ih e he).mono (by rw [hq.copies]; exact List.Subset.refl _)
  | @scan found h₁ h₂ path u hs hu ih =>
    have hmore : h₁.copies ⊆ h₂.copies := by
      obtain ⟨added, hadded, -⟩ := (Scans.nil.scan hu).copies
      rw [hadded]
      exact List.subset_append_left _ _
    intro e he
    rcases List.mem_append.mp he with he | he
    · exact (ih e he).mono hmore
    · obtain ⟨f, hu⟩ := scan_ok hu
      rw [List.mem_singleton] at he
      subst he
      exact hu.stands hs.alike

/-- The file of a unit that is scanned anew is the compiled file of none of the units before. -/
theorem compilePath_ne {path : String} {u : SourceUnit} {f : Front} {h₂ : Host}
    (hs : Scans settings h found h') (hu : Scanned settings path h' f u h₂)
    {e : String × SourceUnit} (he : e ∈ found) (hne : e.1 ≠ path) :
    e.2.compilePath ≠ u.compilePath := by
  intro heq
  cases hb : f.leading.hasBlock with
  | false =>
    obtain ⟨bytes, -, hfile, -⟩ := inspect_ok hu.inspected
    rw [(hu.plain hb).1] at heq
    rcases hs.stands e he with ⟨hpath, -⟩ | ⟨hvacant, -⟩
    · exact hne (hpath.symm.trans heq)
    · rw [heq] at hvacant
      exact hvacant.find bytes ((hs.alike.find path).symm.trans hfile)
  | true =>
    obtain ⟨-, -, hfresh, hvacant, -⟩ := hu.copied hb
    rw [← heq] at hfresh hvacant
    rcases hs.stands e he with ⟨hpath, bytes, hfile⟩ | ⟨-, hmem⟩
    · rw [hpath] at hvacant
      exact (hvacant.of_alike hs.alike).find bytes hfile
    · exact hfresh hmem

/-- No two units are compiled from one file. -/
theorem compilePaths_nodup (hs : Scans settings h found h') (hn : (found.map Prod.fst).Nodup) :
    (found.map fun e => e.2.compilePath).Nodup := by
  induction hs with
  | nil => exact List.nodup_nil
  | quiet _ _ ih => exact ih hn
  | @scan found h₁ h₂ path u hs hu ih =>
    obtain ⟨f, hu⟩ := scan_ok hu
    rw [List.map_append, List.nodup_append] at hn
    rw [List.map_append, List.nodup_append]
    refine ⟨ih hn.1, List.nodup_singleton _, ?_⟩
    intro p hp q hq
    obtain ⟨e, he, rfl⟩ := List.mem_map.mp hp
    obtain rfl : q = u.compilePath := by simpa using hq
    exact hs.compilePath_ne hu he (hn.2.2 e.1 (List.mem_map_of_mem he) path (by simp))

end Scans

end BraceScript.Source

namespace BraceScript.Lowering

open Syntax

/-! ## The files that the compiler names -/

theorem leafFinding_file {file : String} {s : Scope} {l : Leaf} {d : Diagnostic}
    (h : leafFinding file s l = some (.problem d)) : d.file = some file := by
  cases l with
  | name t =>
    simp only [leafFinding] at h
    split at h
    · cases h
      rfl
    · cases h
  | number t =>
    simp only [leafFinding] at h
    split at h <;> cases h

theorem leavesFindings_file {file : String} {s : Scope} {ls : List Leaf} {d : Diagnostic}
    (h : Finding.problem d ∈ ls.filterMap (leafFinding file s)) : d.file = some file := by
  obtain ⟨l, -, hl⟩ := List.mem_filterMap.mp h
  exact leafFinding_file hl

theorem memberFindings_file {file : String} {names : ClassNames} {isFirst : Bool} {m : Member}
    {d : Diagnostic} (h : Finding.problem d ∈ memberFindings file names isFirst m) :
    d.file = some file := by
  cases m with
  | field ms d' => exact leavesFindings_file h
  | method ms t n ps b => exact leavesFindings_file h
  | constructor ms n ps b =>
    simp only [memberFindings] at h
    split at h
    · rcases List.mem_append.mp h with h | h
      · split at h
        · cases h
        · rw [List.mem_singleton] at h
          cases h
          rfl
      · exact leavesFindings_file h
    · cases h

theorem membersFindings_file {file : String} {names : ClassNames} {seen : Bool}
    {ms : List Member} {d : Diagnostic}
    (h : Finding.problem d ∈ membersFindings file names seen ms) : d.file = some file := by
  induction ms generalizing seen with
  | nil => cases h
  | cons m ms ih =>
    rcases List.mem_append.mp h with h | h
    · exact memberFindings_file h
    · exact ih h

theorem classFindings_file {file : String} {c : ClassDecl} {d : Diagnostic}
    (h : Finding.problem d ∈ classFindings file c) : d.file = some file := by
  rcases List.mem_append.mp h with h | h
  · obtain ⟨⟨shown, t⟩, -, ht⟩ := List.mem_map.mp h
    cases ht
    rfl
  · exact membersFindings_file h

theorem settleFindings_file {file : String} {fs : List Finding}
    (hfs : ∀ d, Finding.problem d ∈ fs → d.file = some file) :
    ∀ d ∈ (settleFindings file fs).1, d.file = some file := by
  induction fs with
  | nil => simp [settleFindings]
  | cons f fs ih =>
    intro d hd
    cases f with
    | problem p =>
      rcases List.mem_cons.mp hd with rfl | hd
      · exact hfs d (List.mem_cons_self ..)
      · exact ih (fun d hd => hfs d (List.mem_cons_of_mem _ hd)) d hd
    | hugeNumber n =>
      obtain rfl := List.mem_singleton.mp hd
      rfl

theorem classesCode_sourcePath {file : String} {n : Nat} {cs : List ClassDecl} :
    ∀ t ∈ classesCode file n cs, t.sourcePath = file := by
  induction cs generalizing n with
  | nil => simp [classesCode]
  | cons c cs ih =>
    intro t ht
    rcases List.mem_cons.mp ht with rfl | ht
    · rfl
    · exact ih t ht

theorem lowerFile_file (file : String) (f : SourceFile) :
    (∀ t ∈ (lowerFile file f).1, t.sourcePath = file)
      ∧ ∀ d ∈ (lowerFile file f).2, d.file = some file := by
  constructor
  · intro t ht
    simp only [lowerFile] at ht
    split at ht
    · exact classesCode_sourcePath t ht
    · cases ht
  · refine settleFindings_file fun d hd => ?_
    obtain ⟨c, -, hc⟩ := List.mem_flatMap.mp hd
    exact classFindings_file hc

end BraceScript.Lowering

namespace BraceScript

/-- A diagnostic that concerns one of the files, or no file. -/
def Diagnostic.Among (files : List String) (d : Diagnostic) : Prop :=
  ∀ p, d.file = some p → p ∈ files

theorem Diagnostic.Among.of_file {files : List String} {d : Diagnostic} {p : String}
    (hd : d.file = some p) (hp : p ∈ files) : d.Among files := by
  intro q hq
  rw [hd] at hq
  cases hq
  exact hp

theorem Problem.nowhere_among (p : Problem) (files : List String) : p.nowhere.Among files :=
  fun _ h => nomatch h

namespace Program

open Source
open Lowering (TypeDecl)

/-- Types that come from files, and diagnostics among these files. -/
structure FromFiles (files : List String) (r : List TypeDecl × List Diagnostic) : Prop where
  types : ∀ t ∈ r.1, t.sourcePath ∈ files
  problems : ∀ d ∈ r.2, d.Among files

theorem FromFiles.append {files : List String} {r s : List TypeDecl × List Diagnostic}
    (hr : FromFiles files r) (hs : FromFiles files s) :
    FromFiles files (r.1 ++ s.1, r.2 ++ s.2) where
  types := fun t ht => (List.mem_append.mp ht).elim (hr.types t) (hs.types t)
  problems := fun d hd => (List.mem_append.mp hd).elim (hr.problems d) (hs.problems d)

theorem FromFiles.mono {files more : List String} {r : List TypeDecl × List Diagnostic}
    (hr : FromFiles files r) (hm : files ⊆ more) : FromFiles more r where
  types := fun t ht => hm (hr.types t ht)
  problems := fun d hd p hp => hm (hr.problems d hd p hp)

theorem syntaxDiagnostic_file (path : String) (text : List Char) (e : Syntax.SyntaxError) :
    (syntaxDiagnostic path text e).file = some path := by
  cases e <;> rfl

theorem lowerText_fromFiles (path : String) (text : List Char) :
    FromFiles [path] (lowerText path text) := by
  have hself : path ∈ [path] := List.mem_singleton.mpr rfl
  unfold lowerText
  split
  · next e _ =>
    refine ⟨by simp, fun d hd => ?_⟩
    obtain rfl := List.mem_singleton.mp hd
    exact .of_file (syntaxDiagnostic_file path text e) hself
  · next f _ =>
    obtain ⟨htypes, hproblems⟩ := Lowering.lowerFile_file path f
    refine ⟨fun t ht => ?_, fun d hd => .of_file (hproblems d hd) hself⟩
    rw [htypes t ht]
    exact hself

theorem unreadable_fromFiles (path reason : String) (files : List String) :
    FromFiles files (unreadable path reason) := by
  refine ⟨by simp [unreadable], fun d hd => ?_⟩
  obtain rfl := List.mem_singleton.mp hd
  exact Problem.nowhere_among _ files

theorem compileFile_fromFiles {encoding path : String} {h h' : Host}
    {r : List TypeDecl × List Diagnostic} (hr : compileFile encoding path h = (.ok r, h')) :
    FromFiles [path] r := by
  obtain ⟨found, h₁, -, hr⟩ := Act.bind_eq_ok.mp hr
  cases found with
  | file bytes =>
    obtain ⟨e, h₂, -, hr⟩ := Act.bind_eq_ok.mp hr
    cases hcs : e.decode bytes with
    | error err =>
      simp only [hcs] at hr
      cases hr
      exact unreadable_fromFiles ..
    | ok cs =>
      simp only [hcs] at hr
      cases hr
      exact lowerText_fromFiles ..
  | invalid => cases hr
  | directory | missing | notDirectory | tooLong =>
    cases hr
    exact unreadable_fromFiles ..

theorem compileFiles_fromFiles {encoding : String} {paths : List String} {h h' : Host}
    {r : List TypeDecl × List Diagnostic} (hr : compileFiles encoding paths h = (.ok r, h')) :
    FromFiles paths r := by
  induction paths generalizing h r with
  | nil =>
    cases hr
    exact ⟨by simp, by simp⟩
  | cons p ps ih =>
    obtain ⟨_, h₁, -, hr⟩ := Act.bind_eq_ok.mp hr
    obtain ⟨s, h₂, hs, hr⟩ := Act.bind_eq_ok.mp hr
    obtain ⟨ss, h₃, hss, hr⟩ := Act.bind_eq_ok.mp hr
    cases hr
    have hone := (compileFile_fromFiles hs).mono (List.cons_subset_cons p (List.nil_subset ps))
    exact hone.append ((ih hss).mono (List.subset_cons_self p ps))

theorem loadLibraries_among (files : List String) {seen : List String} {bound : Libraries}
    {problems : List Diagnostic} {refs : List String} {h h' : Host}
    {r : Libraries × List Diagnostic} (hp : ∀ d ∈ problems, d.Among files)
    (hr : loadLibraries seen bound problems refs h = (.ok r, h')) : ∀ d ∈ r.2, d.Among files := by
  induction refs generalizing seen bound problems h with
  | nil =>
    cases hr
    exact hp
  | cons ref refs ih =>
    unfold loadLibraries at hr
    split at hr
    · exact ih hp hr
    · obtain ⟨l, h₁, -, hr⟩ := Act.bind_eq_ok.mp hr
      split at hr
      · refine ih (fun d hd => ?_) hr
        rcases List.mem_append.mp hd with hd | hd
        · exact hp d hd
        · obtain rfl := List.mem_singleton.mp hd
          exact Problem.nowhere_among _ files
      · obtain ⟨_, h₂, -, hr⟩ := Act.bind_eq_ok.mp hr
        exact ih hp hr

/-! ## The order of types -/

theorem problemAt_among {files : List String} (p : Problem) {d : TypeDecl}
    (hd : d.sourcePath ∈ files) : (problemAt p d).Among files :=
  .of_file rfl hd

theorem dropRepeated_fromFiles {files : List String} {kept ds : List TypeDecl}
    (hk : ∀ t ∈ kept, t.sourcePath ∈ files) (hd : ∀ t ∈ ds, t.sourcePath ∈ files) :
    FromFiles files (dropRepeated kept ds) := by
  induction ds generalizing kept with
  | nil => exact ⟨hk, by simp [dropRepeated]⟩
  | cons d ds ih =>
    obtain ⟨hone, hrest⟩ := List.forall_mem_cons.mp hd
    unfold dropRepeated
    split
    · obtain ⟨htypes, hproblems⟩ := ih hk hrest
      exact ⟨htypes, List.forall_mem_cons.mpr ⟨problemAt_among _ hone, hproblems⟩⟩
    · refine ih (fun t ht => ?_) hrest
      rcases List.mem_append.mp ht with ht | ht
      · exact hk t ht
      · rwa [List.mem_singleton.mp ht]

theorem climb_fromFiles {files : List String} {types chain : List TypeDecl} {d : TypeDecl}
    (isKnown : String → Bool) (done : List String) (n : Nat)
    (ht : ∀ t ∈ types, t.sourcePath ∈ files) (hc : ∀ t ∈ chain, t.sourcePath ∈ files)
    (hd : d.sourcePath ∈ files) :
    FromFiles files ((climb types isKnown done chain d n).1,
      (climb types isKnown done chain d n).2.toList) := by
  have hchain : ∀ t ∈ d :: chain, t.sourcePath ∈ files := List.forall_mem_cons.mpr ⟨hd, hc⟩
  have hone : ∀ p : Problem, ∀ e ∈ [problemAt p d], e.Among files := by
    intro p e he
    obtain rfl := List.mem_singleton.mp he
    exact problemAt_among p hd
  induction n generalizing chain d with
  | zero => exact ⟨hchain, by simp [climb]⟩
  | succ n ih =>
    unfold climb
    split
    · exact ⟨hchain, by simp⟩
    · split
      · refine ⟨hchain, ?_⟩
        split
        · simp
        · exact hone _
      · next base hbase =>
        have hfile := ht base (List.mem_of_find?_eq_some hbase)
        split
        · exact ⟨hchain, by simp⟩
        · split
          · refine ⟨hchain, fun e he => ?_⟩
            obtain rfl := List.mem_singleton.mp he
            exact problemAt_among _ hfile
          · refine ih hchain hfile (List.forall_mem_cons.mpr ⟨hfile, hchain⟩) fun p e he => ?_
            obtain rfl := List.mem_singleton.mp he
            exact problemAt_among p hfile

theorem placeTypes_fromFiles {files : List String} {types placed ds : List TypeDecl}
    (isKnown : String → Bool) (ht : ∀ t ∈ types, t.sourcePath ∈ files)
    (hp : ∀ t ∈ placed, t.sourcePath ∈ files) (hd : ∀ t ∈ ds, t.sourcePath ∈ files) :
    FromFiles files (placeTypes types isKnown placed ds) := by
  induction ds generalizing placed with
  | nil => exact ⟨hp, by simp [placeTypes]⟩
  | cons d ds ih =>
    obtain ⟨hone, hrest⟩ := List.forall_mem_cons.mp hd
    simp only [placeTypes]
    split
    · exact ih hp hrest
    · obtain ⟨hchain, hproblem⟩ := climb_fromFiles isKnown (placed.map (·.name)) types.length ht
        (List.forall_mem_nil _) hone
      obtain ⟨htypes, hproblems⟩ :=
        ih (fun t ht => (List.mem_append.mp ht).elim (hp t) (hchain t)) hrest
      exact ⟨htypes, fun e he => (List.mem_append.mp he).elim (hproblem e) (hproblems e)⟩

theorem orderTypes_fromFiles {files : List String} {decls : List TypeDecl}
    (isLibrary : String → Bool) (hd : ∀ t ∈ decls, t.sourcePath ∈ files) :
    FromFiles files (orderTypes decls isLibrary) := by
  obtain ⟨htypes, hrepeated⟩ := dropRepeated_fromFiles (List.forall_mem_nil _) hd
  obtain ⟨hordered, hproblems⟩ :=
    placeTypes_fromFiles (fun b => isPredefined b || isLibrary b) htypes (List.forall_mem_nil _)
      htypes
  exact ⟨hordered, fun e he => (List.mem_append.mp he).elim (hrepeated e) (hproblems e)⟩

theorem checkTypes_among {files : List String} {ds : List TypeDecl} {h h' : Host}
    {r : List TypeDecl × List Diagnostic} (hd : ∀ t ∈ ds, t.sourcePath ∈ files)
    (hr : checkTypes ds h = (.ok r, h')) : ∀ d ∈ r.2, d.Among files := by
  induction ds generalizing h h' r with
  | nil =>
    cases hr
    simp
  | cons d ds ih =>
    obtain ⟨hone, hrest⟩ := List.forall_mem_cons.mp hd
    unfold checkTypes at hr
    extract_lets rest at hr
    split at hr
    · obtain ⟨_, _, hthrow, -⟩ := Act.bind_eq_ok.mp hr
      cases hthrow
    · obtain ⟨s, h₁, hs, hr⟩ := Act.bind_eq_ok.mp hr
      have hproblems := ih hrest hs
      cases hfault : d.code.fault? with
      | none =>
        simp only [hfault] at hr
        cases hr
        exact hproblems
      | some fault =>
        simp only [hfault] at hr
        cases hr
        exact List.forall_mem_cons.mpr ⟨problemAt_among _ hone, hproblems⟩

/-- The compiler names only files that it was given. -/
theorem compile_among {encoding : String} {sources references : List String} {h h' : Host}
    {ds : List Diagnostic} (hr : compile encoding sources references h = (.ok (.error ds), h')) :
    ∀ d ∈ ds, d.Among sources := by
  obtain ⟨files, h₁, hfiles, hr⟩ := Act.bind_eq_ok.mp hr
  obtain ⟨libraries, h₂, hlibraries, hr⟩ := Act.bind_eq_ok.mp hr
  obtain ⟨checked, h₃, hchecked, hr⟩ := Act.bind_eq_ok.mp hr
  obtain ⟨hdecls, hfound⟩ := compileFiles_fromFiles hfiles
  have hmissing := loadLibraries_among sources (by simp) hlibraries
  obtain ⟨hordered, hmisplaced⟩ := orderTypes_fromFiles libraries.1.has hdecls
  have hbroken := checkTypes_among hordered hchecked
  simp only at hr
  split at hr
  · cases hr
  · obtain ⟨_, h₄, -, hr⟩ := Act.bind_eq_ok.mp hr
    cases hr
    intro d hd
    rcases List.mem_append.mp hd with hd | hd
    · rcases List.mem_append.mp hd with hd | hd
      · rcases List.mem_append.mp hd with hd | hd
        · exact hfound d hd
        · exact hmissing d hd
      · exact hmisplaced d hd
    · exact hbroken d hd

/-! ## The report -/

end Program

/-- The line that reports a diagnostic at a line of a file. -/
def Diagnostic.lineAt (d : Diagnostic) (path : String) (line : Nat) : String :=
  path ++ "(" ++ toString line ++ "," ++ toString d.column ++ ") : "
    ++ ("error " ++ d.code ++ ": " ++ d.message)

/-- A diagnostic is reported for the first unit whose compiled file is spelled alike. -/
theorem Diagnostic.format_of_first {d : Diagnostic} {p : String}
    {units before after : List Source.SourceUnit} {v : Source.SourceUnit} (hd : d.file = some p)
    (hunits : units = before ++ v :: after) (hv : Text.lower v.compilePath = Text.lower p)
    (hb : ∀ w ∈ before, Text.lower w.compilePath ≠ Text.lower p) :
    d.format units = d.lineAt v.sourcePath (d.line + v.lineOffset) := by
  have howner : d.owner? units = some v := by
    unfold owner?
    rw [hd, Option.bind_some, List.find?_eq_some_iff_append]
    refine ⟨by rw [hv, beq_self_eq_true], before, after, hunits, fun w hw => ?_⟩
    simpa using hb w hw
  unfold format location?
  rw [hd]
  simp only [Option.map_some, howner]
  rfl

/-- The first unit of a row whose compiled file is spelled like that of a unit of the row. -/
theorem exists_first_alike {units : List Source.SourceUnit} {u : Source.SourceUnit}
    (hu : u ∈ units) :
    ∃ before v after, units = before ++ v :: after
      ∧ Text.lower v.compilePath = Text.lower u.compilePath
      ∧ (∀ w ∈ before, Text.lower w.compilePath ≠ Text.lower u.compilePath)
      ∧ (v = u ∨ u ∈ after) := by
  induction units with
  | nil => cases hu
  | cons w ws ih =>
    by_cases hw : Text.lower w.compilePath = Text.lower u.compilePath
    · refine ⟨[], w, ws, rfl, hw, by simp, ?_⟩
      rcases List.mem_cons.mp hu with rfl | hu
      · exact .inl rfl
      · exact .inr hu
    · rcases List.mem_cons.mp hu with rfl | hu
      · exact absurd rfl hw
      · obtain ⟨before, v, after, rfl, hv, hbefore, hend⟩ := ih hu
        exact ⟨w :: before, v, after, rfl, hv, List.forall_mem_cons.mpr ⟨hw, hbefore⟩, hend⟩

namespace Program

open Source

/-- What the compiler says about the units of a resolution. -/
def compiled (config : Config) (r : Resolution) (h : Host) :
    Except Failure (Except (List Diagnostic) Program) :=
  let refs := references (config.defaultReferences.map (·.string)) r.units
  (compile config.encoding.string (r.units.map (·.compilePath)) refs
    (tell (.compilingAll r.size refs) h).2).1

theorem compileUnits_error {config : Config} {r : Resolution} {h h' : Host} {ls : List String}
    (hr : compileUnits config r h = (.ok (.error ls), h')) :
    ∃ ds, compiled config r h = .ok (.error ds) ∧ (∀ d ∈ ds, d.Among (r.units.map (·.compilePath)))
      ∧ ls = ds.map (·.format r.units) := by
  unfold compileUnits at hr
  rw [Act.bind_of_ok (tell_apply _ _)] at hr
  obtain ⟨result, h₂, hcompile, hr⟩ := Act.bind_eq_ok.mp hr
  cases result with
  | ok p => cases hr
  | error ds =>
    cases hr
    exact ⟨ds, congrArg Prod.fst hcompile, compile_among hcompile, rfl⟩

/-- When a compilation ends with diagnostics, each of them concerns no file or the compiled file of
a unit, and all compiled files and all sources of the units are different. The report of a
diagnostic for a unit `u` names the source of the first unit `v` whose compiled file is spelled
like that of `u` up to the case of letters, at the line that the source has there. So it names `u`
itself and nothing else, unless an earlier unit differs from it in case only. -/
theorem compileProgram_reports {config : Config} {entry : String} {h h₁ h₂ : Host}
    {r : Resolution} {ls : List String}
    (hr : resolve ⟨config.tempDir.map (·.string), config.encoding.string⟩ .empty entry h
      = ((r, .ok ()), h₁))
    (hc : compileProgram config entry h = (.ok (.error ls), h₂)) :
    ∃ ds, compiled config r h₁ = .ok (.error ds) ∧ ls = ds.map (·.format r.units)
      ∧ (r.units.map (·.compilePath)).Nodup ∧ (r.units.map (·.sourcePath)).Nodup
      ∧ (∀ d ∈ ds, d.file = none ∨ ∃ u ∈ r.units, d.file = some u.compilePath)
      ∧ ∀ d ∈ ds, ∀ u ∈ r.units, d.file = some u.compilePath →
        ∃ before v after, r.units = before ++ v :: after
          ∧ Text.lower v.compilePath = Text.lower u.compilePath
          ∧ (∀ w ∈ before, Text.lower w.compilePath ≠ Text.lower u.compilePath)
          ∧ d.format r.units = d.lineAt v.sourcePath (d.line + v.lineOffset)
          ∧ (v = u ∨ (u ∈ after ∧ v.compilePath ≠ u.compilePath)) := by
  obtain ⟨⟨h₃, hscans, -⟩, -, -⟩ := resolveWithin_spec (resolve_apply.symm.trans hr)
  have hpaths : (r.units.map (·.compilePath)).Nodup := by
    have heq : r.units.map (·.compilePath) = r.entries.map fun e => e.2.compilePath :=
      List.map_map
    rw [heq]
    exact hscans.compilePaths_nodup r.nodup
  have hsources : (r.units.map (·.sourcePath)).Nodup := by
    have heq : r.units.map (·.sourcePath) = r.entries.map Prod.fst := by
      unfold Resolution.units
      rw [List.map_map]
      exact List.map_congr_left fun e he => hscans.sourcePaths e he
    rw [heq]
    exact r.nodup
  rcases hunits : compileUnits config r h₁ with ⟨result, h₄⟩
  have hrun : (compileUnits config r).run h₁ = (result, h₄) := hunits
  simp only [compileProgram, StateT.run, hr, hrun] at hc
  obtain rfl : result = .ok (.error ls) := congrArg Prod.fst hc
  obtain ⟨ds, hcompiled, hamong, rfl⟩ := compileUnits_error hunits
  refine ⟨ds, hcompiled, rfl, hpaths, hsources, ?_, ?_⟩
  · intro d hd
    cases hfile : d.file with
    | none => exact .inl rfl
    | some p =>
      obtain ⟨u, hu, rfl⟩ := List.mem_map.mp (hamong d hd p hfile)
      exact .inr ⟨u, hu, rfl⟩
  · intro d _ u hu hfile
    obtain ⟨before, v, after, hsplit, hv, hbefore, hend⟩ := exists_first_alike hu
    refine ⟨before, v, after, hsplit, hv, hbefore, ?_, ?_⟩
    · exact d.format_of_first hfile hsplit hv hbefore
    · -- An earlier unit is spelled differently, since no two units share a compiled file.
      refine hend.imp_right fun hafter => ⟨hafter, fun heq => ?_⟩
      rw [hsplit, List.map_append, List.nodup_append, List.map_cons, List.nodup_cons, heq]
        at hpaths
      exact hpaths.2.1.1 (List.mem_map_of_mem hafter)

/-- Why there is no result. -/
def refusal? {ε α : Type} : Except Failure (Except ε α) → Option ε
  | .ok (.error e) => some e
  | _ => none

theorem refusal?_eq_some {ε α : Type} {r : Except Failure (Except ε α)} {e : ε} :
    refusal? r = some e ↔ r = .ok (.error e) := by
  constructor
  · intro h
    match r with
    | .ok (.error e') =>
      cases h
      rfl
    | .ok (.ok _) => cases h
    | .error _ => cases h
  · rintro rfl
    rfl

/-- A file that includes another one, which has a metadata block and two members of one name. -/
def repeatedHost : Host where
  tree := ⟨[(["a.cs"], .file (Text.encodeUtf8 "//#include b.cs\nclass A \x7b \x7d\n".toList)),
    (["b.cs"], .file (Text.encodeUtf8
      "::\x7b\n\x7d::\n\n// c\nclass B \x7b\n int x;\n int x; \x7d\n".toList))]⟩
  cwd := "/"
  home := "/"
  tempDir := "/"
  copies := []
  named := 0
  notices := []
  asked := []

theorem compileProgram_reports_repeated :
    ∃ (d : Diagnostic) (u : SourceUnit), u = ⟨"/b.cs", "/csrun-00000000.cs", 4, [], []⟩
      ∧ d.file = some u.compilePath ∧ d.line = 3
      ∧ (compileProgram .default "a.cs" repeatedHost).1
        = .ok (.error [d.lineAt u.sourcePath (d.line + u.lineOffset)]) := by
  let u₁ : SourceUnit := ⟨"/a.cs", "/a.cs", 0, ["/b.cs"], []⟩
  let u₂ : SourceUnit := ⟨"/b.cs", "/csrun-00000000.cs", 4, [], []⟩
  let d : Diagnostic := (Problem.duplicateMember "B" "x").at "/csrun-00000000.cs" ⟨3, 6⟩
  let settings : Settings :=
    ⟨Config.default.tempDir.map (·.string), Config.default.encoding.string⟩
  have hok : (resolve settings .empty "a.cs" repeatedHost).1.2 = .ok () := by decide +kernel
  have hunits : (resolve settings .empty "a.cs" repeatedHost).1.1.units = [u₁, u₂] := by
    decide +kernel
  have hds : refusal? (compiled .default (resolve settings .empty "a.cs" repeatedHost).1.1
      (resolve settings .empty "a.cs" repeatedHost).2) = some [d] := by
    decide +kernel
  have hls : (refusal? (compileProgram .default "a.cs" repeatedHost).1).isSome := by
    decide +kernel
  obtain ⟨ls, hls⟩ := Option.isSome_iff_exists.mp hls
  rw [refusal?_eq_some] at hds hls
  rcases hr : resolve settings .empty "a.cs" repeatedHost with ⟨⟨r, resolved⟩, h₁⟩
  rcases hc : compileProgram .default "a.cs" repeatedHost with ⟨result, h₂⟩
  rw [hr] at hok hunits hds
  rw [hc] at hls
  obtain rfl : resolved = .ok () := hok
  obtain rfl : result = .ok (.error ls) := hls
  obtain ⟨ds, hcompiled, rfl, -, -, -, howner⟩ := compileProgram_reports hr hc
  obtain rfl : [d] = ds := by
    rw [hds] at hcompiled
    exact Except.error.inj (Except.ok.inj hcompiled)
  rw [hunits] at howner
  obtain ⟨before, v, after, hsplit, hv, -, hline, -⟩ :=
    howner d (List.mem_singleton.mpr rfl) u₂ (by simp) rfl
  have hmem : v = u₁ ∨ v = u₂ := by
    have h : v ∈ [u₁, u₂] := by
      rw [hsplit]
      simp
    simpa using h
  obtain rfl : v = u₂ := by
    refine hmem.resolve_left fun h => ?_
    rw [h] at hv
    exact absurd hv (by decide +kernel)
  refine ⟨d, u₂, rfl, rfl, rfl, ?_⟩
  rw [List.map_singleton, hunits, hline]

/-- Two files whose names differ in case only; the first one includes the second, which has two
members of one name. -/
def twinHost : Host where
  tree := ⟨[(["A.cs"], .file (Text.encodeUtf8 "//#include a.cs\nclass A \x7b \x7d\n".toList)),
    (["a.cs"], .file (Text.encodeUtf8 "class B \x7b int x; int x; \x7d\n".toList))]⟩
  cwd := "/"
  home := "/"
  tempDir := "/"
  copies := []
  named := 0
  notices := []
  asked := []

/-- A diagnostic for the second one of the files is reported for the first one. -/
theorem twinHost_reports_other :
    ∃ r h₁ ds, resolve ⟨none, "utf-8-sig"⟩ .empty "A.cs" twinHost = ((r, .ok ()), h₁)
      ∧ compiled .default r h₁ = .ok (.error ds)
      ∧ (compileProgram .default "A.cs" twinHost).1 = .ok (.error (ds.map (·.format r.units)))
      ∧ ∃ d ∈ ds, ∃ u ∈ r.units, ∃ v ∈ r.units, d.file = some u.compilePath
        ∧ d.format r.units ≠ d.lineAt u.sourcePath (d.line + u.lineOffset)
        ∧ v ≠ u ∧ d.format r.units = d.lineAt v.sourcePath (d.line + v.lineOffset) := by
  let u : SourceUnit := ⟨"/a.cs", "/a.cs", 0, [], []⟩
  let v : SourceUnit := ⟨"/A.cs", "/A.cs", 0, ["/a.cs"], []⟩
  let d : Diagnostic := (Problem.duplicateMember "B" "x").at "/a.cs" ⟨1, 22⟩
  have hok : (resolve ⟨none, "utf-8-sig"⟩ .empty "A.cs" twinHost).1.2 = .ok () := by
    decide +kernel
  have hunits : (resolve ⟨none, "utf-8-sig"⟩ .empty "A.cs" twinHost).1.1.units = [v, u] := by
    decide +kernel
  refine ⟨_, _, [d], Prod.ext (Prod.ext rfl hok) rfl, ?_, ?_, d, List.mem_singleton.mpr rfl, u, ?_,
    v, ?_, rfl, ?_, ?_, ?_⟩
  · rw [← refusal?_eq_some]
    decide +kernel
  · rw [hunits, ← refusal?_eq_some]
    decide +kernel
  · rw [hunits]
    simp
  · rw [hunits]
    simp
  · rw [hunits]
    decide +kernel
  · decide
  · rw [hunits]
    decide +kernel

end Program

end BraceScript
