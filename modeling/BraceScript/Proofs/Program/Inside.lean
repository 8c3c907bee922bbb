import BraceScript.Proofs.Lowering.Placed
import BraceScript.Proofs.Program.Compile
import BraceScript.Proofs.Program.Outcome
import BraceScript.Proofs.Program.Report
import BraceScript.Proofs.Source.Origin
import Mathlib

/-!
# Reported places

Every problem stands at a character of a compiled text, or behind its last one
(`compile_placed`). A place of the compiled text is a place of the source file too, on the line
that is reported and no further to the left (`Origin.inside`). So the report of a problem points
inside of the file that the user wrote, if it names that file at all (`compileProgram_inside`). Only
the end of a copy can lie behind the end of a source that has no final line feed.
-/

namespace BraceScript

open Files Source Syntax
open Text (breakLines)

/-! ## Inside of a text -/

/-- A place inside of a text: on one of its lines, at a character of the line or behind the last
one. -/
def Inside (text : List Char) (p : Position) : Prop :=
  1 ≤ p.line ∧ p.line ≤ text.count '\n' + 1 ∧ 1 ≤ p.column
    ∧ p.column ≤ ((breakLines text).getD (p.line - 1) []).length + 1

instance (text : List Char) (p : Position) : Decidable (Inside text p) :=
  inferInstanceAs (Decidable (_ ∧ _ ∧ _ ∧ _))

/-- Further to the left on the same line. -/
theorem Inside.left {text : List Char} {line column : Nat} (h : Inside text ⟨line, column⟩)
    {n : Nat} (hn : 1 ≤ n) (hle : n ≤ column) : Inside text ⟨line, n⟩ :=
  ⟨h.1, h.2.1, hn, hle.trans h.2.2.2⟩

/-- The place behind a front of a text is inside of the text. -/
theorem inside_behind (front rest : List Char) : Inside (front ++ rest) (.behind front) := by
  -- a character in front moves the place as it moves the lines of the text
  induction front with
  | nil => exact ⟨le_refl 1, Nat.le_add_left 1 _, le_refl 1, Nat.le_add_left 1 _⟩
  | cons c front ih =>
    obtain ⟨hline, hlines, hcolumn, hcolumns⟩ := ih
    have hstep := Position.behind_append [c] front
    rw [List.singleton_append] at hstep
    rw [hstep, List.cons_append]
    generalize Position.behind front = p at *
    obtain ⟨n, hn⟩ := Nat.exists_eq_add_of_le' hline
    by_cases hc : c = '\n'
    · have hmoved : p.moved (['\n'].count '\n') (Text.lastLine ['\n']).length
          = ⟨p.line + 1, p.column⟩ := by simp [Position.moved, Text.lastLine]
      rw [hc, hmoved]
      refine ⟨Nat.le_add_left 1 _, ?_, hcolumn, ?_⟩
      · rw [List.count_cons_self]
        exact Nat.succ_le_succ hlines
      · rw [breakLines, if_pos rfl]
        rw [hn] at hcolumns ⊢
        exact hcolumns
    · have hmoved : p.moved ([c].count '\n') (Text.lastLine [c]).length
          = ⟨p.line, if p.line = 1 then p.column + 1 else p.column⟩ := by
        simp [Position.moved, Text.lastLine, hc]
      rw [hmoved]
      refine ⟨hline, ?_, ?_, ?_⟩
      · rwa [List.count_cons_of_ne hc]
      · dsimp only
        split <;> omega
      · rw [breakLines, if_neg hc]
        cases hb : breakLines (front ++ rest) with
        | nil => exact absurd hb (Text.breakLines_ne_nil _)
        | cons l ls =>
          rw [hb] at hcolumns
          cases n with
          | zero =>
            rw [hn] at hcolumns ⊢
            exact Nat.succ_le_succ hcolumns
          | succ n =>
            rw [hn] at hcolumns ⊢
            exact hcolumns

/-- A place of a compiled text is a place of the source, on the line that is reported and no
further to the left. The end of a copy is left out when the source has no final line feed. -/
theorem Source.Origin.inside {source text front before rest : List Char} {u : SourceUnit}
    (h : Origin source text front u) (htext : text = before ++ rest)
    (hrest : rest ≠ [] ∨ u.isCopied = false ∨ ['\n'] <:+ source) :
    Inside source
      ⟨(Position.behind before).line + u.lineOffset, (Position.behind before).column⟩ := by
  obtain ⟨rest', hsource⟩ : ∃ rest', source = front ++ before ++ rest' := by
    rcases h.whole with hwhole | ⟨hcopied, hfeed, hwhole⟩
    · exact ⟨rest, by rw [← hwhole, htext, List.append_assoc]⟩
    · rcases hrest with hrest | hplain | hends
      · obtain ⟨init, c, rfl⟩ := (List.eq_nil_or_concat rest).resolve_left hrest
        rw [htext, List.concat_eq_append, ← List.append_assoc, ← List.append_assoc] at hwhole
        exact ⟨init, (List.append_inj' hwhole rfl).1.symm⟩
      · rw [hcopied] at hplain
        cases hplain
      · exact absurd hends hfeed
  have hinside := inside_behind (front ++ before) rest'
  rw [← hsource, Position.behind_append] at hinside
  rw [h.offset]
  refine hinside.left (Nat.le_add_left 1 _) ?_
  split <;> omega

namespace Source

/-! ## What is compiled -/

/-- Copies stand where there are no files. -/
def CopiesApart (h : Host) : Prop := ∀ path bytes, h.find path = .file bytes →
  h.copies.lookup path = none

theorem CopiesApart.findCompiled {h : Host} (ha : CopiesApart h) {path : String} {bytes : Bytes}
    (hfile : h.find path = .file bytes) : h.findCompiled path = .file bytes := by
  unfold Host.findCompiled
  rw [ha path bytes hfile, hfile]

/-- Files and copies that can be read before a scan can be read behind it. -/
theorem Scanned.findCompiled_mono {settings : Settings} {path : String} {h h' : Host} {f : Front}
    {u : SourceUnit} (hu : Scanned settings path h f u h') {p : String} {bytes : Bytes}
    (hp : h.findCompiled p = .file bytes) : h'.findCompiled p = .file bytes := by
  unfold Host.findCompiled at hp ⊢
  rw [hu.alike.find]
  cases hb : f.leading.hasBlock with
  | false => rwa [(hu.plain hb).2]
  | true =>
    obtain ⟨-, -, -, hvacant, hcopies⟩ := hu.copied hb
    rw [hcopies, List.lookup_append]
    cases hl : h.copies.lookup p with
    | some content => rwa [hl] at hp
    | none =>
      rw [hl] at hp
      have hne : p ≠ u.compilePath := by
        rintro rfl
        exact hvacant.find bytes hp
      rw [Option.none_or, List.lookup_cons, beq_false_of_ne hne]
      exact hp

theorem Scanned.copiesApart {settings : Settings} {path : String} {h h' : Host} {f : Front}
    {u : SourceUnit} (hu : Scanned settings path h f u h') (ha : CopiesApart h) :
    CopiesApart h' := by
  intro p bytes hfile
  rw [hu.alike.find] at hfile
  cases hb : f.leading.hasBlock with
  | false =>
    rw [(hu.plain hb).2]
    exact ha p bytes hfile
  | true =>
    obtain ⟨-, -, -, hvacant, hcopies⟩ := hu.copied hb
    have hne : p ≠ u.compilePath := by
      rintro rfl
      exact hvacant.find bytes hfile
    rw [hcopies, List.lookup_append, ha p bytes hfile, Option.none_or, List.lookup_cons,
      beq_false_of_ne hne]
    rfl

/-- `Compiles settings h h' u`: a unit whose source is a file in `h` is compiled from a text that is
read in `h'`, and this is the text of the source without a front. -/
def Compiles (settings : Settings) (h h' : Host) (u : SourceUnit) : Prop :=
  ∃ source text front, ReadsAs settings.encoding (h.find u.sourcePath) source
    ∧ ReadsAs settings.encoding (h'.findCompiled u.compilePath) text ∧ Origin source text front u

/-- What every unit of a row of scans is compiled from. -/
theorem Scans.compiles {settings : Settings} {h h' : Host} {found : List (String × SourceUnit)}
    (hs : Scans settings h found h') (ha : CopiesApart h) :
    CopiesApart h' ∧ ∀ e ∈ found, Compiles settings h h' e.2 := by
  induction hs with
  | nil => exact ⟨ha, List.forall_mem_nil _⟩
  | @quiet found h₁ h₂ _ hq ih =>
    obtain ⟨hapart, hall⟩ := ih
    have hsame : h₂.findCompiled = h₁.findCompiled := funext (hq.alike.findCompiled hq.copies)
    refine ⟨fun p bytes hfile => ?_, fun e he => ?_⟩
    · rw [hq.copies]
      exact hapart p bytes (by rw [← hq.alike.find, hfile])
    · unfold Compiles
      rw [hsame]
      exact hall e he
  | @scan found h₁ h₂ path u hs hscan ih =>
    obtain ⟨hapart, hall⟩ := ih
    obtain ⟨f, hu⟩ := scan_ok hscan
    have hapart₂ := hu.copiesApart hapart
    refine ⟨hapart₂, fun e he => ?_⟩
    rcases List.mem_append.mp he with he | he
    · obtain ⟨source, text, front, hsource, htext, horigin⟩ := hall e he
      obtain ⟨bytes, enc, cs, hfile, hdecoded⟩ := htext
      exact ⟨source, text, front, hsource,
        ⟨bytes, enc, cs, hu.findCompiled_mono hfile, hdecoded⟩, horigin⟩
    · obtain rfl := List.mem_singleton.mp he
      obtain ⟨source, text, front, hsource, htext, horigin⟩ := scan_origin hscan
      refine ⟨source, text, front, ?_, ?_, horigin⟩
      · rw [hu.sourcePath, ← hs.alike.find]
        exact hsource
      · cases hcopied : u.isCopied with
        | true => exact htext hcopied
        | false =>
          -- a plain file is compiled as it stands
          obtain rfl : text = source := by
            rcases horigin.whole with hwhole | ⟨hcopy, -⟩
            · rwa [horigin.plain hcopied] at hwhole
            · rw [hcopied] at hcopy
              cases hcopy
          have hpath : u.compilePath = path := by
            rw [← hu.sourcePath]
            simpa [SourceUnit.isCopied] using hcopied
          obtain ⟨bytes, enc, cs, hfile, htext⟩ := hsource
          refine ⟨bytes, enc, cs, ?_, htext⟩
          rw [hpath]
          exact hapart₂.findCompiled (by rw [hu.alike.find, hfile])

end Source

namespace Program

open Lowering (TypeDecl)

/-! ## What is reported -/

variable {h : Host} {encoding : String} {sources references : List String}

theorem fileResult_of_readsAs {path : String} {text : List Char}
    (htext : ReadsAs encoding (h.findCompiled path) text) :
    fileResult h encoding path = lowerText path text := by
  obtain ⟨bytes, enc, cs, hfile, henc, hcs, rfl⟩ := htext
  unfold fileResult compileFile
  rw [Act.bind_of_ok (lookCompiled_apply path h), hfile]
  dsimp only
  unfold encodingOf
  rw [henc]
  dsimp only
  rw [Act.bind_of_ok (Act.pure_apply _ _), hcs]
  rfl

theorem fileResult_fromFiles (path : String) : FromFiles [path] (fileResult h encoding path) := by
  unfold fileResult
  split
  · next r hr => exact compileFile_fromFiles (Prod.ext hr rfl)
  · exact ⟨List.forall_mem_nil _, List.forall_mem_nil _⟩

/-- Only declarations are picked. -/
theorem filter_withFront_subset (decls : List TypeDecl) (q : List TypeDecl × TypeDecl → Bool) :
    ((withFront [] decls).filter q).map (·.2) ⊆ decls := by
  have hall := (List.filter_sublist (p := q) (l := withFront [] decls)).map (·.2)
  rw [map_withFront] at hall
  exact hall.subset

/-- A problem with the order of types is one with a type. -/
theorem exists_problemAt_of_orderTypes {decls : List TypeDecl} {isLibrary : String → Bool}
    {d : Diagnostic} (hd : d ∈ (orderTypes decls isLibrary).2) :
    ∃ t ∈ decls, ∃ p, d = problemAt p t := by
  have hsub := filter_withFront_subset decls
  obtain ⟨closing, harranged, -, hperm⟩ := orderTypes_spec decls isLibrary
  rcases List.mem_append.mp (hperm.subset hd) with hd | hd
  · rcases List.mem_append.mp hd with hd | hd
    · obtain ⟨t, ht, rfl⟩ := List.mem_map.mp hd
      exact ⟨t, hsub _ ht, _, rfl⟩
    · obtain ⟨t, ht, hunknown⟩ := List.mem_filterMap.mp hd
      obtain ⟨b, -, hproblem⟩ := Option.bind_eq_some_iff.mp hunknown
      split at hproblem
      · cases hproblem
      · cases hproblem
        exact ⟨t, hsub _ ht, _, rfl⟩
  · obtain ⟨e, he, rfl⟩ := List.mem_map.mp hd
    obtain ⟨-, hbase, -⟩ := harranged.closes e he
    exact ⟨e.2, hsub _ hbase.declared, _, rfl⟩

/-- A problem of a compilation concerns no file, or is one of a file, or is one with a class of a
file. -/
theorem compile_problems {ds : List Diagnostic}
    (hr : (compile encoding sources references h).1 = .ok (.error ds)) :
    ∀ d ∈ ds, d.file = none ∨ ∃ path ∈ sources, d ∈ (fileResult h encoding path).2
      ∨ ∃ t ∈ (fileResult h encoding path).1, ∃ p, d = problemAt p t := by
  have hfine : compileFailure? h encoding sources references = none := by
    rw [← compile_failure?, hr]
    rfl
  obtain ⟨hfiles, -, hnull⟩ := compileFailure?_eq_none_iff.mp hfine
  rcases hlibraries : (loadLibraries [] [] [] references h).1 with f | ⟨libraries, missing⟩
  · rw [compile_fst, compileFiles_of_fine hfiles, hlibraries] at hr
    cases hr
  have hclass {t : TypeDecl} (ht : t ∈ allClasses h encoding sources) (p : Problem) :
      ∃ path ∈ sources, problemAt p t ∈ (fileResult h encoding path).2
        ∨ ∃ t' ∈ (fileResult h encoding path).1, ∃ p', problemAt p t = problemAt p' t' := by
    obtain ⟨path, hpath, ht⟩ := List.mem_flatMap.mp ht
    exact ⟨path, hpath, .inr ⟨t, ht, p, rfl⟩⟩
  obtain ⟨-, -, hperm, -⟩ := orderTypes_spec (allClasses h encoding sources) libraries.has
  rw [compile_of_fine hfiles hlibraries hnull] at hr
  dsimp only at hr
  split at hr
  · cases hr
  · obtain rfl := Except.error.inj (Except.ok.inj hr)
    intro d hd
    -- the problems of files, of libraries, of the order of types and of broken code
    rcases List.mem_append.mp hd with hd | hd
    · rcases List.mem_append.mp hd with hd | hd
      · rcases List.mem_append.mp hd with hd | hd
        · obtain ⟨path, hpath, hd⟩ := List.mem_flatMap.mp hd
          exact .inr ⟨path, hpath, .inl hd⟩
        · refine .inl (Option.eq_none_iff_forall_ne_some.mpr fun p hp => ?_)
          exact List.not_mem_nil
            (loadLibraries_among [] (List.forall_mem_nil _) (Prod.ext hlibraries rfl) d hd p hp)
      · obtain ⟨t, ht, p, rfl⟩ := exists_problemAt_of_orderTypes hd
        exact .inr (hclass ht p)
    · obtain ⟨t, ht, hfault⟩ := List.mem_filterMap.mp hd
      obtain ⟨f, -, rfl⟩ := Option.map_eq_some_iff.mp hfault
      exact .inr (hclass (filter_withFront_subset _ _ (hperm.subset ht)) _)

/-- A problem with a file stands where the text of the file has a character, except for the problem
that the text ends too early, which stands behind its last character. -/
theorem compile_placed {ds : List Diagnostic}
    (hr : (compile encoding sources references h).1 = .ok (.error ds)) {d : Diagnostic}
    (hd : d ∈ ds) {file : String} (hfile : d.file = some file) :
    file ∈ sources ∧ ∀ text, ReadsAs encoding (h.findCompiled file) text →
      Occupied text ⟨d.line, d.column⟩
        ∨ d.code = "CR1003" ∧ (⟨d.line, d.column⟩ : Position) = .behind text := by
  rcases compile_problems hr d hd with hnone | ⟨path, hpath, hfound⟩
  · rw [hnone] at hfile
    cases hfile
  · obtain ⟨htypes, hproblems⟩ : FromFiles [path] (fileResult h encoding path) :=
      fileResult_fromFiles path
    rcases hfound with hfound | ⟨t, ht, p, rfl⟩
    · obtain rfl := List.mem_singleton.mp (hproblems d hfound file hfile)
      refine ⟨hpath, fun text htext => ?_⟩
      rw [fileResult_of_readsAs htext] at hfound
      exact (lowerText_placed file text).2 d hfound
    · obtain rfl := List.mem_singleton.mp (htypes t ht)
      obtain rfl := Option.some.inj hfile
      refine ⟨hpath, fun text htext => .inl ?_⟩
      rw [fileResult_of_readsAs htext] at ht
      exact (lowerText_placed _ text).1 t ht

/-- The unit of a compiled file is found unless an earlier one is spelled alike. -/
theorem owner?_of_first {d : Diagnostic} {units before after : List SourceUnit} {u : SourceUnit}
    (hfile : d.file = some u.compilePath) (hunits : units = before ++ u :: after)
    (hbefore : ∀ v ∈ before, Text.lower v.compilePath ≠ Text.lower u.compilePath) :
    d.owner? units = some u := by
  unfold Diagnostic.owner?
  rw [hfile, Option.bind_some, List.find?_eq_some_iff_append]
  exact ⟨beq_self_eq_true _, before, after, hunits, fun v hv => by simpa using hbefore v hv⟩

/-- Once everything is resolved, exactly what the compiler says is reported. -/
theorem compileProgram_eq_error_iff {config : Config} {entry : String} {h h₁ : Host}
    {r : Resolution} {ls : List String}
    (hr : resolve config.settings .empty entry h = ((r, .ok ()), h₁)) :
    (compileProgram config entry h).1 = .ok (.error ls)
      ↔ ∃ ds, compiled config r h₁ = .ok (.error ds) ∧ ls = ds.map (·.format r.units) := by
  have hunits : (compileProgram config entry h).1 = (compileUnits config r h₁).1 := by
    unfold Config.settings at hr
    simp only [compileProgram, StateT.run, hr]
    rfl
  rw [hunits]
  constructor
  · intro hls
    obtain ⟨ds, hcompiled, -, hlines⟩ := compileUnits_error (Prod.ext hls rfl)
    exact ⟨ds, hcompiled, hlines⟩
  · rintro ⟨ds, hcompiled, rfl⟩
    simp only [compiled, tell_apply] at hcompiled
    unfold compileUnits
    rw [Act.bind_of_ok (tell_apply _ _), Act.bind_of_ok (Prod.ext hcompiled rfl)]
    rfl

/-- When a compilation ends with diagnostics, each one that is reported for a file is about the
compiled file of a unit. If no earlier unit is spelled like that up to the case of letters, the
report names the source of the unit and a place inside of it. Only for the end of a copy whose
source has no final line feed nothing is said about the place. -/
theorem compileProgram_inside {config : Config} {entry : String} {h h₁ h₂ : Host} {r : Resolution}
    {ls : List String} (hapart : CopiesApart h)
    (hr : resolve config.settings .empty entry h = ((r, .ok ()), h₁))
    (hc : compileProgram config entry h = (.ok (.error ls), h₂)) :
    ∃ ds, compiled config r h₁ = .ok (.error ds) ∧ ls = ds.map (·.format r.units)
      ∧ ∀ d ∈ ds, ∀ l, d.location? r.units = some l →
        ∃ before u after, r.units = before ++ u :: after ∧ d.file = some u.compilePath
          ∧ ((∀ v ∈ before, Text.lower v.compilePath ≠ Text.lower u.compilePath) →
            l.path = u.sourcePath
            ∧ ∃ source, ReadsAs config.encoding.string (h.find u.sourcePath) source
              ∧ (Inside source ⟨l.line, l.column⟩
                ∨ d.code = "CR1003" ∧ u.isCopied = true ∧ ¬['\n'] <:+ source)) := by
  obtain ⟨ds, hcompiled, hlines⟩ := (compileProgram_eq_error_iff hr).mp (congrArg Prod.fst hc)
  obtain ⟨⟨h₃, hscans, hcopies⟩, halike, -⟩ := resolveWithin_spec (resolve_apply.symm.trans hr)
  obtain ⟨-, hcompiles⟩ := hscans.compiles hapart
  refine ⟨ds, hcompiled, hlines, fun d hd l hl => ?_⟩
  obtain ⟨file, hfile⟩ : ∃ file, d.file = some file := by
    cases hfile : d.file with
    | some file => exact ⟨file, rfl⟩
    | none =>
      unfold Diagnostic.location? at hl
      rw [hfile] at hl
      cases hl
  obtain ⟨hmem, hplaced⟩ := compile_placed hcompiled hd hfile
  obtain ⟨u, hu, rfl⟩ := List.mem_map.mp hmem
  obtain ⟨before, after, hunits⟩ := List.append_of_mem hu
  refine ⟨before, u, after, hunits, hfile, fun hbefore => ?_⟩
  have howner := owner?_of_first hfile hunits hbefore
  obtain rfl := Option.some.inj ((Diagnostic.location?_of_owner howner).symm.trans hl)
  obtain ⟨e, he, rfl⟩ := List.mem_map.mp hu
  obtain ⟨source, text, front, hsource, htext, horigin⟩ := hcompiles e he
  refine ⟨rfl, source, hsource, ?_⟩
  -- the text is the same when the units are compiled: the resolution keeps the copies till then
  have hsame : (compiling config r h₁).findCompiled e.2.compilePath
      = h₃.findCompiled e.2.compilePath :=
    ((hscans.alike.symm.trans halike).trans ((tell_keeps _).alike h₁)).findCompiled hcopies _
  rcases hplaced text (hsame ▸ htext) with ⟨pre, c, rest, hsplit, hplace⟩ | ⟨hcode, hplace⟩
  · have hinside := horigin.inside hsplit (.inl (List.cons_ne_nil c rest))
    rw [← hplace] at hinside
    exact .inl hinside
  · by_cases hend : e.2.isCopied = false ∨ ['\n'] <:+ source
    · have hinside := horigin.inside (List.append_nil text).symm (.inr hend)
      rw [← hplace] at hinside
      exact .inl hinside
    · rw [not_or, Bool.not_eq_false] at hend
      exact .inr ⟨hcode, hend⟩

/-- A run that is known by its parts: the units that are resolved, and the diagnostics with which
their compilation ends. -/
theorem exists_run_of {config : Config} {entry : String} {h : Host} {units : List SourceUnit}
    {ds : List Diagnostic} (hok : (resolve config.settings .empty entry h).1.2 = .ok ())
    (hunits : (resolve config.settings .empty entry h).1.1.units = units)
    (hds : refusal? (compiled config (resolve config.settings .empty entry h).1.1
      (resolve config.settings .empty entry h).2) = some ds) :
    ∃ r h₁ h₂, resolve config.settings .empty entry h = ((r, .ok ()), h₁)
      ∧ r.units = units ∧ compiled config r h₁ = .ok (.error ds)
      ∧ compileProgram config entry h = (.ok (.error (ds.map (·.format units))), h₂) := by
  rw [refusal?_eq_some] at hds
  rcases hr : resolve config.settings .empty entry h with ⟨⟨r, resolved⟩, h₁⟩
  rw [hr] at hok hunits hds
  obtain rfl : resolved = .ok () := hok
  obtain rfl : r.units = units := hunits
  have hls := (compileProgram_eq_error_iff hr).mpr ⟨ds, hds, rfl⟩
  rcases hc : compileProgram config entry h with ⟨result, h₂⟩
  rw [hc] at hls
  obtain rfl : result = .ok (.error (ds.map (·.format r.units))) := hls
  exact ⟨r, h₁, h₂, rfl, rfl, hds, rfl⟩

theorem compileProgram_inside_repeated :
    CopiesApart repeatedHost ∧ ∃ (d : Diagnostic) (units : List SourceUnit),
      (compileProgram .default "a.cs" repeatedHost).1 = .ok (.error [d.format units])
      ∧ d.location? units = some ⟨"/b.cs", 7, 6⟩
      ∧ ∃ source, ReadsAs "utf-8-sig" (repeatedHost.find "/b.cs") source
        ∧ Inside source ⟨7, 6⟩ := by
  have hapart : CopiesApart repeatedHost := fun _ _ _ => rfl
  let u₁ : SourceUnit := ⟨"/a.cs", "/a.cs", 0, ["/b.cs"], []⟩
  let u₂ : SourceUnit := ⟨"/b.cs", "/csrun-00000000.cs", 4, [], []⟩
  let d : Diagnostic := (Problem.duplicateMember "B" "x").at "/csrun-00000000.cs" ⟨3, 6⟩
  have hlocation : d.location? [u₁, u₂] = some ⟨"/b.cs", 7, 6⟩ := by decide +kernel
  obtain ⟨r, h₁, h₂, hr, hunits, hds, hc⟩ :
      ∃ r h₁ h₂, resolve Config.default.settings .empty "a.cs" repeatedHost = ((r, .ok ()), h₁)
        ∧ r.units = [u₁, u₂] ∧ compiled .default r h₁ = .ok (.error [d])
        ∧ compileProgram .default "a.cs" repeatedHost
          = (.ok (.error ([d].map (·.format [u₁, u₂]))), h₂) :=
    exists_run_of (by decide +kernel) (by decide +kernel) (by decide +kernel)
  obtain ⟨ds, hcompiled, -, hinside⟩ := compileProgram_inside hapart hr hc
  obtain rfl : [d] = ds := by
    rw [hds] at hcompiled
    exact Except.error.inj (Except.ok.inj hcompiled)
  rw [hunits] at hinside
  obtain ⟨before, u, after, hsplit, hfile, hplace⟩ :=
    hinside d (List.mem_singleton.mpr rfl) _ hlocation
  -- the copy is the compiled file of the second unit
  obtain ⟨rfl, rfl⟩ : before = [u₁] ∧ u = u₂ := by
    rcases before with - | ⟨v, before⟩
    · obtain rfl := (List.cons.inj hsplit).1
      exact absurd hfile (by decide)
    · obtain ⟨rfl, hrest⟩ := List.cons.inj hsplit
      rcases List.append_eq_singleton_iff.mp hrest.symm with ⟨rfl, hu⟩ | ⟨-, hnil⟩
      · exact ⟨rfl, (List.cons.inj hu).1⟩
      · cases hnil
  obtain ⟨-, source, hsource, hplace⟩ := hplace (by decide +kernel)
  refine ⟨hapart, d, [u₁, u₂], congrArg Prod.fst hc, hlocation, source, hsource, ?_⟩
  exact hplace.resolve_right fun hend => absurd hend.1 (by decide)

/-- A run of the compiler service ends with a diagnostic that is reported for a source file and does
not point inside of it. -/
def ReportsOutside (entry : String) (h : Host) : Prop :=
  ∃ (r : Resolution) (h₁ : Host) (ds : List Diagnostic),
    resolve Config.default.settings .empty entry h = ((r, .ok ()), h₁)
    ∧ compiled .default r h₁ = .ok (.error ds)
    ∧ (compileProgram .default entry h).1 = .ok (.error (ds.map (·.format r.units)))
    ∧ ∃ d ∈ ds, ∃ l source, d.location? r.units = some l
      ∧ ReadsAs "utf-8-sig" (h.find l.path) source ∧ ¬Inside source ⟨l.line, l.column⟩

/-- A metadata block and a class, without a closing brace and without a final line feed. -/
def unclosedFile : List Char := "::\x7b\n\x7d::\n\nclass P \x7b".toList

/-- A host with that file alone. -/
def unclosedHost : Host :=
  { commentedHost with tree := ⟨[(["a.cs"], .file (Text.encodeUtf8 unclosedFile))]⟩ }

/-- A diagnostic of the second one of two files whose names differ in case only is reported for the
first one, which has no such place. The end of a copy is reported behind the end of its source. -/
theorem reportsOutside_twinHost_unclosedHost :
    ReportsOutside "A.cs" twinHost ∧ ReportsOutside "a.cs" unclosedHost := by
  constructor
  · let u : SourceUnit := ⟨"/a.cs", "/a.cs", 0, [], []⟩
    let v : SourceUnit := ⟨"/A.cs", "/A.cs", 0, ["/a.cs"], []⟩
    let d : Diagnostic := (Problem.duplicateMember "B" "x").at "/a.cs" ⟨1, 22⟩
    let source := "//#include a.cs\nclass A \x7b \x7d\n".toList
    obtain ⟨r, h₁, h₂, hr, hunits, hds, hc⟩ :
        ∃ r h₁ h₂, resolve Config.default.settings .empty "A.cs" twinHost = ((r, .ok ()), h₁)
          ∧ r.units = [v, u] ∧ compiled .default r h₁ = .ok (.error [d])
          ∧ compileProgram .default "A.cs" twinHost
            = (.ok (.error ([d].map (·.format [v, u]))), h₂) :=
      exists_run_of (by decide +kernel) (by decide +kernel) (by decide +kernel)
    have hsource : ReadsAs "utf-8-sig" (twinHost.find "/A.cs") source :=
      .of_encodeUtf8 .utf8Marked rfl (by decide +kernel) (by decide +kernel) (by decide +kernel)
    rw [← hunits] at hc
    refine ⟨r, h₁, [d], hr, hds, congrArg Prod.fst hc, d, List.mem_singleton.mpr rfl,
      ⟨"/A.cs", 1, 22⟩, source, ?_, hsource, by decide +kernel⟩
    rw [hunits]
    decide +kernel
  · let u : SourceUnit := ⟨"/a.cs", "/csrun-00000000.cs", 3, [], []⟩
    let d : Diagnostic := Problem.unexpectedEnd.at "/csrun-00000000.cs" ⟨2, 1⟩
    obtain ⟨r, h₁, h₂, hr, hunits, hds, hc⟩ :
        ∃ r h₁ h₂, resolve Config.default.settings .empty "a.cs" unclosedHost = ((r, .ok ()), h₁)
          ∧ r.units = [u] ∧ compiled .default r h₁ = .ok (.error [d])
          ∧ compileProgram .default "a.cs" unclosedHost
            = (.ok (.error ([d].map (·.format [u]))), h₂) :=
      exists_run_of (by decide +kernel) (by decide +kernel) (by decide +kernel)
    have hsource : ReadsAs "utf-8-sig" (unclosedHost.find "/a.cs") unclosedFile :=
      .of_encodeUtf8 .utf8Marked rfl (by decide +kernel) (by decide +kernel) (by decide +kernel)
    rw [← hunits] at hc
    refine ⟨r, h₁, [d], hr, hds, congrArg Prod.fst hc, d, List.mem_singleton.mpr rfl,
      ⟨"/a.cs", 5, 1⟩, unclosedFile, ?_, hsource, by decide +kernel⟩
    rw [hunits]
    decide +kernel

end Program

end BraceScript
