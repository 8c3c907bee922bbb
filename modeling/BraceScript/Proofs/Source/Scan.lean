import BraceScript.Proofs.Host
import BraceScript.Source.Scan
import Mathlib

/-!
# What a scan does

The front of a file is decided by the files alone, and so is whether a copy is refused: `inspect`
says both at once. A scan ends well when `inspect` does (`scan_ok`) and fails with the same failure
(`scan_error`); the first leaves at most one new copy, which the unit owns, and the second none.
-/

namespace BraceScript.Source

open Files

/-! ## Reading the front -/

theorem baseDir_looks (path : String) : (baseDir path).Looks := by
  refine (Act.Looks.isDirectory path).bind fun b => ?_
  split <;> exact .pure _

theorem importTarget_looks (base target : String) : (importTarget base target).Looks := by
  refine (Act.Looks.isFile _).bind fun b => ?_
  split <;> exact .pure _

theorem resolveTargets_looks (base : String) (ds : List Directive) :
    (resolveTargets base ds).Looks := by
  induction ds with
  | nil => exact .pure _
  | cons d ds ih =>
    unfold resolveTargets
    split
    · exact ih.bind fun r => .pure _
    · exact (importTarget_looks base d.target).bind fun t => ih.bind fun r => .pure _

theorem encodingOf_looks (name : String) : (encodingOf name).Looks := by
  unfold encodingOf
  split
  · exact .pure _
  · exact .throw _

theorem readLines_reads (path enc : String) : (readLines path enc).Reads := by
  refine (Act.Looks.look path).toReads.bind fun found => ?_
  split
  · refine (Act.Reads.tell _).bind fun _ => (encodingOf_looks enc).toReads.bind fun e => ?_
    split
    · exact (Act.Looks.pure _).toReads
    · exact (Act.Looks.throw _).toReads
  · exact (Act.Looks.throw _).toReads

theorem readFront_reads (settings : Settings) (path : String) :
    (readFront settings path).Reads := by
  refine (baseDir_looks path).toReads.bind fun base => ?_
  refine (readLines_reads path settings.encoding).bind fun r => ?_
  split
  split
  · exact (Act.Looks.throw _).toReads
  · exact (resolveTargets_looks base _).toReads.bind fun t => (Act.Looks.pure _).toReads

/-- The lines of a file that can be read. -/
theorem readLines_ok {path name : String} {h h' : Host} {enc : Text.Encoding}
    {ls : List (List Char)} (hr : readLines path name h = (.ok (enc, ls), h')) :
    ∃ bytes cs, h.find path = .file bytes ∧ Text.Encoding.ofName? name = some enc
      ∧ enc.decodeInBlocks bytes = .ok cs ∧ ls = Text.lines (Text.unifyBreaks cs)
      ∧ h'.notices = .scanning path :: h.notices := by
  unfold readLines at hr
  rw [Act.bind_of_ok (look_apply path h)] at hr
  cases hf : h.find path with
  | file bytes =>
    simp only [hf] at hr
    rw [Act.bind_of_ok (tell_apply _ _)] at hr
    unfold encodingOf at hr
    cases he : Text.Encoding.ofName? name with
    | none =>
      simp only [he] at hr
      rw [Act.bind_of_error (Act.throw_apply _ _)] at hr
      cases hr
    | some e =>
      simp only [he] at hr
      rw [Act.bind_of_ok (Act.pure_apply _ _)] at hr
      cases hd : e.decodeInBlocks bytes with
      | error err =>
        simp only [hd] at hr
        cases hr
      | ok cs =>
        simp only [hd] at hr
        cases hr
        exact ⟨bytes, cs, rfl, rfl, hd, rfl, rfl⟩
  | directory | missing | notDirectory | tooLong | invalid =>
    simp only [hf] at hr
    cases hr

/-- The front of a file that can be read. -/
theorem readFront_ok {settings : Settings} {path : String} {h h' : Host} {f : Front}
    (hr : readFront settings path h = (.ok f, h')) :
    ∃ bytes cs, h.find path = .file bytes
      ∧ Text.Encoding.ofName? settings.encoding = some f.encoding
      ∧ f.encoding.decodeInBlocks bytes = .ok cs
      ∧ Leading.read (Text.lines (Text.unifyBreaks cs)) = .ok f.leading
      ∧ h'.notices = .scanning path :: h.notices := by
  unfold readFront at hr
  obtain ⟨base, h₁, hbase, hr⟩ := Act.bind_eq_ok.mp hr
  obtain ⟨⟨enc, ls⟩, h₂, hlines, hr⟩ := Act.bind_eq_ok.mp hr
  have hlook := baseDir_looks path
  have halike := hlook.alike h
  have hnotices := hlook.notices h
  rw [hbase] at halike hnotices
  obtain ⟨bytes, cs, hfile, henc, hcs, rfl, htold⟩ := readLines_ok hlines
  simp only at hr
  cases hread : Leading.read (Text.lines (Text.unifyBreaks cs)) with
  | error e =>
    simp only [hread] at hr
    cases hr
  | ok s =>
    simp only [hread] at hr
    obtain ⟨⟨includes, imports⟩, h₃, htargets, hr⟩ := Act.bind_eq_ok.mp hr
    have hsame := (resolveTargets_looks base s.directives).notices h₂
    rw [htargets] at hsame
    cases hr
    refine ⟨bytes, cs, ?_, henc, hcs, hread, ?_⟩
    · rw [← halike.find, hfile]
    · rw [hsame, htold, hnotices]

/-! ## Whole scans -/

/-- Why the copy of a file is refused, if it has to be made and cannot be. -/
def refusal (settings : Settings) (path : String) (h : Host) (f : Front) : Option Failure :=
  if f.leading.hasBlock then
    let dir := h.absolute (settings.tempDir.getD h.tempDir)
    copyRefusal dir (splitExtension path).2 (h.find dir)
  else none

theorem refusal_of_block {settings : Settings} {path : String} {h : Host} {f : Front}
    (hb : f.leading.hasBlock = true) :
    refusal settings path h f = copyRefusal (h.absolute (settings.tempDir.getD h.tempDir))
      (splitExtension path).2 (h.find (h.absolute (settings.tempDir.getD h.tempDir))) := by
  unfold refusal
  rw [if_pos hb]

theorem refusal_alike {settings : Settings} {path : String} {h h' : Host} (a : h.Alike h')
    (f : Front) : refusal settings path h' f = refusal settings path h f := by
  unfold refusal
  simp only [a.absolute, a.find, a.tempDir]

/-- What the files say about the scan of a file: its front, or why it fails. -/
def inspect (settings : Settings) (path : String) (h : Host) : Except Failure Front :=
  match (readFront settings path h).1 with
  | .error e => .error e
  | .ok f =>
    match refusal settings path h f with
    | some e => .error e
    | none => .ok f

theorem inspect_alike {settings : Settings} {path : String} {h h' : Host} (a : h.Alike h') :
    inspect settings path h' = inspect settings path h := by
  unfold inspect
  rw [(readFront_reads settings path).result a]
  simp only [refusal_alike a]

theorem inspect_ok {settings : Settings} {path : String} {h : Host} {f : Front}
    (hi : inspect settings path h = .ok f) :
    ∃ bytes cs, h.find path = .file bytes
      ∧ Text.Encoding.ofName? settings.encoding = some f.encoding
      ∧ f.encoding.decodeInBlocks bytes = .ok cs
      ∧ Leading.read (Text.lines (Text.unifyBreaks cs)) = .ok f.leading := by
  unfold inspect at hi
  rcases hr : readFront settings path h with ⟨_ | g, h'⟩
  · rw [hr] at hi
    cases hi
  · rw [hr] at hi
    simp only at hi
    split at hi
    · cases hi
    · cases hi
      obtain ⟨bytes, cs, hfile, henc, hcs, hread, -⟩ := readFront_ok hr
      exact ⟨bytes, cs, hfile, henc, hcs, hread⟩

/-- What is written in place of a file with a metadata block. -/
def compiledBytes (f : Front) : Bytes := f.encoding.encode (Text.unlines f.leading.body)

/-- What a scan that ends well leaves behind: the unit, and a copy if there is a metadata block,
which is none of the copies and files that are there. -/
structure Scanned (settings : Settings) (path : String) (h : Host) (f : Front) (u : SourceUnit)
    (h' : Host) : Prop where
  inspected : inspect settings path h = .ok f
  sourcePath : u.sourcePath = path
  includes : u.includes = f.includes
  imports : u.imports = f.imports
  alike : h.Alike h'
  scanned : h'.scanned = h.scanned ++ [path]
  plain : f.leading.hasBlock = false → u.compilePath = path ∧ h'.copies = h.copies
  copied : f.leading.hasBlock = true → u.lineOffset = f.leading.offset
    ∧ u.compilePath ≠ path ∧ u.compilePath ∉ h.copies.map Prod.fst ∧ h.Vacant u.compilePath
    ∧ h'.copies = h.copies ++ [(u.compilePath, compiledBytes f)]

theorem scan_ok {settings : Settings} {path : String} {h h' : Host} {u : SourceUnit}
    (hs : scan settings path h = (.ok u, h')) : ∃ f, Scanned settings path h f u h' := by
  unfold scan at hs
  obtain ⟨f, h₁, hfront, hs⟩ := Act.bind_eq_ok.mp hs
  refine ⟨f, ?_⟩
  obtain ⟨bytes, -, hfile, -, -, -, htold⟩ := readFront_ok hfront
  have halike := (readFront_reads settings path).alike h
  have hcopies := (readFront_reads settings path).copies h
  rw [hfront] at halike hcopies
  simp only at halike hcopies
  split at hs
  · next hb =>
    rw [Act.bind_of_ok (Act.get_apply h₁)] at hs
    obtain ⟨copy, h₂, hcopy, hs⟩ := Act.bind_eq_ok.mp hs
    rw [Act.bind_of_ok (tell_apply _ _)] at hs
    cases hs
    obtain ⟨hnone, hfresh, hvacant, halike', htold', hcopies'⟩ :=
      makeCopy_ok (slash_notMem_extension path) hcopy
    refine ⟨?_, rfl, rfl, rfl, ?_, ?_, fun hb' => absurd hb (by simp [hb']), fun _ => ?_⟩
    · unfold inspect
      rw [hfront]
      simp only [← refusal_alike halike, refusal_of_block hb, hnone]
    · have hall := halike.trans halike'
      exact ⟨hall.tree, hall.cwd, hall.home, hall.tempDir⟩
    · unfold Host.scanned
      simp [htold, htold', Notice.scanned?]
    · refine ⟨rfl, ?_, ?_, hvacant.of_alike halike, ?_⟩
      · show copy ≠ path
        rintro rfl
        exact hvacant.find bytes ((halike.find _).trans hfile)
      · rwa [← hcopies]
      · rw [← hcopies]
        exact hcopies'
  · next hb =>
    rw [Act.bind_of_ok (tell_apply _ _)] at hs
    cases hs
    refine ⟨?_, rfl, rfl, rfl, ?_, ?_, fun _ => ⟨rfl, hcopies⟩, fun hb' => absurd hb' hb⟩
    · unfold inspect refusal
      rw [hfront]
      simp [hb]
    · exact ⟨halike.tree, halike.cwd, halike.home, halike.tempDir⟩
    · unfold Host.scanned
      simp [htold, Notice.scanned?]

/-- A scan that fails leaves no copy behind. -/
theorem scan_error {settings : Settings} {path : String} {h h' : Host} {e : Failure}
    (hs : scan settings path h = (.error e, h')) :
    inspect settings path h = .error e ∧ h.Alike h' ∧ h'.copies = h.copies := by
  unfold scan at hs
  have halike := (readFront_reads settings path).alike h
  have hcopies := (readFront_reads settings path).copies h
  rcases Act.bind_eq_error.mp hs with hfront | ⟨f, h₁, hfront, hs⟩
  · rw [hfront] at halike hcopies
    refine ⟨?_, halike, hcopies⟩
    unfold inspect
    rw [hfront]
  · rw [hfront] at halike hcopies
    simp only at halike hcopies
    split at hs
    · next hb =>
      rw [Act.bind_of_ok (Act.get_apply h₁)] at hs
      rcases Act.bind_eq_error.mp hs with hcopy | ⟨copy, h₂, hcopy, hs⟩
      · obtain ⟨hsome, halike', hcopies'⟩ := makeCopy_error hcopy
        refine ⟨?_, halike.trans halike', hcopies'.trans hcopies⟩
        unfold inspect
        rw [hfront]
        simp only [← refusal_alike halike, refusal_of_block hb, hsome]
      · rw [Act.bind_of_ok (tell_apply _ _)] at hs
        cases hs
    · rw [Act.bind_of_ok (tell_apply _ _)] at hs
      cases hs

end BraceScript.Source
