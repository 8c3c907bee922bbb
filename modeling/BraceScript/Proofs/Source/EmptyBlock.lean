import BraceScript.Proofs.Lowering.Places
import BraceScript.Proofs.Source.CompiledText
import Mathlib

/-!
# An empty metadata block

`scan_emptyBlock` compares a file with the same file behind an empty metadata block. Both scans
end alike, a fault stands three lines further down, and both files refer to the same scripts and
libraries. What is compiled in place of the second file has the tokens of the first one, on lines
that differ by the offset of the unit only, and so it has the same classes.

The leading section is read alike wherever it begins (`readSection_below`). What is left out of it
is layout and comments, which the tokens do not depend on (`scan_body`).
-/

namespace BraceScript.Source

open Files
open Text (unlines unlines_cons unlines_append lines unifyBreaks isBlank)
open Syntax (isLayout)

/-! ## Sections further down -/

/-- A section that begins `n` lines further down. -/
def Leading.below (n : Nat) (s : Leading) : Leading := { s with offset := s.offset + n }

/-- A fault `n` lines further down. -/
def LeadingError.below (n : Nat) (e : LeadingError) : LeadingError := { e with line := e.line + n }

theorem visible_map (f : Nat × Nat → Nat × Nat) (comment : Option (Nat × Nat)) (l : List Char) :
    visible (comment.map f) l = visible comment l := by
  cases comment <;> rfl

/-- Where a section begins only matters to its offset and to the lines of its faults. -/
theorem readSection_below (n offset : Nat) (comment : Option (Nat × Nat))
    (ls : List (List Char)) :
    readSection (offset + n) (comment.map fun at? => (at?.1 + n, at?.2)) ls
      = ((readSection offset comment ls).mapError (·.below n)).map (·.below n) := by
  induction ls generalizing offset comment with
  | nil => cases comment <;> rfl
  | cons l ls ih =>
    have hnext : offset + n + 1 = offset + 1 + n := Nat.add_right_comm ..
    rw [readSection, readSection, visible_map, hnext]
    cases visible comment l with
    | none => exact ih (offset + 1) comment
    | some text =>
      cases hk : lineKind text with
      | code cs => simp only [hk]; rfl
      | opened column => simp only [hk]; exact ih (offset + 1) (some (offset + 1, column))
      | passed directive =>
        have hrest := ih (offset + 1) none
        cases directive with
        | none => simp only [hk]; exact hrest
        | some d =>
          rw [Option.map_none] at hrest
          simp only [hk]
          split
          · rfl
          · rw [hrest]
            cases readSection (offset + 1) none ls <;> rfl

/-! ## The block -/

/-- The text of an empty metadata block, with its separator line. -/
def emptyBlock : List Char := blockOpen ++ '\n' :: (blockClose ++ ['\n', '\n'])

theorem lines_emptyBlock (cs : List Char) :
    lines (unifyBreaks (emptyBlock ++ cs)) = blockOpen :: blockClose :: [] :: lines (unifyBreaks cs) := by
  rw [Text.unifyBreaks_append (by decide)]
  have hfirst := Text.lines_append (l := blockOpen) (by decide) (blockClose ++ '\n' :: '\n' :: unifyBreaks cs)
  have hsecond := Text.lines_append (l := blockClose) (by decide) ('\n' :: unifyBreaks cs)
  have hthird := Text.lines_append (l := []) (by decide) (unifyBreaks cs)
  rw [List.nil_append] at hthird
  rw [hthird] at hsecond
  rw [hsecond] at hfirst
  exact hfirst

/-- A file without a metadata block consists of its section. -/
theorem Leading.read_plain {ls : List (List Char)} (hno : ¬ blockOpen <+: ls.headD []) :
    Leading.read ls = readSection 0 none ls := by
  cases ls with
  | nil => rfl
  | cons l ls =>
    rw [List.headD_cons] at hno
    rw [Leading.read, if_neg fun h => hno (List.isPrefixOf_iff_prefix.mp h)]

/-- Behind an empty metadata block the section is read three lines further down. -/
theorem Leading.read_emptyBlock {cs : List Char}
    (hno : ¬ blockOpen <+: (lines (unifyBreaks cs)).headD []) :
    Leading.read (lines (unifyBreaks (emptyBlock ++ cs)))
      = ((Leading.read (lines (unifyBreaks cs))).mapError (·.below 3)).map
          fun s => { s.below 3 with hasBlock := true } := by
  rw [lines_emptyBlock, Leading.read_plain hno, Leading.read, if_pos (by decide)]
  have hskip : skipBlock (blockClose :: [] :: lines (unifyBreaks cs))
      = (2, lines (unifyBreaks cs)) := by
    rw [skipBlock, if_pos (by decide)]
  have hbelow := readSection_below 3 0 none (lines (unifyBreaks cs))
  rw [Option.map_none, Nat.zero_add] at hbelow
  rw [hskip]
  dsimp only
  rw [hbelow]
  cases readSection 0 none (lines (unifyBreaks cs)) <;> rfl

theorem readSection_hasBlock {offset : Nat} {comment : Option (Nat × Nat)} {ls : List (List Char)}
    {s : Leading} (h : readSection offset comment ls = .ok s) : s.hasBlock = false := by
  fun_induction readSection offset comment ls generalizing s with
  | case1 | case4 => cases h; rfl
  | case2 | case7 => cases h
  | case3 _ _ _ _ _ ih | case5 _ _ _ _ _ _ _ _ ih | case6 _ _ _ _ _ _ _ ih => exact ih h
  | case8 offset comment l ls text hv d hk hempty ih =>
    cases hr : readSection (offset + 1) none ls with
    | error e => rw [hr] at h; cases h
    | ok s' =>
      have hs' : s'.hasBlock = false := ih hr
      rw [hr] at h
      cases h
      exact hs'

/-! ## What is left of the text -/

/-- In front of the code, blanks outside of comments are layout. Each part of the text that can be
left out in front is left out as layout and comments then. -/
def LayoutInFront (text : List Char) : Prop :=
  ∀ front, front <+: text ++ ['\n'] → LeftOut (isBlank ·) front → LeftOut (isLayout ·) front

theorem LayoutInFront.of_blanks {text : List Char} (h : ∀ c ∈ text, isBlank c → isLayout c) :
    LayoutInFront text := by
  intro front hfront hleft
  refine hleft.imp fun c hc hblank => ?_
  rcases List.mem_append.mp (hfront.subset hc) with hc | hc
  · exact h c hc hblank
  · obtain rfl := List.mem_singleton.mp hc
    decide

/-- The tokens of what is left are those of the whole text, moved up by the lines that are gone. -/
theorem scan_body {text : List Char} {s : Leading} (hlayout : LayoutInFront text)
    (h : readSection 0 none (lines text) = .ok s) :
    ∃ columns, Syntax.scan text = (Syntax.scan (unlines s.body)).moved s.offset columns := by
  have hls : ∀ l ∈ lines text, '\n' ∉ l := fun l hl hc => (Text.mem_lines hl hc).2 rfl
  obtain ⟨n, front, hoffset, hcut, hfront⟩ := readSection_ok hls h
  obtain ⟨htext, hcount⟩ := hcut.text hls
  have hoffset : s.offset = front.count '\n' := by omega
  -- A line feed may be missing behind the text; the tokens are the same without it.
  have hall : Syntax.scan text = Syntax.scan (front ++ unlines s.body)
      ∧ front <+: text ++ ['\n'] := by
    rw [htext]
    rcases Text.unlines_lines text with heq | heq
    · refine ⟨by rw [heq], List.IsPrefix.trans ⟨unlines s.body, ?_⟩ (List.prefix_append text _)⟩
      rw [htext, heq]
    · refine ⟨?_, unlines s.body, by rw [htext, heq]⟩
      rw [heq]
      exact (Syntax.scanFrom_lineFeed _ text).symm
  rw [hall.1, hoffset]
  exact Syntax.scan_leftOut (hlayout front hall.2 hfront) _

/-- What is left behind a front is written and read back as it is. -/
theorem decode_left {enc : Text.Encoding} {bytes : Bytes} {cs front : List Char}
    {body : List (List Char)} (hcs : enc.decode bytes = .ok cs)
    (htext : front ++ unlines body = unlines (lines (unifyBreaks cs))) :
    enc.decode (enc.encode (unlines body)) = .ok (unlines body)
      ∧ unifyBreaks (unlines body) = unlines body := by
  have hmem : ∀ c ∈ unlines body, c = '\n' ∨ c ∈ unifyBreaks cs := by
    intro c hc
    have hall : c ∈ unlines (lines (unifyBreaks cs)) := by
      rw [← htext]
      exact List.mem_append_right front hc
    rcases Text.mem_unlines hall with hc | ⟨l, hl, hc⟩
    · exact .inl hc
    · exact .inr (Text.mem_lines hl hc).1
  constructor
  · refine Text.Encoding.decode_encode fun c hc => ?_
    rcases hmem c hc with rfl | hc
    · exact Text.Encoding.expresses_lineFeed enc
    rcases Text.mem_unifyBreaks hc with rfl | hc
    · exact Text.Encoding.expresses_lineFeed enc
    · exact Text.Encoding.expresses_of_decode hcs c hc
  · refine Text.unifyBreaks_eq_self fun hc => ?_
    rcases hmem _ hc with hc | hc
    · exact absurd hc (by decide)
    · exact Text.return_notMem_unifyBreaks cs hc

/-- What is left of a section is written and read back as it is. -/
theorem decode_body {enc : Text.Encoding} {bytes : Bytes} {cs : List Char} {s : Leading}
    (hcs : enc.decode bytes = .ok cs)
    (h : readSection 0 none (lines (unifyBreaks cs)) = .ok s) :
    enc.decode (enc.encode (unlines s.body)) = .ok (unlines s.body)
      ∧ unifyBreaks (unlines s.body) = unlines s.body := by
  have hls : ∀ l ∈ lines (unifyBreaks cs), '\n' ∉ l := fun l hl hc => (Text.mem_lines hl hc).2 rfl
  obtain ⟨n, front, -, hcut, -⟩ := readSection_ok hls h
  exact decode_left hcs (hcut.text hls).1

/-! ## The front of a file -/

/-- The scripts and libraries that directives refer to, by the files that there are. -/
def targetsOf (isFile : String → Bool) (base : String) (ds : List Directive) :
    List String × List String :=
  ((ds.filter (·.tag = .include)).map fun d => includeTarget base d.target,
    (ds.filter (·.tag = .import)).map fun d =>
      if isFile (join base d.target) then join base d.target else d.target)

theorem isFile_result (path : String) (h : Host) :
    (isFile path h).1 = .ok (h.tree.isFile h.cwd path) := by
  unfold isFile
  rw [Act.bind_of_ok (look_apply path h), Tree.isFile]
  show (_ : Except Failure Bool × Host).1 = _
  unfold Host.find
  cases h.tree.find h.cwd path <;> rfl

theorem importTarget_result (base target : String) (h : Host) :
    (importTarget base target h).1
      = .ok (if h.tree.isFile h.cwd (join base target) then join base target else target) := by
  have hbranch : ∀ b : Bool,
      (if b then pure (join base target) else pure target : Act String).Looks := by
    intro b
    split <;> exact .pure _
  unfold importTarget
  rw [(Act.Looks.isFile _).bind_result (isFile_result _ h) (hbranch _).toReads]
  split <;> rfl

theorem resolveTargets_result (base : String) (ds : List Directive) (h : Host) :
    (resolveTargets base ds h).1 = .ok (targetsOf (h.tree.isFile h.cwd ·) base ds) := by
  induction ds with
  | nil => rfl
  | cons d ds ih =>
    have hrest := resolveTargets_looks base ds
    obtain ⟨tag, target⟩ := d
    match tag with
    | .include => exact hrest.bind_result ih (Act.Looks.pure _).toReads
    | .import =>
      unfold resolveTargets
      dsimp only
      rw [(importTarget_looks base target).bind_result (importTarget_result base target h)
        (hrest.bind fun _ => .pure _).toReads]
      exact hrest.bind_result ih (Act.Looks.pure _).toReads

section

variable {settings : Settings} {path : String} {h : Host} {bytes : Bytes} {enc : Text.Encoding}
  {cs : List Char}

/-- The targets in a file are relative to its directory. -/
theorem baseDir_result (hfile : h.find path = .file bytes) :
    (baseDir path h).1 = .ok (dirname path) := by
  have hdirectory : (isDirectory path h).1 = .ok false := by
    unfold isDirectory
    rw [Act.bind_of_ok (look_apply path h), hfile]
    rfl
  unfold baseDir
  exact (Act.Looks.isDirectory path).bind_result hdirectory (Act.Looks.pure _).toReads

theorem readLines_result (hfile : h.find path = .file bytes)
    (henc : Text.Encoding.ofName? settings.encoding = some enc) (hcs : enc.decode bytes = .ok cs) :
    (readLines path settings.encoding h).1 = .ok (enc, lines (unifyBreaks cs)) := by
  unfold readLines
  rw [Act.bind_of_ok (look_apply path h), hfile]
  dsimp only
  rw [Act.bind_of_ok (tell_apply _ _)]
  unfold encodingOf
  rw [henc]
  dsimp only
  rw [Act.bind_of_ok (Act.pure_apply _ _), enc.decodeInBlocks_eq_ok_iff.mpr hcs]
  rfl

/-- The front of a file that is text. -/
theorem readFront_result (hfile : h.find path = .file bytes)
    (henc : Text.Encoding.ofName? settings.encoding = some enc) (hcs : enc.decode bytes = .ok cs) :
    (readFront settings path h).1 = ((Leading.read (lines (unifyBreaks cs))).mapError
      fun e => Failure.scan ⟨path, e⟩).map fun s =>
        let targets := targetsOf (h.tree.isFile h.cwd ·) (dirname path) s.directives
        ⟨enc, s, targets.1, targets.2⟩ := by
  unfold readFront
  refine ((baseDir_looks path).bind_result (baseDir_result hfile) ?_).trans ?_
  · refine (readLines_reads path _).bind fun r => ?_
    split
    split
    · exact (Act.Looks.throw _).toReads
    · exact ((resolveTargets_looks _ _).bind fun t => .pure _).toReads
  refine ((readLines_reads path _).bind_result (readLines_result hfile henc hcs) ?_).trans ?_
  · dsimp only
    split
    · exact (Act.Looks.throw _).toReads
    · exact ((resolveTargets_looks _ _).bind fun t => .pure _).toReads
  dsimp only
  cases Leading.read (lines (unifyBreaks cs)) with
  | error e => rfl
  | ok s =>
    exact (resolveTargets_looks _ _).bind_result (resolveTargets_result _ s.directives h)
      (Act.Looks.pure _).toReads

end

/-- A scan ends well with the front that is inspected. -/
theorem scan_of_inspect_ok {settings : Settings} {path : String} {h : Host} {f : Front}
    (hi : inspect settings path h = .ok f) :
    ∃ u h', scan settings path h = (.ok u, h') ∧ Scanned settings path h f u h' := by
  rcases hs : scan settings path h with ⟨_ | u, h'⟩
  · rw [(scan_error hs).1] at hi
    cases hi
  · obtain ⟨f', hu⟩ := scan_ok hs
    obtain rfl : f' = f := Except.ok.inj (hu.inspected.symm.trans hi)
    exact ⟨u, h', rfl, hu⟩

theorem scan_of_inspect_error {settings : Settings} {path : String} {h : Host} {e : Failure}
    (hi : inspect settings path h = .error e) : ∃ h', scan settings path h = (.error e, h') := by
  rcases hs : scan settings path h with ⟨e' | u, h'⟩
  · obtain rfl : e' = e := Except.error.inj ((scan_error hs).1.symm.trans hi)
    exact ⟨h', rfl⟩
  · obtain ⟨f', hu⟩ := scan_ok hs
    rw [hu.inspected] at hi
    cases hi

/-- A file whose front can be read, and whose copy is not refused. -/
theorem inspect_of_readFront {settings : Settings} {path : String} {h : Host} {f : Front}
    (hf : (readFront settings path h).1 = .ok f) (hr : refusal settings path h f = none) :
    inspect settings path h = .ok f := by
  unfold inspect
  rw [hf]
  dsimp only
  rw [hr]

/-! ## With and without the block -/

/-- A file that is text, and the same file behind an empty metadata block in a directory where the
targets lead to files just when they do for the first one. If the blanks in front of its code are
layout, then the scans of both files end alike, and the second one has the tokens and the classes
of the first one. -/
theorem scan_emptyBlock {h k : Host} {settings : Settings} {p q : String} {bytes bytes' : Bytes}
    {enc : Text.Encoding} {cs : List Char}
    (hfile : h.find p = .file bytes) (hcs : enc.decode bytes = .ok cs)
    (kfile : k.find q = .file bytes') (kcs : enc.decode bytes' = .ok (emptyBlock ++ cs))
    (henc : Text.Encoding.ofName? settings.encoding = some enc)
    (hdirectory : dirname q = dirname p)
    (hfiles : ∀ path, k.tree.isFile k.cwd path = h.tree.isFile h.cwd path)
    (hcopy : copyRefusal (k.absolute (settings.tempDir.getD k.tempDir)) (splitExtension q).2
      (k.find (k.absolute (settings.tempDir.getD k.tempDir))) = none)
    (hno : ¬ blockOpen <+: (lines (unifyBreaks cs)).headD [])
    (hlayout : LayoutInFront (unifyBreaks cs)) :
    (∃ e h' k', scan settings p h = (.error (.scan ⟨p, e⟩), h')
        ∧ scan settings q k = (.error (.scan ⟨q, e.below 3⟩), k'))
      ∨ ∃ u v h' k' content text, scan settings p h = (.ok u, h')
        ∧ scan settings q k = (.ok v, k') ∧ v.includes = u.includes ∧ v.imports = u.imports
        ∧ u.compilePath = p ∧ k'.findCompiled v.compilePath = .file content ∧ enc.decode content = .ok text
        ∧ unifyBreaks text = text
        ∧ (Syntax.scan text).onLines v.lineOffset
          = (Syntax.scan (unifyBreaks cs)).onLines 3
        ∧ ∀ a b, (Program.lowerText a text).1.map Lowering.TypeDecl.parts
          = (Program.lowerText b (unifyBreaks cs)).1.map Lowering.TypeDecl.parts := by
  have hfront := readFront_result hfile henc hcs
  have kfront := readFront_result kfile henc kcs
  rw [Leading.read_emptyBlock hno, funext hfiles, hdirectory] at kfront
  cases hread : Leading.read (lines (unifyBreaks cs)) with
  | error e =>
    rw [hread] at hfront kfront
    have hi : inspect settings p h = .error (.scan ⟨p, e⟩) := by
      unfold inspect
      rw [hfront]
      rfl
    have ki : inspect settings q k = .error (.scan ⟨q, e.below 3⟩) := by
      unfold inspect
      rw [kfront]
      rfl
    obtain ⟨h', hs⟩ := scan_of_inspect_error hi
    obtain ⟨k', ks⟩ := scan_of_inspect_error ki
    exact .inl ⟨e, h', k', hs, ks⟩
  | ok s =>
    rw [hread] at hfront kfront
    let targets := targetsOf (h.tree.isFile h.cwd ·) (dirname p) s.directives
    have hfront : (readFront settings p h).1 = .ok ⟨enc, s, targets.1, targets.2⟩ := hfront
    have kfront : (readFront settings q k).1
        = .ok ⟨enc, { s.below 3 with hasBlock := true }, targets.1, targets.2⟩ := kfront
    have hsection : readSection 0 none (lines (unifyBreaks cs)) = .ok s := by
      rw [← Leading.read_plain hno, hread]
    have hplain := readSection_hasBlock hsection
    have hi := inspect_of_readFront hfront (if_neg (by simp [hplain]))
    have ki := inspect_of_readFront kfront ((refusal_of_block rfl).trans hcopy)
    obtain ⟨u, h', hs, hu⟩ := scan_of_inspect_ok hi
    obtain ⟨v, k', ks, kv⟩ := scan_of_inspect_ok ki
    obtain ⟨columns, htokens⟩ := scan_body hlayout hsection
    obtain ⟨htext, hbreaks⟩ := decode_body hcs hsection
    have hoffset : v.lineOffset = s.offset + 3 := (kv.copied rfl).1
    refine .inr ⟨u, v, h', k', _, unlines s.body, hs, ks, ?_, ?_, (hu.plain hplain).1,
      kv.findCompiled rfl, htext, hbreaks, ?_, ?_⟩
    · rw [hu.includes, kv.includes]
    · rw [hu.imports, kv.imports]
    · rw [hoffset, htokens, Syntax.Scan.onLines_moved]
    · intro a b
      exact (Program.lowerText_moved b a htokens).symm

/-- A file with two comments in front of its code. -/
def plainFile : List Char := "// c\n/* d */ class A \x7b\n\x7d\n".toList

/-- A host with that file, and with the same file behind an empty metadata block. -/
def pairHost : Host where
  tree := ⟨[(["a.cs"], .file (Text.encodeUtf8 plainFile)),
    (["b.cs"], .file (Text.encodeUtf8 (emptyBlock ++ plainFile)))]⟩
  cwd := "/"
  home := "/"
  tempDir := "/"
  copies := []
  named := 0
  notices := []
  asked := []

theorem scan_emptyBlock_pair :
    ∃ content text, (scan ⟨none, "utf-8"⟩ "/b.cs" pairHost).2.findCompiled "/csrun-00000000.cs"
        = .file content
      ∧ Text.Encoding.utf8.decode content = .ok text
      ∧ (Syntax.scan text).onLines 4 = (Syntax.scan plainFile).onLines 3 := by
  have hplain : unifyBreaks plainFile = plainFile := Text.unifyBreaks_eq_self (by decide +kernel)
  have hscan : scan ⟨none, "utf-8"⟩ "/b.cs" pairHost
      = (.ok ⟨"/b.cs", "/csrun-00000000.cs", 4, [], []⟩,
        (scan ⟨none, "utf-8"⟩ "/b.cs" pairHost).2) :=
    Prod.ext (by decide +kernel) rfl
  have hblanks : ∀ c ∈ plainFile, isBlank c → isLayout c := by
    have hall : (plainFile.all fun c => !isBlank c || isLayout c) = true := by decide +kernel
    intro c hc hblank
    simpa [hblank] using List.all_eq_true.mp hall c hc
  have hpair := scan_emptyBlock
    (by rfl : pairHost.find "/a.cs" = .file (Text.encodeUtf8 plainFile))
    (by decide +kernel : Text.Encoding.utf8.decode (Text.encodeUtf8 plainFile) = .ok plainFile)
    (by rfl : pairHost.find "/b.cs" = .file (Text.encodeUtf8 (emptyBlock ++ plainFile)))
    (by decide +kernel)
    (by decide +kernel : Text.Encoding.ofName? (⟨none, "utf-8"⟩ : Settings).encoding = some .utf8)
    (by decide +kernel) (fun _ => rfl) (by decide +kernel) (by decide +kernel) (by rw [hplain]; exact .of_blanks hblanks)
  rcases hpair with ⟨e, h', k', -, hk⟩ | ⟨u, v, h', k', content, text, -, hk, -, -, -, hfound, htext,
    -, htokens, -⟩
  · rw [hscan] at hk
    cases hk
  · rw [hscan] at hk
    cases hk
    rw [hplain] at htokens
    exact ⟨content, text, hfound, htext, htokens⟩

end BraceScript.Source
