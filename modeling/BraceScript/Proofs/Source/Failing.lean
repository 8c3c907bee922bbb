import BraceScript.Proofs.Source.Origin
import Mathlib

/-!
# Why a file cannot be scanned

A file that is missing or is no text cannot be scanned whatever else it holds (`unreadable?`).
Otherwise a scan fails when the leading section has a fault or the copy cannot be made. A comment
that is never closed is such a fault (`scan_openComment`): the file goes on from its opening mark
without a closing one, and what stands in front of it is left out like in front of code. The line
of the mark is reported. The column is counted behind the last comment that is closed on that line.
-/

namespace BraceScript.Source

open Files
open Text (unlines unlines_cons unlines_append lines unifyBreaks isBlank lastLine)

/-! ## Files that cannot be read -/

/-- Why a file cannot be read as text, if it cannot. -/
def unreadable? (settings : Settings) (path : String) (h : Host) : Option Failure :=
  match h.find path with
  | .file bytes =>
    match Text.Encoding.ofName? settings.encoding with
    | none => some (.unknownEncoding settings.encoding)
    | some enc =>
      match enc.decodeInBlocks bytes with
      | .error err => some (.undecodable err)
      | .ok _ => none
  | _ => some (.missing path)

section

variable {settings : Settings} {path : String} {h : Host}

/-- Exactly the files that can be read have a text. -/
theorem unreadable?_eq_none_iff : unreadable? settings path h = none
    ↔ ∃ text, ReadsAs settings.encoding (h.find path) text := by
  unfold unreadable?
  constructor
  · intro hn
    split at hn
    · next bytes hfile =>
      split at hn
      · cases hn
      · next enc henc =>
        split at hn
        · cases hn
        · next cs hcs =>
          exact ⟨_, bytes, enc, cs, hfile, henc, enc.decodeInBlocks_eq_ok_iff.mp hcs, rfl⟩
    · cases hn
  · rintro ⟨text, bytes, enc, cs, hfile, henc, hcs, rfl⟩
    rw [hfile]
    dsimp only
    rw [henc]
    dsimp only
    rw [enc.decodeInBlocks_eq_ok_iff.mpr hcs]

theorem not_readsAs_of_unreadable {e : Failure} (he : unreadable? settings path h = some e) :
    ¬∃ text, ReadsAs settings.encoding (h.find path) text := by
  intro hread
  rw [unreadable?_eq_none_iff.mpr hread] at he
  cases he

/-- The reasons for which a file cannot be read: it is missing, the encoding is not known, or its
bytes are no text in the encoding. -/
theorem unreadable?_cases {e : Failure} (he : unreadable? settings path h = some e) :
    ((∀ bytes, h.find path ≠ .file bytes) ∧ e = .missing path)
      ∨ (∃ bytes, h.find path = .file bytes
        ∧ Text.Encoding.ofName? settings.encoding = none
        ∧ e = .unknownEncoding settings.encoding)
      ∨ ∃ bytes enc err, h.find path = .file bytes
        ∧ Text.Encoding.ofName? settings.encoding = some enc
        ∧ enc.decodeInBlocks bytes = .error err ∧ e = .undecodable err := by
  unfold unreadable? at he
  split at he
  · next bytes hfile =>
    split at he
    · next henc =>
      cases he
      exact .inr (.inl ⟨bytes, hfile, henc, rfl⟩)
    · next enc henc =>
      split at he
      · next err herr =>
        cases he
        exact .inr (.inr ⟨bytes, enc, err, hfile, henc, herr, rfl⟩)
      · cases he
  · next hnone =>
    cases he
    exact .inl ⟨fun bytes hfile => hnone bytes hfile, rfl⟩

theorem readLines_unreadable {e : Failure} (he : unreadable? settings path h = some e) :
    (readLines path settings.encoding h).1 = .error e := by
  unfold unreadable? at he
  unfold readLines
  rw [Act.bind_of_ok (look_apply path h)]
  cases hfile : h.find path with
  | file bytes =>
    rw [hfile] at he
    dsimp only at he ⊢
    rw [Act.bind_of_ok (tell_apply _ _)]
    unfold encodingOf
    cases henc : Text.Encoding.ofName? settings.encoding with
    | none =>
      rw [henc] at he
      dsimp only
      rw [Act.bind_of_error (Act.throw_apply _ _)]
      cases he
      rfl
    | some enc =>
      rw [henc] at he
      dsimp only at he ⊢
      rw [Act.bind_of_ok (Act.pure_apply _ _)]
      cases hcs : enc.decodeInBlocks bytes with
      | error err =>
        rw [hcs] at he
        cases he
        rfl
      | ok cs =>
        rw [hcs] at he
        cases he
  | directory | missing | notDirectory | tooLong | invalid =>
    rw [hfile] at he
    cases he
    rfl

/-- The front of a file that cannot be read cannot be read. -/
theorem readFront_unreadable {e : Failure} (he : unreadable? settings path h = some e) :
    (readFront settings path h).1 = .error e := by
  have hlines := readLines_unreadable he
  obtain ⟨base, hbase⟩ : ∃ base, (baseDir path h).1 = .ok base := by
    unfold baseDir isDirectory
    rw [bind_assoc, Act.bind_of_ok (look_apply path h)]
    cases h.find path <;> exact ⟨_, rfl⟩
  unfold readFront
  refine ((baseDir_looks path).bind_result hbase ?_).trans ?_
  · refine (readLines_reads path _).bind fun r => ?_
    split
    split
    · exact (Act.Looks.throw _).toReads
    · exact ((resolveTargets_looks _ _).bind fun t => .pure _).toReads
  · rw [Act.bind_of_error (Prod.ext hlines rfl)]

/-- A file that cannot be read cannot be scanned. -/
theorem inspect_unreadable {e : Failure} (he : unreadable? settings path h = some e) :
    inspect settings path h = .error e := by
  unfold inspect
  rw [readFront_unreadable he]

/-- A copy is not refused for a fault of the leading section. -/
theorem refusal_ne_scan (f : Front) (e : ScanError) :
    refusal settings path h f ≠ some (.scan e) := by
  unfold refusal
  split
  · unfold copyRefusal
    dsimp only
    split
    · split <;> exact nofun
    all_goals exact nofun
  · exact nofun

/-- A fault of the leading section is found by reading the section. -/
theorem inspect_eq_scan {e : ScanError} (hi : inspect settings path h = .error (.scan e)) :
    ∃ source, ReadsAs settings.encoding (h.find path) source ∧ e.path = path
      ∧ Leading.read (lines source) = .error e.error := by
  cases hn : unreadable? settings path h with
  | some e' =>
    rw [inspect_unreadable hn] at hi
    cases hi
    rcases unreadable?_cases hn with ⟨-, he⟩ | ⟨_, -, -, he⟩ | ⟨_, _, _, -, -, -, he⟩ <;> cases he
  | none =>
    obtain ⟨source, hsource⟩ := unreadable?_eq_none_iff.mp hn
    obtain ⟨bytes, enc, cs, hfile, henc, hcs, rfl⟩ := id hsource
    have hfront := readFront_result hfile henc hcs
    cases hread : Leading.read (lines (unifyBreaks cs)) with
    | error e' =>
      rw [hread] at hfront
      unfold inspect at hi
      rw [hfront] at hi
      cases hi
      exact ⟨_, hsource, rfl, hread⟩
    | ok s =>
      rw [hread] at hfront
      unfold inspect at hi
      rw [hfront] at hi
      dsimp only [Except.mapError, Except.map] at hi
      split at hi
      · next hrefused =>
        cases hi
        exact absurd hrefused (refusal_ne_scan _ _)
      · cases hi

end

/-! ## Comments that are never closed -/

/-- A line on which a comment is opened, behind what is left out of it and blanks. -/
theorem lineKind_eq_opened {line : List Char} {column : Nat} (h : lineKind line = .opened column) :
    ∃ q ws x, line = q ++ (ws ++ '/' :: '*' :: x) ∧ LeftOut (isBlank ·) q
      ∧ (∀ c ∈ ws, isBlank c) ∧ Unclosed x ∧ column = ws.length + 1 := by
  fun_induction lineKind line with
  | case1 | case4 | case5 | case6 => cases h
  | case2 line cs ht hr =>
    obtain ⟨ws, hline, hws⟩ := exists_blanks_trimFront line
    rw [ht] at hline
    refine ⟨[], ws, cs, hline, .nil, hws, afterComment_eq_none hr, ?_⟩
    have hlength := congrArg List.length hline
    simp only [List.length_append, List.length_cons] at hlength
    cases h
    omega
  | case3 line cs ht rest hr ih =>
    obtain ⟨ws, hline, hws⟩ := exists_blanks_trimFront line
    obtain ⟨inner, rfl, hi⟩ := afterComment_eq_some hr
    obtain ⟨q, ws', x, rfl, hq, hws', hx, hcolumn⟩ := ih h
    rw [ht] at hline
    refine ⟨ws ++ '/' :: '*' :: (inner ++ '*' :: '/' :: q), ws', x, ?_, .block hws hi hq, hws', hx,
      hcolumn⟩
    rw [hline]
    simp

/-- `OpenAt text n front ws rest e`: the text goes on behind `front` with blanks and an opening mark
that is never closed, and the fault stands on the line of the mark when `n` lines come before the
text. -/
structure OpenAt (text : List Char) (n : Nat) (front ws rest : List Char) (e : LeadingError) :
    Prop where
  text : text = front ++ ws ++ '/' :: '*' :: rest
  blanks : ∀ c ∈ ws, isBlank c
  oneLine : '\n' ∉ ws
  unclosed : Unclosed rest
  line : e.line = n + front.count '\n' + 1
  column : e.column = ws.length + 1

/-- The same with one more line in front. -/
theorem OpenAt.cons {text front ws rest : List Char} {n : Nat} {e : LeadingError} {l : List Char}
    (hl : '\n' ∉ l) (h : OpenAt text (n + 1) front ws rest e) :
    OpenAt (l ++ '\n' :: text) n (l ++ '\n' :: front) ws rest e where
  text := by rw [h.text]; simp
  blanks := h.blanks
  oneLine := h.oneLine
  unclosed := h.unclosed
  line := by
    rw [h.line]
    simp only [List.count_append, List.count_cons_self, List.count_eq_zero_of_not_mem hl]
    omega
  column := h.column

/-- The same with more lines in front. -/
theorem OpenAt.append {text front ws rest : List Char} {n : Nat} {e : LeadingError}
    {ls : List (List Char)} (hls : ∀ l ∈ ls, '\n' ∉ l)
    (h : OpenAt text (n + ls.length) front ws rest e) :
    OpenAt (unlines ls ++ text) n (unlines ls ++ front) ws rest e := by
  induction ls generalizing n with
  | nil => exact h
  | cons l ls ih =>
    obtain ⟨hl, hrest⟩ := List.forall_mem_cons.mp hls
    rw [List.length_cons, Nat.add_comm ls.length, ← Nat.add_assoc] at h
    have := (ih hrest h).cons hl
    simpa using this

/-- A section in which a comment stays open: it is the one that is open from the beginning, or it is
opened behind text that is left out. -/
theorem readSection_openComment {offset : Nat} {comment : Option (Nat × Nat)}
    {ls : List (List Char)} {e : LeadingError} (hls : ∀ l ∈ ls, '\n' ∉ l)
    (h : readSection offset comment ls = .error e) (he : e.fault = .openComment) :
    (comment = some (e.line, e.column) ∧ Unclosed (unlines ls))
      ∨ ∃ front ws rest, LeftOutFrom comment front
        ∧ OpenAt (unlines ls) offset front ws rest e := by
  fun_induction readSection offset comment ls with
  | case1 => cases h
  | case2 offset line column =>
    cases h
    exact .inl ⟨rfl, .nil⟩
  | case3 offset comment l ls hv ih =>
    obtain ⟨hl, hrest⟩ := List.forall_mem_cons.mp hls
    rw [unlines_cons]
    rcases ih hrest h with ⟨hopen, hx⟩ | ⟨front, ws, rest, hfront, hat⟩
    · subst hopen
      exact .inl ⟨rfl, (afterComment_eq_none hv).append hx⟩
    · exact .inr ⟨l ++ '\n' :: front, ws, rest, hfront.cons hv, hat.cons hl⟩
  | case4 => cases h
  | case5 offset comment l ls text hv column hk ih =>
    obtain ⟨hl, hrest⟩ := List.forall_mem_cons.mp hls
    obtain ⟨p, rfl, hp, -⟩ := visible_eq_some hl hv
    obtain ⟨q, ws, x, rfl, hq, hws, hx, hcolumn⟩ := lineKind_eq_opened hk
    rw [unlines_cons]
    rcases ih hrest h with ⟨hopen, hy⟩ | ⟨front, ws', rest, hfront, hat⟩
    · -- this comment is the one that stays open
      simp only [Option.some.injEq, Prod.mk.injEq] at hopen
      simp only [List.mem_append, not_or] at hl
      refine .inr ⟨p ++ q, ws, x ++ '\n' :: unlines ls, hp q hq, by simp, hws, hl.2.2.1,
        hx.append hy, ?_, ?_⟩
      · have hfeed : '\n' ∉ p ++ q := fun hc => (List.mem_append.mp hc).elim hl.1 hl.2.1
        rw [List.count_eq_zero_of_not_mem hfeed, ← hopen.1]
      · rw [← hcolumn, ← hopen.2]
    · refine .inr ⟨_, ws', rest, ?_, hat.cons hl⟩
      have := hp _ (leftOut_of_opened hq hws hx hfront)
      simpa using this
  | case6 offset comment l ls text hv hk ih =>
    obtain ⟨hl, hrest⟩ := List.forall_mem_cons.mp hls
    rw [unlines_cons]
    rcases ih hrest h with ⟨hopen, -⟩ | ⟨front, ws, rest, hfront, hat⟩
    · cases hopen
    · exact .inr ⟨_, ws, rest, .passed hl hv hk hfront, hat.cons hl⟩
  | case7 =>
    cases h
    cases he
  | case8 offset comment l ls text hv d hk _ ih =>
    obtain ⟨hl, hrest⟩ := List.forall_mem_cons.mp hls
    cases hr : readSection (offset + 1) none ls with
    | ok s =>
      rw [hr] at h
      cases h
    | error e' =>
      rw [hr] at h
      cases h
      rw [unlines_cons]
      rcases ih hrest hr with ⟨hopen, -⟩ | ⟨front, ws, rest, hfront, hat⟩
      · cases hopen
      · exact .inr ⟨_, ws, rest, .passed hl hv hk hfront, hat.cons hl⟩

/-- The fault of a file in which a comment stays open. -/
theorem Leading.read_openComment {ls : List (List Char)} {e : LeadingError}
    (hls : ∀ l ∈ ls, '\n' ∉ l) (h : Leading.read ls = .error e) (he : e.fault = .openComment) :
    ∃ front ws rest, IsFront ls front ∧ OpenAt (unlines ls) 0 front ws rest e := by
  by_cases hopen : blockOpen <+: ls.headD []
  · obtain ⟨block, rest, rfl, hblock, hread⟩ := Leading.read_of_open hopen
    obtain ⟨hblocks, hrest⟩ := List.forall_mem_append.mp hls
    rw [hread] at h
    cases hr : readSection block.length none rest with
    | ok s =>
      rw [hr] at h
      cases h
    | error e' =>
      rw [hr] at h
      cases h
      rcases readSection_openComment hrest hr he with ⟨hnone, -⟩ | ⟨front, ws, x, hfront, hat⟩
      · cases hnone
      · rw [← Nat.zero_add block.length] at hat
        rw [unlines_append]
        exact ⟨_, ws, x, .block rfl hblock hfront, hat.append hblocks⟩
  · rw [Leading.read_plain hopen] at h
    rcases readSection_openComment hls h he with ⟨hnone, -⟩ | ⟨front, ws, rest, hfront, hat⟩
    · cases hnone
    · exact ⟨front, ws, rest, .plain hopen hfront, hat⟩

/-- The file itself may end without a line feed. -/
theorem OpenAt.of_lineFeed {text front ws rest : List Char} {n : Nat} {e : LeadingError}
    (h : OpenAt (text ++ ['\n']) n front ws rest e) : ∃ rest', OpenAt text n front ws rest' e := by
  have htext := h.text
  rcases List.eq_nil_or_concat rest with rfl | ⟨rest', c, rfl⟩
  · have hsplit : front ++ ws ++ ['/', '*'] = front ++ ws ++ ['/'] ++ ['*'] := by simp
    rw [hsplit] at htext
    have hlast := (List.append_inj' htext rfl).2
    cases hlast
  · have hsplit : front ++ ws ++ '/' :: '*' :: rest'.concat c
        = front ++ ws ++ '/' :: '*' :: rest' ++ [c] := by simp
    rw [hsplit] at htext
    refine ⟨rest', (List.append_inj' htext rfl).1, h.blanks, h.oneLine, ?_, h.line, h.column⟩
    intro hin
    refine h.unclosed (hin.trans ?_)
    rw [List.concat_eq_append]
    exact (List.prefix_append rest' [c]).isInfix

/-- The place of the opening mark. -/
theorem OpenAt.place {text front ws rest : List Char} {e : LeadingError}
    (h : OpenAt text 0 front ws rest e) : Syntax.Position.behind (front ++ ws)
      = ⟨e.line, e.column + (lastLine front).length⟩ := by
  have hws : Syntax.Position.behind ws = ⟨1, ws.length + 1⟩ := by
    have hall : ws.reverse.takeWhile (· != '\n') = ws.reverse :=
      List.takeWhile_eq_self_iff.mpr fun c hc => bne_iff_ne.mpr fun hfeed =>
        h.oneLine (hfeed ▸ List.mem_reverse.mp hc)
    unfold Syntax.Position.behind
    rw [hall, List.count_eq_zero_of_not_mem h.oneLine, List.length_reverse]
  rw [Syntax.Position.behind_append, hws, h.line, h.column]
  simp [Syntax.Position.moved, Nat.add_comm]

/-- When the scan of a file fails because a comment is never closed, the file has an opening mark
behind text that is left out and blanks, and no closing mark behind it. The line of that mark is the
one that is reported. Its column is too, except when another comment ends on the line: what is left
out of the line up to there is not counted. -/
theorem scan_openComment {settings : Settings} {path : String} {h h' : Host} {e : ScanError}
    (hs : scan settings path h = (.error (.scan e), h')) (he : e.error.fault = .openComment) :
    e.path = path ∧ ∃ source front ws rest, ReadsAs settings.encoding (h.find path) source
      ∧ source = front ++ ws ++ '/' :: '*' :: rest
      ∧ IsFront (lines source) front ∧ (∀ c ∈ ws, isBlank c) ∧ Unclosed rest
      ∧ (lastLine front = [] ∨ ['*', '/'] <:+ lastLine front)
      ∧ Syntax.Position.behind (front ++ ws)
        = ⟨e.error.line, e.error.column + (lastLine front).length⟩ := by
  obtain ⟨source, hsource, hpath, hread⟩ := inspect_eq_scan (scan_error hs).1
  have hls : ∀ l ∈ lines source, '\n' ∉ l := fun l hl hc => (Text.mem_lines hl hc).2 rfl
  obtain ⟨front, ws, rest, hfront, hat⟩ := Leading.read_openComment hls hread he
  obtain ⟨rest', hat⟩ : ∃ rest', OpenAt source 0 front ws rest' e.error := by
    rcases Text.unlines_lines source with htext | htext
    · rw [htext] at hat
      exact ⟨rest, hat⟩
    · rw [htext] at hat
      exact hat.of_lineFeed
  exact ⟨hpath, source, front, ws, rest', hsource, hat.text, hfront, hat.blanks, hat.unclosed,
    hfront.lastLine, hat.place⟩

/-- A file with a comment that is closed, and one that is not. -/
def openFile : List Char := "/* a */ /* b\n".toList

/-- A host with that file alone. -/
def openHost : Host :=
  { commentedHost with tree := ⟨[(["a.cs"], .file (Text.encodeUtf8 openFile))]⟩ }

theorem scan_openComment_second :
    ∃ front ws rest, openFile = front ++ ws ++ '/' :: '*' :: rest ∧ Unclosed rest
      ∧ Syntax.Position.behind (front ++ ws) = ⟨1, 2 + (lastLine front).length⟩ := by
  have hscan : scan ⟨none, "utf-8"⟩ "/a.cs" openHost
      = (.error (.scan ⟨"/a.cs", .openComment, 1, 2⟩), (scan ⟨none, "utf-8"⟩ "/a.cs" openHost).2) :=
    Prod.ext (by decide +kernel) rfl
  have hopen : ReadsAs "utf-8" (openHost.find "/a.cs") openFile :=
    .of_encodeUtf8 .utf8 rfl (by decide +kernel) (by decide +kernel) (by decide +kernel)
  obtain ⟨-, source, front, ws, rest, hsource, htext, -, -, hrest, -, hplace⟩ :=
    scan_openComment hscan rfl
  obtain rfl := hsource.unique hopen
  exact ⟨front, ws, rest, htext, hrest, hplace⟩

end BraceScript.Source
