import BraceScript.Diagnostic
import BraceScript.Proofs.Source.EmptyBlock
import BraceScript.Proofs.Syntax.FirstFault
import Mathlib

/-!
# Where compiled text comes from

The text that is compiled is the text of a source file without its front (`scan_origin`): nothing
of a plain file is left out, and of a file with a metadata block the block and the layout and
comments behind it are. A place of the compiled text is then a place of the source, further down
by the line feeds of the front, and on the first line further to the right by its last line
(`Position.behind_append`). The lines are the ones that are reported (`copied_token_reported`). The
columns are too, except on a first line that begins behind a comment.
-/

namespace BraceScript

open Files Source
open Text (unlines unlines_append lines unifyBreaks isBlank)

/-! ## Last lines -/

namespace Text

/-- The characters of a text behind its last line feed. -/
def lastLine (cs : List Char) : List Char := (cs.reverse.takeWhile (· != '\n')).reverse

/-- What stands in front of a line feed does not matter to the last line. -/
theorem lastLine_append_lineFeed (x y : List Char) : lastLine (x ++ '\n' :: y) = lastLine y := by
  unfold lastLine
  have hstop : ('\n' :: x.reverse).takeWhile (· != '\n') = [] :=
    List.takeWhile_cons_of_neg (by simp)
  have hsplit : (x ++ '\n' :: y).reverse = y.reverse ++ '\n' :: x.reverse := by simp
  rw [hsplit, List.takeWhile_append]
  split
  · next hall =>
    rw [hstop, List.append_nil, List.reverse_inj]
    exact ((List.takeWhile_prefix _).eq_of_length hall).symm
  · rfl

theorem lastLine_unlines_append (ls : List (List Char)) (x : List Char) :
    lastLine (unlines ls ++ x) = lastLine x := by
  induction ls with
  | nil => rfl
  | cons l ls ih => rw [unlines_cons, List.append_assoc, List.cons_append,
      lastLine_append_lineFeed, ih]

/-- A text that ends with characters other than line feeds has them on its last line. -/
theorem suffix_lastLine {x cs : List Char} (hx : '\n' ∉ x) (h : x <:+ cs) : x <:+ lastLine cs := by
  obtain ⟨front, rfl⟩ := h
  unfold lastLine
  rw [List.reverse_append, List.takeWhile_append_of_pos]
  · rw [List.reverse_append, List.reverse_reverse]
    exact List.suffix_append _ _
  · intro c hc
    rw [bne_iff_ne]
    rintro rfl
    exact hx (List.mem_reverse.mp hc)

end Text

open Text (lastLine lastLine_append_lineFeed lastLine_unlines_append suffix_lastLine)

namespace Syntax.Position

/-- A place of a text, when other text stands in front of it. -/
theorem behind_append (front cs : List Char) : behind (front ++ cs)
    = (behind cs).moved (front.count '\n') (lastLine front).length := by
  have hstart : behind front
      = Position.start.moved (front.count '\n') (lastLine front).length := by
    unfold behind moved lastLine start
    simp [Nat.add_comm]
  rw [← advance_start, advance_append, advance_start, hstart, ← moved_advance (le_refl 1),
    advance_start]

end Syntax.Position

/-- The place that is reported by the unit that owns the file. -/
theorem Diagnostic.location?_of_owner {d : Diagnostic} {units : List SourceUnit} {u : SourceUnit}
    (h : d.owner? units = some u) :
    d.location? units = some ⟨u.sourcePath, d.line + u.lineOffset, d.column⟩ := by
  unfold location?
  rw [h]
  unfold owner? at h
  cases hfile : d.file with
  | none =>
    rw [hfile] at h
    cases h
  | some file => rfl

namespace Source

/-! ## Fronts -/

/-- What is left out in front of the code ends its line, or ends with a comment. -/
theorem LeftOut.lastLine {P : Char → Prop} {cs : List Char} (h : LeftOut P cs) :
    lastLine cs = [] ∨ ['*', '/'] <:+ lastLine cs := by
  have hends : cs = [] ∨ ['\n'] <:+ cs ∨ ['*', '/'] <:+ cs := by
    -- what ends a text ends it behind other text too, and a mark ends it when nothing follows
    have hbehind {x y z : List Char} (hz : z <:+ y) : z <:+ x ++ y :=
      hz.trans (List.suffix_append x y)
    have hmark (x : List Char) {y z : List Char} (hz : z = ['\n'] ∨ z = ['*', '/'])
        (hy : y = [] ∨ ['\n'] <:+ y ∨ ['*', '/'] <:+ y) :
        x ++ z ++ y = [] ∨ ['\n'] <:+ x ++ z ++ y ∨ ['*', '/'] <:+ x ++ z ++ y := by
      rcases hy with rfl | hy | hy
      · rw [List.append_nil]
        rcases hz with rfl | rfl
        · exact .inr (.inl (List.suffix_append _ _))
        · exact .inr (.inr (List.suffix_append _ _))
      · exact .inr (.inl (hbehind hy))
      · exact .inr (.inr (hbehind hy))
    induction h with
    | nil => exact .inl rfl
    | @lineEnd ws cs _ _ ih =>
      have hsplit : ws ++ '\n' :: cs = ws ++ ['\n'] ++ cs := by simp
      rw [hsplit]
      exact hmark ws (.inl rfl) ih
    | @block ws inner cs _ _ _ ih =>
      have hsplit : ws ++ '/' :: '*' :: (inner ++ '*' :: '/' :: cs)
          = ws ++ '/' :: '*' :: inner ++ ['*', '/'] ++ cs := by simp
      rw [hsplit]
      exact hmark _ (.inr rfl) ih
    | @line ws inner cs _ _ _ ih =>
      have hsplit : ws ++ '/' :: '/' :: (inner ++ '\n' :: cs)
          = ws ++ '/' :: '/' :: inner ++ ['\n'] ++ cs := by simp
      rw [hsplit]
      exact hmark _ (.inl rfl) ih
  rcases hends with rfl | ⟨front, rfl⟩ | hmark
  · exact .inl rfl
  · exact .inl (lastLine_append_lineFeed front [])
  · exact .inr (suffix_lastLine (by decide) hmark)

/-- `IsFront ls front`: the text `front` may be left out in front of the code of a file with the
lines `ls`. It is the metadata block, if there is one, with line ends and comments behind it. -/
inductive IsFront (ls : List (List Char)) : List Char → Prop
  | plain {skipped : List Char} : ¬ blockOpen <+: ls.headD [] → LeftOut (isBlank ·) skipped →
    IsFront ls skipped
  | block {block rest : List (List Char)} {skipped : List Char} : ls = block ++ rest →
    MetadataBlock block rest → LeftOut (isBlank ·) skipped → IsFront ls (unlines block ++ skipped)

theorem IsFront.lastLine {ls : List (List Char)} {front : List Char} (h : IsFront ls front) :
    lastLine front = [] ∨ ['*', '/'] <:+ lastLine front := by
  cases h with
  | plain _ hskipped => exact hskipped.lastLine
  | block _ _ hskipped =>
    rw [lastLine_unlines_append]
    exact hskipped.lastLine

/-- A leading section and what is left make up the lines, and the offset counts the line feeds of
the section. -/
theorem Leading.read_front {ls : List (List Char)} {s : Leading} (hls : ∀ l ∈ ls, '\n' ∉ l)
    (h : Leading.read ls = .ok s) :
    ∃ front, IsFront ls front ∧ front ++ unlines s.body = unlines ls
      ∧ s.offset = front.count '\n' := by
  by_cases hopen : blockOpen <+: ls.headD []
  · obtain ⟨block, rest, rfl, hblock, hread⟩ := Leading.read_of_open hopen
    obtain ⟨hblocks, hrest⟩ := List.forall_mem_append.mp hls
    rw [hread] at h
    cases hr : readSection block.length none rest with
    | error e =>
      rw [hr] at h
      cases h
    | ok s' =>
      rw [hr] at h
      cases h
      obtain ⟨n, skipped, hoffset, hcut, hskipped⟩ := readSection_ok hrest hr
      obtain ⟨htext, hcount⟩ := hcut.text hrest
      refine ⟨unlines block ++ skipped, .block rfl hblock hskipped, ?_, ?_⟩
      · rw [List.append_assoc, htext, unlines_append]
      · rw [List.count_append, Text.count_unlines hblocks, hcount]
        exact hoffset
  · rw [Leading.read_plain hopen] at h
    obtain ⟨n, skipped, hoffset, hcut, hskipped⟩ := readSection_ok hls h
    obtain ⟨htext, hcount⟩ := hcut.text hls
    exact ⟨skipped, .plain hopen hskipped, htext, by omega⟩

/-! ## Units -/

/-- `ReadsAs encoding found text`: what a path leads to is a file, and in the encoding it holds the
text, every line end being read as a line feed. -/
def ReadsAs (encoding : String) (found : Found) (text : List Char) : Prop :=
  ∃ bytes enc cs, found = .file bytes ∧ Text.Encoding.ofName? encoding = some enc
    ∧ enc.decode bytes = .ok cs ∧ text = unifyBreaks cs

theorem ReadsAs.unique {encoding : String} {found : Found} {text text' : List Char}
    (h : ReadsAs encoding found text) (h' : ReadsAs encoding found text') : text = text' := by
  obtain ⟨bytes, enc, cs, hfile, henc, hcs, rfl⟩ := h
  obtain ⟨bytes', enc', cs', hfile', henc', hcs', rfl⟩ := h'
  obtain rfl := Found.file.inj (hfile.symm.trans hfile')
  obtain rfl := Option.some.inj (henc.symm.trans henc')
  obtain rfl := Except.ok.inj (hcs.symm.trans hcs')
  rfl

/-- What is written in UTF-8 with line feeds only is read as it is. -/
theorem ReadsAs.of_encodeUtf8 {encoding : String} {found : Found} {text : List Char}
    (enc : Text.Encoding) (hfile : found = .file (Text.encodeUtf8 text))
    (henc : Text.Encoding.ofName? encoding = some enc)
    (hdecode : enc.decode (Text.encodeUtf8 text) = .ok text) (hbreaks : '\r' ∉ text) :
    ReadsAs encoding found text :=
  ⟨_, enc, text, hfile, henc, hdecode, (Text.unifyBreaks_eq_self hbreaks).symm⟩

/-- `Origin source text front u`: the unit of a file with the text `source` is compiled from the
text `text`, and `front` is what is left out. A copy ends with a line feed even if the source ends
without one. -/
structure Origin (source text front : List Char) (u : SourceUnit) : Prop where
  whole : front ++ text = source
    ∨ u.isCopied = true ∧ ¬['\n'] <:+ source ∧ front ++ text = source ++ ['\n']
  offset : u.lineOffset = front.count '\n'
  plain : u.isCopied = false → front = []
  copied : u.isCopied = true → IsFront (lines source) front

theorem Scanned.isCopied {settings : Settings} {path : String} {h h' : Host} {f : Front}
    {u : SourceUnit} (hu : Scanned settings path h f u h') :
    u.isCopied = f.leading.hasBlock := by
  unfold SourceUnit.isCopied
  rw [hu.sourcePath]
  cases hb : f.leading.hasBlock with
  | false => rw [(hu.plain hb).1, bne_self_eq_false]
  | true => exact bne_iff_ne.mpr (hu.copied hb).2.1

/-- Nothing of a plain file is left out. -/
theorem scan_lineOffset {settings : Settings} {path : String} {h h' : Host} {u : SourceUnit}
    (hs : scan settings path h = (.ok u, h')) (hu : u.isCopied = false) : u.lineOffset = 0 := by
  obtain ⟨g, hscanned⟩ := scan_ok hs
  rw [hscanned.isCopied] at hu
  unfold scan at hs
  obtain ⟨f, h₁, hfront, hs⟩ := Act.bind_eq_ok.mp hs
  obtain rfl : f = g := by
    have hinspected := hscanned.inspected
    unfold inspect at hinspected
    rw [hfront] at hinspected
    dsimp only at hinspected
    split at hinspected
    · cases hinspected
    · exact Except.ok.inj hinspected
  rw [hu] at hs
  rw [if_neg Bool.false_ne_true, Act.bind_of_ok (tell_apply _ _)] at hs
  cases hs
  rfl

/-- A file that is scanned can be read, and so can its copy, which holds the text of the file
without its front. -/
theorem scan_origin {settings : Settings} {path : String} {h h' : Host} {u : SourceUnit}
    (hs : scan settings path h = (.ok u, h')) :
    ∃ source text front, ReadsAs settings.encoding (h.find path) source
      ∧ (u.isCopied = true → ReadsAs settings.encoding (h'.findCompiled u.compilePath) text)
      ∧ Origin source text front u := by
  obtain ⟨f, hu⟩ := scan_ok hs
  obtain ⟨bytes, cs, hfile, henc, hcs, hread⟩ := inspect_ok hu.inspected
  rw [Text.Encoding.decodeInBlocks_eq_ok_iff] at hcs
  have hcopied := hu.isCopied
  have hsource : ReadsAs settings.encoding (h.find path) (unifyBreaks cs) :=
    ⟨bytes, f.encoding, cs, hfile, henc, hcs, rfl⟩
  cases hb : f.leading.hasBlock with
  | false =>
    rw [hb] at hcopied
    refine ⟨unifyBreaks cs, unifyBreaks cs, [], hsource, by simp [hcopied], .inl rfl,
      scan_lineOffset hs hcopied, fun _ => rfl, by simp [hcopied]⟩
  | true =>
    rw [hb] at hcopied
    have hls : ∀ l ∈ lines (unifyBreaks cs), '\n' ∉ l := fun l hl hc =>
      (Text.mem_lines hl hc).2 rfl
    obtain ⟨front, hfront, htext, hoffset⟩ := Leading.read_front hls hread
    obtain ⟨hdecode, hunify⟩ := decode_left hcs htext
    refine ⟨unifyBreaks cs, unlines f.leading.body, front, hsource, fun _ => ?_, ?_,
      (hu.copied hb).1.trans hoffset, by simp [hcopied], fun _ => hfront⟩
    · exact ⟨compiledBytes f, f.encoding, _, hu.findCompiled hb, henc, hdecode, hunify.symm⟩
    · rw [htext]
      by_cases hfeed : ['\n'] <:+ unifyBreaks cs
      · obtain ⟨init, hinit⟩ := hfeed
        rw [← hinit]
        exact .inl (Text.unlines_lines_lineFeed init)
      · exact (Text.unlines_lines _).imp_right fun h => ⟨hcopied, hfeed, h⟩

/-! ## Tokens -/

/-- A token of a compiled text, and the place where it stands in the source, whose text goes on
behind `front` like the compiled text. -/
def StandsBehind (front source : List Char) (t : Syntax.Token) (p : Syntax.Position) : Prop :=
  ∃ before rest, t.position = .behind before
    ∧ source = front ++ before ++ t.text.toList ++ rest ∧ p = .behind (front ++ before)

/-- Each token of a compiled text stands in the source, further down by the lines that are left
out, and on the first line further to the right. -/
theorem Origin.stands {source text front : List Char} {u : SourceUnit}
    (h : Origin source text front u) {t : Syntax.Token} (ht : t ∈ (Syntax.scan text).tokens) :
    StandsBehind front source t (t.position.moved u.lineOffset (lastLine front).length) := by
  -- the source goes on behind the front with a text that has the same tokens
  have hbody : ∃ body, source = front ++ body ∧ t ∈ (Syntax.scan body).tokens := by
    rcases h.whole with hwhole | ⟨-, -, hwhole⟩
    · exact ⟨text, hwhole.symm, ht⟩
    · rcases List.eq_nil_or_concat text with rfl | ⟨body, c, rfl⟩
      · rw [Syntax.scan, Syntax.scanFrom] at ht
        cases ht
      · rw [List.concat_eq_append, ← List.append_assoc] at hwhole
        obtain ⟨hsource, hc⟩ := List.append_inj' hwhole rfl
        cases hc
        refine ⟨body, hsource.symm, ?_⟩
        rwa [List.concat_eq_append, Syntax.scan, Syntax.scanFrom_lineFeed] at ht
  obtain ⟨body, rfl, ht⟩ := hbody
  obtain ⟨before, rest, rfl, hplace⟩ := (Syntax.scanFrom_stands [] body).1 t ht
  refine ⟨before, rest, hplace, by simp, ?_⟩
  rw [Syntax.Position.behind_append, hplace, h.offset]

/-- A diagnostic at a token of a copy is reported for the source file. Its line is the one on which
the token stands there. Its column is too, except on the first line of the copy when a comment ends
in front of it: what is left out of that line up to the end of the comment is not counted. -/
theorem copied_token_reported {settings : Settings} {path : String} {h h' : Host} {u : SourceUnit}
    (hs : scan settings path h = (.ok u, h')) (hu : u.isCopied = true) :
    ∃ source text front, ReadsAs settings.encoding (h.find path) source
      ∧ ReadsAs settings.encoding (h'.findCompiled u.compilePath) text
      ∧ Origin source text front u
      ∧ (lastLine front = [] ∨ ['*', '/'] <:+ lastLine front)
      ∧ ∀ t ∈ (Syntax.scan text).tokens, ∀ (problem : Problem) units,
        (problem.at u.compilePath t.position).owner? units = some u →
        ∃ l, (problem.at u.compilePath t.position).location? units = some l ∧ l.path = path
          ∧ StandsBehind front source t ⟨l.line,
            if t.position.line = 1 then l.column + (lastLine front).length else l.column⟩ := by
  obtain ⟨source, text, front, hsource, htext, horigin⟩ := scan_origin hs
  obtain ⟨_, hscanned⟩ := scan_ok hs
  refine ⟨source, text, front, hsource, htext hu, horigin, (horigin.copied hu).lastLine,
    fun t ht problem units howner => ?_⟩
  exact ⟨_, Diagnostic.location?_of_owner howner, hscanned.sourcePath, horigin.stands ht⟩

/-- The unit of a file whose code begins behind a comment. -/
def commentedUnit : SourceUnit := ⟨"/a.cs", "/csrun-00000000.cs", 4, [], []⟩

theorem commentedHost_readsAs : ReadsAs "utf-8" (commentedHost.find "/a.cs") commentedFile :=
  .of_encodeUtf8 .utf8 rfl (by decide +kernel) (by decide +kernel) (by decide +kernel)

theorem copied_token_reported_commented :
    ∃ text front, Origin commentedFile text front commentedUnit
      ∧ ∀ t ∈ (Syntax.scan text).tokens, ∃ l,
        (Problem.unexpectedEnd.at commentedUnit.compilePath t.position).location? [commentedUnit]
          = some l
        ∧ StandsBehind front commentedFile t ⟨l.line,
          if t.position.line = 1 then l.column + (lastLine front).length else l.column⟩ := by
  have hscan : scan ⟨none, "utf-8"⟩ "/a.cs" commentedHost
      = (.ok commentedUnit, (scan ⟨none, "utf-8"⟩ "/a.cs" commentedHost).2) :=
    Prod.ext (by decide +kernel) rfl
  obtain ⟨source, text, front, hsource, -, horigin, -, htokens⟩ :=
    copied_token_reported hscan (by decide)
  obtain rfl := hsource.unique commentedHost_readsAs
  refine ⟨text, front, horigin, fun t ht => ?_⟩
  obtain ⟨l, hl, -, hstands⟩ := htokens t ht .unexpectedEnd [commentedUnit]
    (by simp [Diagnostic.owner?, Problem.at])
  exact ⟨l, hl, hstands⟩

end Source

end BraceScript
