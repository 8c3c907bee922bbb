import BraceScript.Proofs.Source.Leading
import BraceScript.Syntax.Lexer
import Mathlib

/-!
# Tokens and the text between them

Layout and comments in front of a text only say where its tokens begin (`scanFrom_leftOut`), and a
line feed behind it changes nothing at all (`scanFrom_lineFeed`). A text that begins elsewhere has
the same tokens at other places (`scanFrom_moved`). So nothing happens to the tokens when layout
and comments are left out in front, except that they move (`scan_leftOut`).
-/

namespace BraceScript.Syntax

open Source (Unclosed LeftOut)

/-! ## Places -/

namespace Position

@[simp]
theorem advance_nil (p : Position) : p.advance [] = p := rfl

@[simp]
theorem advance_cons (p : Position) (c : Char) (cs : List Char) :
    p.advance (c :: cs) = (p.next c).advance cs := rfl

@[simp]
theorem advance_append (p : Position) (x y : List Char) :
    p.advance (x ++ y) = (p.advance x).advance y :=
  List.foldl_append

theorem next_line (p : Position) (c : Char) :
    (p.next c).line = p.line + if c = '\n' then 1 else 0 := by
  unfold next
  split <;> rfl

/-- Every line feed ends a line. -/
theorem advance_line (p : Position) (cs : List Char) :
    (p.advance cs).line = p.line + cs.count '\n' := by
  induction cs generalizing p with
  | nil => rfl
  | cons c cs ih =>
    rw [advance_cons, ih, next_line, List.count_cons]
    simp only [beq_iff_eq]
    omega

end Position

/-! ## Layout and comments in front -/

theorem take_length_takeWhile {α : Type} (p : α → Bool) (l : List α) :
    l.take (l.takeWhile p).length = l.takeWhile p :=
  (List.prefix_iff_eq_take.mp (List.takeWhile_prefix p)).symm

theorem drop_length_takeWhile {α : Type} (p : α → Bool) (l : List α) :
    l.drop (l.takeWhile p).length = l.dropWhile p := by
  have h := congrArg (List.drop (l.takeWhile p).length) (l.takeWhile_append_dropWhile (p := p))
  rw [List.drop_left] at h
  exact h.symm

theorem scanFrom_of_ignored {c : Char} {cs : List Char} {n : Nat} (h : pieceAt c cs = .ignored n)
    (p : Position) : scanFrom p (c :: cs) = scanFrom (p.advance (c :: cs.take n)) (cs.drop n) := by
  rw [scanFrom, h]

/-- Layout is ignored as far as it goes. -/
theorem scanFrom_dropWhile (p : Position) (cs : List Char) :
    scanFrom p cs = scanFrom (p.advance (cs.takeWhile isLayout)) (cs.dropWhile isLayout) := by
  cases cs with
  | nil => rfl
  | cons c cs =>
    by_cases hc : isLayout c
    · have hpiece : pieceAt c cs = .ignored (cs.takeWhile isLayout).length := by
        unfold pieceAt
        rw [if_pos hc]
      rw [scanFrom_of_ignored hpiece, List.takeWhile_cons_of_pos hc, List.dropWhile_cons_of_pos hc,
        take_length_takeWhile, drop_length_takeWhile]
    · rw [List.takeWhile_cons_of_neg hc, List.dropWhile_cons_of_neg hc]
      rfl

theorem scanFrom_layout {c : Char} (hc : isLayout c) (p : Position) (cs : List Char) :
    scanFrom p (c :: cs) = scanFrom (p.next c) cs := by
  rw [scanFrom_dropWhile p, scanFrom_dropWhile (p.next c), List.takeWhile_cons_of_pos hc,
    List.dropWhile_cons_of_pos hc, Position.advance_cons]

theorem scanFrom_layouts {ws : List Char} (hws : ∀ c ∈ ws, isLayout c) (p : Position)
    (cs : List Char) : scanFrom p (ws ++ cs) = scanFrom (p.advance ws) cs := by
  induction ws generalizing p with
  | nil => rfl
  | cons c ws ih =>
    obtain ⟨hc, hws⟩ := List.forall_mem_cons.mp hws
    rw [List.cons_append, scanFrom_layout hc, ih hws, Position.advance_cons]

/-- A comment goes on to its first closing mark. -/
theorem commentRest_unclosed {inner : List Char} (hi : Unclosed inner) (cs : List Char) :
    commentRest (inner ++ '*' :: '/' :: cs) = some (inner.length + 2) := by
  induction inner with
  | nil => rfl
  | cons c inner ih =>
    have hinner : Unclosed inner := fun h => hi (List.infix_cons_iff.mpr (.inr h))
    have hne : ∀ rest, ¬ (c = '*' ∧ inner ++ '*' :: '/' :: cs = '/' :: rest) := by
      rintro rest ⟨rfl, hrest⟩
      cases inner with
      | nil => cases hrest
      | cons d inner =>
        rw [List.cons_append, List.cons.injEq] at hrest
        obtain ⟨rfl, -⟩ := hrest
        exact hi (List.prefix_append ['*', '/'] inner).isInfix
    rw [List.cons_append, commentRest, ih hinner]
    · rfl
    · intro rest hc hrest
      exact hne rest ⟨hc, hrest⟩

theorem scanFrom_block {inner : List Char} (hi : Unclosed inner) (p : Position)
    (cs : List Char) : scanFrom p ('/' :: '*' :: (inner ++ '*' :: '/' :: cs))
      = scanFrom (p.advance ('/' :: '*' :: (inner ++ ['*', '/']))) cs := by
  have hpiece : pieceAt '/' ('*' :: (inner ++ '*' :: '/' :: cs))
      = .ignored ('*' :: (inner ++ ['*', '/'])).length := by
    have hlen : ('*' :: (inner ++ ['*', '/'])).length = 1 + (inner.length + 2) := by
      simp [Nat.add_comm]
    rw [hlen]
    simp [pieceAt, commentRest_unclosed hi, show isLayout '/' = false by decide,
      show isNameStart '/' = false by decide, show Text.isDigit '/' = false by decide]
  have hsplit : '*' :: (inner ++ '*' :: '/' :: cs) = '*' :: (inner ++ ['*', '/']) ++ cs := by simp
  rw [scanFrom_of_ignored hpiece, hsplit, List.take_left, List.drop_left]

theorem scanFrom_line {inner : List Char} (hi : '\n' ∉ inner) (p : Position) (cs : List Char) :
    scanFrom p ('/' :: '/' :: (inner ++ '\n' :: cs))
      = scanFrom (p.advance ('/' :: '/' :: (inner ++ ['\n']))) cs := by
  have htake : (inner ++ '\n' :: cs).takeWhile (· != '\n') = inner := by
    rw [List.takeWhile_append_of_pos, List.takeWhile_cons_of_neg (by simp), List.append_nil]
    intro c hc
    rw [bne_iff_ne]
    rintro rfl
    exact hi hc
  have hpiece : pieceAt '/' ('/' :: (inner ++ '\n' :: cs)) = .ignored ('/' :: inner).length := by
    rw [List.length_cons, Nat.add_comm]
    simp [pieceAt, htake, show isLayout '/' = false by decide,
      show isNameStart '/' = false by decide, show Text.isDigit '/' = false by decide]
  have hsplit : '/' :: (inner ++ '\n' :: cs) = '/' :: inner ++ '\n' :: cs := rfl
  rw [scanFrom_of_ignored hpiece, hsplit, List.take_left, List.drop_left,
    scanFrom_layout (by decide)]
  simp

/-- The tokens behind layout and comments. -/
theorem scanFrom_leftOut {front : List Char} (h : LeftOut (isLayout ·) front) (p : Position)
    (cs : List Char) : scanFrom p (front ++ cs) = scanFrom (p.advance front) cs := by
  induction h generalizing p with
  | nil => rfl
  | @lineEnd ws front hws _ ih =>
    rw [List.append_assoc, scanFrom_layouts hws, List.cons_append, scanFrom_layout (by decide), ih,
      Position.advance_append, Position.advance_cons]
  | @block ws inner front hws hi _ ih =>
    have hsplit : ws ++ '/' :: '*' :: (inner ++ '*' :: '/' :: front) ++ cs
        = ws ++ '/' :: '*' :: (inner ++ '*' :: '/' :: (front ++ cs)) := by simp
    rw [hsplit, scanFrom_layouts hws, scanFrom_block hi, ih]
    simp
  | @line ws inner front hws hi _ ih =>
    have hsplit : ws ++ '/' :: '/' :: (inner ++ '\n' :: front) ++ cs
        = ws ++ '/' :: '/' :: (inner ++ '\n' :: (front ++ cs)) := by simp
    rw [hsplit, scanFrom_layouts hws, scanFrom_line hi, ih]
    simp

/-! ## Layout behind -/

/-- A text that may stand behind a token: it is empty or begins with layout. -/
def Apart (rest : List Char) : Prop := ∀ c ∈ rest.head?, isLayout c = true

theorem Apart.nil : Apart [] := fun _ h => nomatch h

theorem Apart.cons {c : Char} (hc : isLayout c) (cs : List Char) : Apart (c :: cs) := by
  rintro _ ⟨⟩
  exact hc

theorem apart_lineFeed : Apart ['\n'] := .cons (by decide) []

theorem forall_isLayout {p : Char → Prop} :
    (∀ c, isLayout c → p c) ↔ p ' ' ∧ p '\t' ∧ p '\x0c' ∧ p '\r' ∧ p '\n' := by
  simp [isLayout]

/-- A run of characters ends where one of another kind stands. -/
theorem takeWhile_append_of_head {p : Char → Bool} {rest : List Char}
    (h : ∀ c ∈ rest.head?, p c = false) (cs : List Char) :
    (cs ++ rest).takeWhile p = cs.takeWhile p := by
  induction cs with
  | nil =>
    cases rest with
    | nil => rfl
    | cons c rest =>
      rw [List.nil_append, List.takeWhile_cons_of_neg (by simp [h c rfl]), List.takeWhile_nil]
  | cons c cs ih =>
    rw [List.cons_append]
    by_cases hc : p c
    · rw [List.takeWhile_cons_of_pos hc, List.takeWhile_cons_of_pos hc, ih]
    · rw [List.takeWhile_cons_of_neg hc, List.takeWhile_cons_of_neg hc]

/-- A mark is found in front of what holds none of its characters. -/
theorem isPrefixOf_append_of_head {mark rest : List Char} (h : ∀ c ∈ rest.head?, c ∉ mark)
    (cs : List Char) : mark.isPrefixOf (cs ++ rest) = mark.isPrefixOf cs := by
  induction mark generalizing cs with
  | nil => simp
  | cons d mark ih =>
    have htail : ∀ c ∈ rest.head?, c ∉ mark := fun c hc hmem => h c hc (List.mem_cons_of_mem d hmem)
    cases cs with
    | nil =>
      cases rest with
      | nil => rfl
      | cons c rest =>
        have hne : d ≠ c := fun heq => h c rfl (heq ▸ List.mem_cons_self)
        simp [List.isPrefixOf, hne]
    | cons c cs => simp [List.isPrefixOf, ih htail]

theorem isDigit_of_isLayout : ∀ c, isLayout c → Text.isDigit c = false :=
  forall_isLayout.mpr (by decide)

theorem isNameRest_of_isLayout : ∀ c, isLayout c → isNameRest c = false :=
  forall_isLayout.mpr (by decide)

theorem numberRest_le (cs : List Char) : numberRest cs ≤ cs.length := by
  have hwhole := (List.takeWhile_prefix (p := Text.isDigit) (l := cs)).length_le
  unfold numberRest
  extract_lets whole
  split
  · next d rest hrest =>
    have hlen := congrArg List.length hrest
    have hfraction := (List.takeWhile_prefix (p := Text.isDigit) (l := rest)).length_le
    rw [List.length_drop, List.length_cons, List.length_cons] at hlen
    split <;> omega
  · exact hwhole

theorem Apart.numberRest_append {rest : List Char} (hrest : Apart rest) (cs : List Char) :
    numberRest (cs ++ rest) = numberRest cs := by
  have hdigit : ∀ c ∈ rest.head?, Text.isDigit c = false :=
    fun c hc => isDigit_of_isLayout c (hrest c hc)
  have hpoint : ∀ c, isLayout c → c ≠ '.' := forall_isLayout.mpr (by decide)
  have hwhole := (List.takeWhile_prefix (p := Text.isDigit) (l := cs)).length_le
  unfold numberRest
  simp only
  rw [takeWhile_append_of_head hdigit, List.drop_append_of_le_length hwhole]
  generalize cs.drop (cs.takeWhile Text.isDigit).length = left
  match left with
  | [] =>
    cases rest with
    | nil => rfl
    | cons c rest => simp [hpoint c (hrest c rfl)]
  | [c] =>
    by_cases hc : c = '.'
    · cases rest with
      | nil => rfl
      | cons d rest => simp [hc, hdigit d rfl]
    · simp [hc]
  | c :: d :: left =>
    by_cases hc : c = '.'
    · simp [hc, takeWhile_append_of_head hdigit]
    · simp [hc]

theorem stringRest_le {cs : List Char} {n : Nat} (h : stringRest cs = some n) :
    n ≤ cs.length := by
  fun_induction stringRest cs generalizing n with
  | case1 => cases h
  | case2 cs =>
    cases h
    simp
  | case3 => cases h
  | case4 => cases h
  | case5 c cs hne ih =>
    obtain ⟨m, hm, rfl⟩ := Option.map_eq_some_iff.mp h
    simpa using ih hm
  | case6 => cases h
  | case7 c cs h1 h2 h3 h4 h5 ih =>
    obtain ⟨m, hm, rfl⟩ := Option.map_eq_some_iff.mp h
    simpa using ih hm

theorem stringRest_lineFeed (cs : List Char) : stringRest (cs ++ ['\n']) = stringRest cs := by
  fun_induction stringRest cs with
  | case1 => rfl
  | case2 => rfl
  | case3 => rfl
  | case4 => rfl
  | case5 c cs hne ih =>
    rw [List.cons_append, List.cons_append, stringRest, ih]
    exact hne
  | case6 => rfl
  | case7 c cs hquote hfeed h3 h4 h5 ih =>
    have hslash : c ≠ '\\' := by
      rintro rfl
      cases cs with
      | nil => exact h5 rfl rfl
      | cons d ds => exact h4 d ds rfl rfl
    rw [List.cons_append, stringRest, ih]
    · exact hquote
    · exact hfeed
    · exact fun _ h => absurd h hslash
    · exact fun _ _ h => absurd h hslash
    · exact fun h => absurd h hslash

theorem charRest_le {cs : List Char} {n : Nat} (h : charRest cs = some n) : n ≤ cs.length := by
  unfold charRest at h
  split at h
  · split at h <;> cases h
    simp
  · split at h <;> cases h
    simp
  · cases h

theorem charRest_lineFeed (cs : List Char) : charRest (cs ++ ['\n']) = charRest cs := by
  match cs with
  | [] => rfl
  | [c] => simp [charRest]
  | [c, d] =>
    by_cases hd : d = '\''
    · simp [charRest, hd]
    · simp [charRest, hd]
  | c :: d :: e :: cs =>
    by_cases hc : c = '\\' <;> by_cases hd : d = '\'' <;> by_cases he : e = '\'' <;>
      simp [charRest, hc, hd, he]

theorem commentRest_le {cs : List Char} {n : Nat} (h : commentRest cs = some n) :
    n ≤ cs.length := by
  fun_induction commentRest cs generalizing n with
  | case1 => cases h
  | case2 cs =>
    cases h
    simp
  | case3 c cs _ ih =>
    obtain ⟨m, hm, rfl⟩ := Option.map_eq_some_iff.mp h
    simpa using ih hm

theorem commentRest_lineFeed (cs : List Char) : commentRest (cs ++ ['\n']) = commentRest cs := by
  fun_induction commentRest cs with
  | case1 => rfl
  | case2 => rfl
  | case3 c cs hne ih =>
    rw [List.cons_append, commentRest, ih]
    intro rest hc hrest
    cases cs with
    | nil => simp at hrest
    | cons d cs =>
      rw [List.cons_append, List.cons.injEq] at hrest
      exact hne cs hc (by rw [hrest.1])

theorem Apart.signAt_append {rest : List Char} (hrest : Apart rest) (cs : List Char) :
    signAt (cs ++ rest) = signAt cs := by
  have hsigns : ∀ s ∈ signs, ∀ c ∈ s.1, isLayout c = false := by simp [signs, isLayout]
  unfold signAt
  generalize signs = ss at hsigns
  induction ss with
  | nil => rfl
  | cons s ss ih =>
    obtain ⟨hs, hss⟩ := List.forall_mem_cons.mp hsigns
    have hapart : ∀ c ∈ rest.head?, c ∉ s.1 := by
      intro c hc hmem
      exact Bool.false_ne_true ((hs c hmem).symm.trans (hrest c hc))
    rw [List.find?_cons, List.find?_cons, isPrefixOf_append_of_head hapart, ih hss]

theorem Apart.signPiece_append {rest : List Char} (hrest : Apart rest) (c : Char)
    (cs : List Char) : signPiece c (cs ++ rest) = signPiece c cs := by
  unfold signPiece
  rw [← List.cons_append, hrest.signAt_append]

/-! ## A line feed behind -/

/-- Behind a piece that is no layout a line feed makes no difference. -/
theorem pieceAt_lineFeed {c : Char} (hc : isLayout c = false) (cs : List Char) :
    pieceAt c (cs ++ ['\n']) = pieceAt c cs := by
  have hfeed := apart_lineFeed
  have hname : ∀ c ∈ ['\n'].head?, isNameRest c = false := by simp [isNameRest]
  have hend : ∀ c ∈ ['\n'].head?, (c != '\n') = false := by simp
  unfold pieceAt
  simp only [hc, Bool.false_eq_true, if_false, hfeed.numberRest_append,
    takeWhile_append_of_head hname]
  congr 2
  by_cases hquote : c = '"'
  · simp only [hquote, stringRest_lineFeed]
  · by_cases hmark : c = '\''
    · simp only [hmark, charRest_lineFeed]
    · by_cases hslash : c = '/'
      · subst hslash
        match cs with
        | [] => exact hfeed.signPiece_append '/' []
        | d :: cs =>
          by_cases hline : d = '/'
          · simp [hline, takeWhile_append_of_head hend]
          · by_cases hblock : d = '*'
            · subst hblock
              simp only [List.cons_append, commentRest_lineFeed, ← hfeed.signPiece_append '/' ('*' :: cs)]
            · simp [hline, hblock, ← hfeed.signPiece_append '/' (d :: cs)]
      · simp [hslash, hfeed.signPiece_append]

/-- How many characters a piece takes behind its first one. -/
def Piece.rest : Piece → Nat
  | .ignored n | .token _ n => n
  | .unknown => 0

theorem signPiece_rest_le (c : Char) (cs : List Char) : (signPiece c cs).rest ≤ cs.length := by
  unfold signPiece
  split
  · next text s hsign =>
    have hprefix : text <+: c :: cs := by
      simpa using List.find?_some hsign
    have hlen := hprefix.length_le
    rw [List.length_cons] at hlen
    show text.length - 1 ≤ cs.length
    omega
  · exact Nat.zero_le _

/-- A piece is a front of its text. -/
theorem pieceAt_rest_le (c : Char) (cs : List Char) : (pieceAt c cs).rest ≤ cs.length := by
  unfold pieceAt
  split
  · exact (List.takeWhile_prefix _).length_le
  · split
    · exact (List.takeWhile_prefix _).length_le
    · split
      · exact numberRest_le cs
      · split
        · split
          · next n hn => exact stringRest_le hn
          · exact Nat.zero_le _
        · split
          · next n hn => exact charRest_le hn
          · exact Nat.zero_le _
        · simp only [Piece.rest, List.length_cons]
          rw [Nat.add_comm]
          exact Nat.succ_le_succ (List.takeWhile_prefix _).length_le
        · split
          · next n hn =>
            have hlen := commentRest_le hn
            simp only [Piece.rest, List.length_cons]
            omega
          · exact signPiece_rest_le _ _
        · exact signPiece_rest_le _ _

theorem scanFrom_of_token {c : Char} {cs : List Char} {k : Kind} {n : Nat}
    (h : pieceAt c cs = .token k n) (p : Position) :
    scanFrom p (c :: cs) =
      ⟨⟨k, String.ofList (c :: cs.take n), p⟩
          :: (scanFrom (p.advance (c :: cs.take n)) (cs.drop n)).tokens,
        (scanFrom (p.advance (c :: cs.take n)) (cs.drop n)).ending⟩ := by
  rw [scanFrom, h]

theorem scanFrom_of_unknown {c : Char} {cs : List Char} (h : pieceAt c cs = .unknown)
    (p : Position) : scanFrom p (c :: cs) = ⟨[], .unknown c p⟩ := by
  rw [scanFrom, h]

/-- A line feed at the end of a text is no token. -/
theorem scanFrom_lineFeed (p : Position) (cs : List Char) :
    scanFrom p (cs ++ ['\n']) = scanFrom p cs := by
  induction hlen : cs.length using Nat.strong_induction_on generalizing p cs with
  | _ len ih =>
    subst hlen
    cases cs with
    | nil => rw [List.nil_append, scanFrom_layout (by decide), scanFrom, scanFrom]
    | cons c cs =>
      have hdrop : ∀ n, (cs.drop n).length < (c :: cs).length := by
        intro n
        rw [List.length_drop, List.length_cons]
        omega
      have hrest := pieceAt_rest_le c cs
      rw [List.cons_append]
      by_cases hc : isLayout c
      · rw [scanFrom_layout hc, scanFrom_layout hc]
        exact ih _ (Nat.lt_succ_self _) _ cs rfl
      · have hsame := pieceAt_lineFeed (by simpa using hc) cs
        cases hpiece : pieceAt c cs with
        | ignored n =>
          rw [hpiece] at hsame hrest
          have hn : n ≤ cs.length := hrest
          rw [scanFrom_of_ignored hsame, scanFrom_of_ignored hpiece,
            List.take_append_of_le_length hn, List.drop_append_of_le_length hn]
          exact ih _ (hdrop n) _ _ rfl
        | token k n =>
          rw [hpiece] at hsame hrest
          have hn : n ≤ cs.length := hrest
          rw [scanFrom_of_token hsame, scanFrom_of_token hpiece,
            List.take_append_of_le_length hn, List.drop_append_of_le_length hn,
            ih _ (hdrop n) _ _ rfl]
        | unknown =>
          rw [hpiece] at hsame
          rw [scanFrom_of_unknown hsame, scanFrom_of_unknown hpiece]

/-! ## Tokens at other places -/

/-- A place of a text when the text begins some lines further down, and its first line some columns
further to the right. -/
def Position.moved (lines columns : Nat) (p : Position) : Position :=
  ⟨p.line + lines, if p.line = 1 then p.column + columns else p.column⟩

theorem Position.moved_next {p : Position} (hp : 1 ≤ p.line) (lines columns : Nat) (c : Char) :
    (p.next c).moved lines columns = (p.moved lines columns).next c := by
  unfold next moved
  by_cases hc : c = '\n'
  · have hline : p.line + 1 ≠ 1 := by omega
    simp only [hc, if_pos, hline, if_false]
    rw [Nat.add_right_comm]
  · simp only [hc, if_false]
    split
    · rw [Nat.add_right_comm]
    · rfl

theorem Position.moved_advance {p : Position} (hp : 1 ≤ p.line) (lines columns : Nat)
    (cs : List Char) :
    (p.advance cs).moved lines columns = (p.moved lines columns).advance cs := by
  induction cs generalizing p with
  | nil => rfl
  | cons c cs ih =>
    have hnext : 1 ≤ (p.next c).line := by
      rw [next_line]
      omega
    rw [advance_cons, advance_cons, ih hnext, moved_next hp]

/-- Any place behind a text is the first place moved by the lines of the text. -/
theorem Position.exists_advance_eq_moved (cs : List Char) :
    ∃ columns, start.advance cs = start.moved (cs.count '\n') columns := by
  have hcolumn : ∀ p : Position, 1 ≤ p.column → 1 ≤ (p.advance cs).column := by
    induction cs with
    | nil => exact fun _ h => h
    | cons c cs ih =>
      intro p hp
      refine ih _ ?_
      unfold next
      split
      · exact le_refl 1
      · exact Nat.le_add_left 1 p.column
  have hone := hcolumn start (le_refl 1)
  refine ⟨(start.advance cs).column - 1, ?_⟩
  have hline := advance_line start cs
  have hsum : 1 + ((start.advance cs).column - 1) = (start.advance cs).column := by omega
  show start.advance cs = ⟨1 + cs.count '\n', 1 + ((start.advance cs).column - 1)⟩
  rw [hsum]
  show start.advance cs = ⟨start.line + cs.count '\n', _⟩
  rw [← hline]

/-- A token of a text that is moved. -/
def Token.moved (lines columns : Nat) (t : Token) : Token :=
  ⟨t.kind, t.text, t.position.moved lines columns⟩

/-- The end of a text that is moved. -/
def Ending.moved (lines columns : Nat) : Ending → Ending
  | .complete => .complete
  | .unknown c p => .unknown c (p.moved lines columns)

/-- The tokens of a text that is moved. -/
def Scan.moved (lines columns : Nat) (s : Scan) : Scan :=
  ⟨s.tokens.map (Token.moved lines columns), s.ending.moved lines columns⟩

/-- Where a text begins moves its tokens and changes nothing else. -/
theorem scanFrom_moved {p : Position} (hp : 1 ≤ p.line) (lines columns : Nat) (cs : List Char) :
    scanFrom (p.moved lines columns) cs = (scanFrom p cs).moved lines columns := by
  induction hlen : cs.length using Nat.strong_induction_on generalizing p cs with
  | _ len ih =>
    subst hlen
    cases cs with
    | nil =>
      rw [scanFrom, scanFrom]
      rfl
    | cons c cs =>
      have hdrop : ∀ n, (cs.drop n).length < (c :: cs).length := by
        intro n
        rw [List.length_drop, List.length_cons]
        omega
      have hline : ∀ x : List Char, 1 ≤ (p.advance x).line := by
        intro x
        rw [Position.advance_line]
        omega
      cases hpiece : pieceAt c cs with
      | ignored n =>
        rw [scanFrom_of_ignored hpiece, scanFrom_of_ignored hpiece, ← Position.moved_advance hp]
        exact ih _ (hdrop n) (hline _) _ rfl
      | token k n =>
        rw [scanFrom_of_token hpiece, scanFrom_of_token hpiece, ← Position.moved_advance hp,
          ih _ (hdrop n) (hline _) _ rfl]
        rfl
      | unknown =>
        rw [scanFrom_of_unknown hpiece, scanFrom_of_unknown hpiece]
        rfl

/-- The tokens of a text and the character that begins none, with the lines where they stand when
`n` lines come before the text. -/
def Scan.onLines (n : Nat) (s : Scan) : List (Kind × String × Nat) × Option (Char × Nat) :=
  (s.tokens.map fun t => (t.kind, t.text, t.position.line + n),
    match s.ending with
    | .complete => none
    | .unknown c p => some (c, p.line + n))

theorem Scan.onLines_moved (n lines columns : Nat) (s : Scan) :
    (s.moved lines columns).onLines n = s.onLines (lines + n) := by
  have hline : ∀ p : Position, (p.moved lines columns).line + n = p.line + (lines + n) :=
    fun p => Nat.add_assoc ..
  obtain ⟨tokens, ending⟩ := s
  unfold onLines moved
  simp only [List.map_map]
  congr 1
  · refine List.map_congr_left fun t _ => ?_
    simp only [Function.comp_apply, Token.moved, hline]
  · cases ending with
    | complete => rfl
    | unknown c p => simp only [Ending.moved, hline]

/-- Layout and comments in front of a text move its tokens down by their lines. -/
theorem scan_leftOut {front : List Char} (h : LeftOut (isLayout ·) front) (cs : List Char) :
    ∃ columns, scan (front ++ cs) = (scan cs).moved (front.count '\n') columns := by
  obtain ⟨columns, hmoved⟩ := Position.exists_advance_eq_moved front
  refine ⟨columns, ?_⟩
  unfold scan
  rw [scanFrom_leftOut h, hmoved]
  exact scanFrom_moved (le_refl 1) _ _ cs

end BraceScript.Syntax
