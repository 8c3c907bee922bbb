import BraceScript.Proofs.Syntax.FirstFault
import BraceScript.Proofs.Text.Digit
import Mathlib

/-!
# Writing tokens and reading them back

Tokens that are written with one gap between each two are read back as they were, and each stands
where it was written (`scan_written`). What has to be known of a token is where it ends when layout
or nothing follows it (`Terminal.pieceAt_append`); the languages of the terminals decide that, one
after the other, and the gaps take care of the rest.
-/

namespace BraceScript.Syntax

open scoped Computability

/-! ## Written tokens -/

/-- The kind of the tokens that a terminal gives; layout and comments give none. -/
def Terminal.kind? : Terminal → Option Kind
  | .name => some .name
  | .number => some .number
  | .string => some .string
  | .char => some .char
  | .word _ k _ => some (.word k)
  | .sign _ s _ => some (.sign s)
  | .layout | .comment | .block => none

/-- A token as it is written: a text of its terminal, and no keyword where the terminal is that of
the names. -/
structure Lexeme where
  terminal : Terminal
  kind : Kind
  text : List Char
  kind_eq : terminal.kind? = some kind
  mem_texts : text ∈ terminal.texts
  no_keyword : kind = .name → ∀ k ∈ keywords, k.1.toList ≠ text

/-- What stands between two tokens. -/
inductive Gap
  | space
  | lineFeed
  deriving DecidableEq, Repr

def Gap.char : Gap → Char
  | .space => ' '
  | .lineFeed => '\n'

theorem Gap.isLayout (g : Gap) : Syntax.isLayout g.char := by
  cases g <;> decide

/-- Tokens with a gap behind each of them. -/
def spelled (row : List (Lexeme × Gap)) : List Char :=
  row.flatMap fun x => x.1.text ++ [x.2.char]

/-- Tokens with the gaps between them; that of the last one is not written. -/
def written (row : List (Lexeme × Gap)) : List Char := (spelled row).dropLast

theorem spelled_cons (x : Lexeme × Gap) (row : List (Lexeme × Gap)) :
    spelled (x :: row) = x.1.text ++ x.2.char :: spelled row := by
  simp [spelled]

theorem written_singleton (x : Lexeme × Gap) : written [x] = x.1.text := by
  simp [written, spelled]

theorem written_cons_cons (x y : Lexeme × Gap) (row : List (Lexeme × Gap)) :
    written (x :: y :: row) = x.1.text ++ x.2.char :: written (y :: row) := by
  have hne : spelled (y :: row) ≠ [] := by simp [spelled_cons]
  rw [written, spelled_cons, List.dropLast_append_cons, List.dropLast_cons_of_ne_nil hne, written]

/-! ## Where a token ends -/

theorem mem_oneOf_kstar {p : Char → Bool} {w : List Char} : w ∈ (oneOf p)∗ ↔ ∀ c ∈ w, p c := by
  rw [Language.mem_kstar]
  constructor
  · rintro ⟨pieces, rfl, hpieces⟩ c hc
    obtain ⟨v, hv, hcv⟩ := List.mem_flatten.mp hc
    obtain ⟨d, hd, rfl⟩ := hpieces v hv
    rwa [List.mem_singleton.mp hcv]
  · intro h
    refine ⟨w.map fun c => [c], ?_, fun v hv => ?_⟩
    · rw [← List.flatMap_def, List.flatMap_singleton']
    · obtain ⟨c, hc, rfl⟩ := List.mem_map.mp hv
      exact ⟨c, h c hc, rfl⟩

/-- A run of characters of a class goes on to the first one of another class. -/
theorem takeWhile_run {p : Char → Bool} {run rest : List Char} (hrun : ∀ c ∈ run, p c)
    (hrest : ∀ c ∈ rest.head?, p c = false) : (run ++ rest).takeWhile p = run := by
  rw [takeWhile_append_of_head hrest, List.takeWhile_eq_self_iff]
  exact hrun

theorem Apart.isNameRest {rest : List Char} (hrest : Apart rest) :
    ∀ c ∈ rest.head?, isNameRest c = false :=
  fun c hc => isNameRest_of_isLayout c (hrest c hc)

theorem Apart.isDigit {rest : List Char} (hrest : Apart rest) :
    ∀ c ∈ rest.head?, Text.isDigit c = false :=
  fun c hc => isDigit_of_isLayout c (hrest c hc)

theorem isLayout_of_isNameStart {c : Char} (hc : isNameStart c) : isLayout c = false := by
  by_contra h
  have hno : ∀ c, isLayout c → isNameStart c = false := forall_isLayout.mpr (by decide)
  rw [hno c (by simpa using h)] at hc
  cases hc

/-- The letters of names are no digits of any script. -/
theorem isNameStart_of_isDigit {c : Char} (hc : Text.isDigit c) : isNameStart c = false := by
  have hzeros : ∀ z ∈ Text.zeroDigits, z = 48 ∨ 1632 ≤ z := by decide
  obtain ⟨z, hz, hrange⟩ := Text.exists_zero_of_isDigit hc
  have hzero := hzeros z hz
  have hval : c.val.toNat = c.toNat := rfl
  unfold isNameStart Char.isAlpha Char.isUpper Char.isLower
  simp only [Bool.or_eq_false_iff, Bool.and_eq_false_iff, decide_eq_false_iff_not,
    beq_eq_false_iff_ne, ge_iff_le, UInt32.le_iff_toNat_le]
  refine ⟨⟨?_, ?_⟩, ?_⟩
  · simp
    omega
  · simp
    omega
  · rintro rfl
    simp at hrange
    omega

theorem isLayout_of_isDigit {c : Char} (hc : Text.isDigit c) : isLayout c = false := by
  by_contra h
  rw [isDigit_of_isLayout c (by simpa using h)] at hc
  cases hc

/-- A word goes on to the first character that is no part of a word. -/
theorem pieceAt_word {c : Char} {tail rest : List Char} (hc : isNameStart c)
    (htail : ∀ d ∈ tail, isNameRest d) (hrest : Apart rest) :
    pieceAt c (tail ++ rest) = .token (wordKind (String.ofList (c :: tail))) tail.length := by
  unfold pieceAt
  rw [if_neg (by simp [isLayout_of_isNameStart hc]), if_pos hc]
  simp only [takeWhile_run htail hrest.isNameRest]

theorem pieceAt_digit {c : Char} (hc : Text.isDigit c) (cs : List Char) :
    pieceAt c cs = .token .number (numberRest cs) := by
  unfold pieceAt
  rw [if_neg (by simp [isLayout_of_isDigit hc]), if_neg (by simp [isNameStart_of_isDigit hc]),
    if_pos hc]

theorem numberRest_whole {whole rest : List Char} (hwhole : ∀ c ∈ whole, Text.isDigit c)
    (hrest : Apart rest) : numberRest (whole ++ rest) = whole.length := by
  rw [hrest.numberRest_append, numberRest, List.takeWhile_eq_self_iff.mpr hwhole, List.drop_length]

theorem numberRest_fraction {whole fraction rest : List Char} {d : Char}
    (hwhole : ∀ c ∈ whole, Text.isDigit c) (hd : Text.isDigit d)
    (hfraction : ∀ c ∈ fraction, Text.isDigit c) (hrest : Apart rest) :
    numberRest (whole ++ '.' :: d :: fraction ++ rest)
      = (whole ++ '.' :: d :: fraction).length := by
  have hpoint : ∀ c ∈ ('.' :: d :: fraction).head?, Text.isDigit c = false := by
    rintro _ ⟨⟩
    decide
  rw [hrest.numberRest_append, numberRest, takeWhile_run hwhole hpoint]
  simp only [List.drop_left, hd, if_true, List.takeWhile_eq_self_iff.mpr hfraction]
  simp [Nat.add_comm, Nat.add_left_comm]

/-- A string ends at its closing quote, whatever stands between its quotes. -/
theorem pieceAt_string {body : List Char} (h : body ∈ (quoted '"')∗) (rest : List Char) :
    pieceAt '"' (body ++ '"' :: rest) = .token .string (body.length + 1) := by
  simp [pieceAt, stringRest_body h, show isLayout '"' = false by decide,
    show isNameStart '"' = false by decide, show Text.isDigit '"' = false by decide]

theorem pieceAt_char {body : List Char} (h : body ∈ quoted '\'') (rest : List Char) :
    pieceAt '\'' (body ++ '\'' :: rest) = .token .char (body.length + 1) := by
  simp [pieceAt, charRest_body h, show isLayout '\'' = false by decide,
    show isNameStart '\'' = false by decide, show Text.isDigit '\'' = false by decide]

/-- Whether a text begins like a sign, and neither like a comment nor like anything else. -/
def beginsSign : List Char → Bool
  | [] => false
  | c :: cs => !isLayout c && !isNameStart c && !Text.isDigit c && c != '"' && c != '\''
      && (c != '/' || cs.all fun d => d != '/' && d != '*')

theorem beginsSign_of_mem : ∀ x ∈ signs, beginsSign x.1 := by decide

theorem pieceAt_of_beginsSign {c : Char} {cs rest : List Char} (h : beginsSign (c :: cs))
    (hrest : Apart rest) : pieceAt c (cs ++ rest) = signPiece c (cs ++ rest) := by
  simp only [beginsSign, Bool.and_eq_true, Bool.not_eq_true', bne_iff_ne, Bool.or_eq_true,
    List.all_eq_true] at h
  obtain ⟨⟨⟨⟨⟨hlayout, hname⟩, hdigit⟩, hquote⟩, hmark⟩, hslash⟩ := h
  -- behind a slash neither the sign nor what follows it goes on like a comment
  have hopening {d : Char} {ds : List Char} (hc : c = '/') (hd : cs ++ rest = d :: ds) :
      d ≠ '/' ∧ d ≠ '*' := by
    cases cs with
    | nil =>
      have hd : isLayout d := hrest d (congrArg List.head? hd)
      constructor <;> exact ne_of_apply_ne isLayout (by rw [hd]; decide)
    | cons e es =>
      obtain ⟨rfl, -⟩ := List.cons.inj hd
      exact (hslash.resolve_left fun hne => hne hc) e List.mem_cons_self
  unfold pieceAt
  simp only [hlayout, hname, hdigit, Bool.false_eq_true, if_false]
  split
  · exact absurd rfl hquote
  · exact absurd rfl hmark
  · next heq => exact absurd rfl (hopening rfl heq).1
  · next heq => exact absurd rfl (hopening rfl heq).2
  · rfl

/-- A sign is read before every shorter one that it begins with. -/
theorem signAt_of_mem : ∀ x ∈ signs, signAt x.1 = some x := by decide

theorem pieceAt_sign {c : Char} {cs rest : List Char} {s : Sign} (hs : (c :: cs, s) ∈ signs)
    (hrest : Apart rest) : pieceAt c (cs ++ rest) = .token (.sign s) cs.length := by
  rw [pieceAt_of_beginsSign (beginsSign_of_mem _ hs) hrest, hrest.signPiece_append, signPiece,
    signAt_of_mem _ hs]
  rfl

/-- Every keyword is written like a name. -/
theorem keyword_text : ∀ k ∈ keywords, ∃ c tail, k.1.toList = c :: tail ∧ isNameStart c
    ∧ (∀ d ∈ tail, isNameRest d) ∧ wordKind k.1 = .word k.2 := by
  simp [keywords, isNameStart, isNameRest, wordKind]

theorem wordKind_of_no_keyword {w : List Char} (h : ∀ k ∈ keywords, k.1.toList ≠ w) :
    wordKind (String.ofList w) = .name := by
  have hnone : keywords.find? (fun k => k.1 = String.ofList w) = none := by
    rw [List.find?_eq_none]
    intro k hk
    rw [decide_eq_true_iff]
    intro hw
    exact h k hk (by rw [hw, String.toList_ofList])
  rw [wordKind, hnone]

/-- A number ends behind its digits and those of its fraction. -/
theorem numberRest_append_of_mem {w rest : List Char} (hrest : Apart rest)
    (hw : w ∈ (oneOf Text.isDigit)∗ * (1 + {['.']} * oneOf Text.isDigit * (oneOf Text.isDigit)∗)) :
    numberRest (w ++ rest) = w.length := by
  obtain ⟨whole, hwhole, fraction, hfraction, rfl⟩ := Language.mem_mul.mp hw
  rw [mem_oneOf_kstar] at hwhole
  rw [mul_assoc, Language.mem_add] at hfraction
  rcases hfraction with rfl | hfraction
  · rw [List.append_nil, numberRest_whole hwhole hrest]
  · obtain ⟨v, hv, rfl⟩ := mem_text_mul.mp hfraction
    obtain ⟨d, ds, hd, hds, rfl⟩ := mem_oneOf_mul.mp hv
    exact numberRest_fraction hwhole hd (mem_oneOf_kstar.mp hds) hrest

/-- A text of a terminal ends where layout or nothing follows it. -/
theorem Terminal.pieceAt_append {T : Terminal} {k : Kind} {w rest : List Char}
    (hk : T.kind? = some k) (hw : w ∈ T.texts)
    (hname : k = .name → ∀ x ∈ keywords, x.1.toList ≠ w) (hrest : Apart rest) :
    ∃ c cs, w = c :: cs ∧ pieceAt c (cs ++ rest) = .token k cs.length := by
  cases T with
  | name =>
    obtain ⟨c, tail, hc, htail, rfl⟩ := mem_oneOf_mul.mp hw
    obtain rfl : Kind.name = k := Option.some.inj hk
    refine ⟨c, tail, rfl, ?_⟩
    rw [pieceAt_word hc (mem_oneOf_kstar.mp htail) hrest, wordKind_of_no_keyword (hname rfl)]
  | word text keyword hlisted =>
    obtain rfl : w = text.toList := hw
    obtain rfl : Kind.word keyword = k := Option.some.inj hk
    obtain ⟨c, tail, htext, hc, htail, hword⟩ := keyword_text _ hlisted
    refine ⟨c, tail, htext, ?_⟩
    rw [pieceAt_word hc htail hrest, ← htext, String.ofList_toList, hword]
  | number =>
    rw [Terminal.texts, mul_assoc] at hw
    obtain ⟨c, v, hc, hv, rfl⟩ := mem_oneOf_mul.mp hw
    obtain rfl : Kind.number = k := Option.some.inj hk
    refine ⟨c, v, rfl, ?_⟩
    rw [pieceAt_digit hc, numberRest_append_of_mem hrest hv]
  | string =>
    rw [Terminal.texts, mul_assoc] at hw
    obtain ⟨v, hv, rfl⟩ := mem_text_mul.mp hw
    obtain ⟨body, hbody, rfl⟩ := mem_mul_text.mp hv
    obtain rfl : Kind.string = k := Option.some.inj hk
    refine ⟨'"', body ++ ['"'], rfl, ?_⟩
    rw [List.append_assoc, List.singleton_append, pieceAt_string hbody, List.length_append]
    rfl
  | char =>
    rw [Terminal.texts, mul_assoc] at hw
    obtain ⟨v, hv, rfl⟩ := mem_text_mul.mp hw
    obtain ⟨body, hbody, rfl⟩ := mem_mul_text.mp hv
    obtain rfl : Kind.char = k := Option.some.inj hk
    refine ⟨'\'', body ++ ['\''], rfl, ?_⟩
    rw [List.append_assoc, List.singleton_append, pieceAt_char hbody, List.length_append]
    rfl
  | sign text s hlisted =>
    obtain rfl : w = text := hw
    obtain rfl : Kind.sign s = k := Option.some.inj hk
    cases w with
    | nil => exact absurd (beginsSign_of_mem _ hlisted) Bool.false_ne_true
    | cons c cs => exact ⟨c, cs, rfl, pieceAt_sign hlisted hrest⟩
  | layout => cases hk
  | comment => cases hk
  | block => cases hk

/-! ## Rows of tokens -/

/-- The token that a written token is read as behind other text. -/
def Lexeme.token (l : Lexeme) (front : List Char) : Token :=
  ⟨l.kind, String.ofList l.text, .behind front⟩

/-- A token in front of layout or of nothing is read as it is written. -/
theorem Lexeme.scanFrom_append (l : Lexeme) {rest : List Char} (hrest : Apart rest)
    (front : List Char) : scanFrom (.behind front) (l.text ++ rest)
      = ⟨l.token front :: (scanFrom (.behind (front ++ l.text)) rest).tokens,
        (scanFrom (.behind (front ++ l.text)) rest).ending⟩ := by
  obtain ⟨c, cs, htext, hpiece⟩ :=
    Terminal.pieceAt_append l.kind_eq l.mem_texts l.no_keyword hrest
  rw [Lexeme.token, htext, List.cons_append, scanFrom_of_token hpiece, List.take_left,
    List.drop_left, Position.advance_behind]

theorem scanFrom_written (front : List Char) (row : List (Lexeme × Gap)) :
    scanFrom (.behind front) (written row)
      = ⟨row.mapIdx fun i x => x.1.token (front ++ spelled (row.take i)), .complete⟩ := by
  induction row generalizing front with
  | nil => rw [written, spelled, List.flatMap_nil, List.dropLast_nil, scanFrom, List.mapIdx_nil]
  | cons x row ih =>
    have hfirst : front ++ spelled ((x :: row).take 0) = front := List.append_nil front
    rw [List.mapIdx_cons, hfirst]
    cases row with
    | nil =>
      have h := x.1.scanFrom_append .nil front
      rw [List.append_nil, scanFrom] at h
      rw [written_singleton, h, List.mapIdx_nil]
    | cons y row =>
      rw [written_cons_cons, x.1.scanFrom_append (.cons x.2.isLayout _),
        scanFrom_layout x.2.isLayout, ← Position.advance_nil (Position.next _ _),
        ← Position.advance_cons, Position.advance_behind, ih]
      simp only [List.take_succ_cons, spelled_cons, List.append_assoc, List.singleton_append]

/-- Tokens that are written with one space or line feed between each two are read back as they were:
the same kinds and texts, and each one at the place where it was written. -/
theorem scan_written (row : List (Lexeme × Gap)) :
    scan (written row) = ⟨row.mapIdx fun i x =>
      ⟨x.1.kind, String.ofList x.1.text, .behind (spelled (row.take i))⟩, .complete⟩ :=
  scanFrom_written [] row

example : (scan "returnValue \"// \\\" /*\"\n'\\''".toList).tokens
    = [⟨.name, "returnValue", ⟨1, 1⟩⟩, ⟨.string, "\"// \\\" /*\"", ⟨1, 13⟩⟩,
      ⟨.char, "'\\''", ⟨2, 1⟩⟩] := by decide +kernel

end BraceScript.Syntax
