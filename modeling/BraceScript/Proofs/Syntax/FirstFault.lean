import BraceScript.Program.Compile
import BraceScript.Proofs.Syntax.Layout
import BraceScript.Proofs.Syntax.Viable
import Mathlib

/-!
# Where a text is no source file

A text that is no source file gets one diagnostic, which stands where the text cannot go on
(`lowerText_firstFault`): at the first token with which no sentence of the grammar begins, or at a
character where no terminal begins, or at the end of a text that begins a longer sentence. The
terminals are given as languages over characters, independently of the way in which the text is cut
into tokens.
-/

namespace BraceScript.Syntax

open scoped Computability

/-! ## Terminals -/

/-- One character of a class. -/
def oneOf (p : Char → Bool) : Language Char := {w | ∃ c, p c = true ∧ w = [c]}

/-- The terminals of the grammar. -/
inductive Terminal
  | name
  | number
  | string
  | char
  | word (text : String) (keyword : Keyword) (listed : (text, keyword) ∈ keywords)
  | sign (text : List Char) (sign : Sign) (listed : (text, sign) ∈ signs)
  | layout
  | comment
  | block

/-- A character between quotes: a plain one, or any behind a backslash, but no line feed. -/
def quoted (quote : Char) : Language Char :=
  oneOf (fun c => c != quote && c != '\\' && c != '\n') + {['\\']} * oneOf (· != '\n')

/-- The texts of a terminal. -/
def Terminal.texts : Terminal → Language Char
  | .name => oneOf isNameStart * (oneOf isNameRest)∗
  | .number => oneOf Text.isDigit * (oneOf Text.isDigit)∗
      * (1 + {['.']} * oneOf Text.isDigit * (oneOf Text.isDigit)∗)
  | .string => {['"']} * (quoted '"')∗ * {['"']}
  | .char => {['\'']} * quoted '\'' * {['\'']}
  | .word text _ _ => {text.toList}
  | .sign text _ _ => {text}
  | .layout => oneOf isLayout * (oneOf isLayout)∗
  | .comment => {['/', '/']} * (oneOf (· != '\n'))∗
  | .block => {['/', '*']} * (oneOf fun _ => true)∗ * {['*', '/']}

/-- No terminal has a text with which these characters begin. -/
def NoTerminal (cs : List Char) : Prop := ∀ T : Terminal, ∀ w ∈ T.texts, ¬w <+: cs

theorem mem_oneOf_mul {p : Char → Bool} {l : Language Char} {w : List Char} :
    w ∈ oneOf p * l ↔ ∃ c v, p c = true ∧ v ∈ l ∧ w = c :: v := by
  rw [Language.mem_mul]
  constructor
  · rintro ⟨_, ⟨c, hc, rfl⟩, v, hv, rfl⟩
    exact ⟨c, v, hc, hv, rfl⟩
  · rintro ⟨c, v, hc, hv, rfl⟩
    exact ⟨[c], ⟨c, hc, rfl⟩, v, hv, rfl⟩

theorem mem_text_mul {x w : List Char} {l : Language Char} :
    w ∈ ({x} : Language Char) * l ↔ ∃ v ∈ l, w = x ++ v := by
  rw [Language.mem_mul]
  constructor
  · rintro ⟨_, rfl, v, hv, rfl⟩
    exact ⟨v, hv, rfl⟩
  · rintro ⟨v, hv, rfl⟩
    exact ⟨x, rfl, v, hv, rfl⟩

theorem mem_mul_text {x w : List Char} {l : Language Char} :
    w ∈ l * ({x} : Language Char) ↔ ∃ v ∈ l, w = v ++ x := by
  rw [Language.mem_mul]
  constructor
  · rintro ⟨v, hv, _, rfl, rfl⟩
    exact ⟨v, hv, rfl⟩
  · rintro ⟨v, hv, rfl⟩
    exact ⟨v, hv, x, rfl, rfl⟩

theorem mem_quoted {q : Char} {w : List Char} :
    w ∈ quoted q ↔ (∃ c, c ≠ q ∧ c ≠ '\\' ∧ c ≠ '\n' ∧ w = [c])
      ∨ ∃ c, c ≠ '\n' ∧ w = ['\\', c] := by
  unfold quoted
  rw [Language.mem_add, mem_text_mul]
  refine or_congr ?_ ?_
  · constructor
    · rintro ⟨c, hc, rfl⟩
      simp only [Bool.and_eq_true, bne_iff_ne] at hc
      exact ⟨c, hc.1.1, hc.1.2, hc.2, rfl⟩
    · rintro ⟨c, hquote, hslash, hfeed, rfl⟩
      exact ⟨c, by simp [hquote, hslash, hfeed], rfl⟩
  · constructor
    · rintro ⟨_, ⟨c, hc, rfl⟩, rfl⟩
      exact ⟨c, bne_iff_ne.mp hc, rfl⟩
    · rintro ⟨c, hc, rfl⟩
      exact ⟨[c], ⟨c, bne_iff_ne.mpr hc, rfl⟩, rfl⟩

/-- A string ends at the first quote that stands behind no backslash. -/
theorem stringRest_body {body : List Char} (h : body ∈ (quoted '"')∗) (rest : List Char) :
    stringRest (body ++ '"' :: rest) = some (body.length + 1) := by
  obtain ⟨pieces, rfl, hpieces⟩ := Language.mem_kstar.mp h
  clear h
  induction pieces with
  | nil => rfl
  | cons w pieces ih =>
    obtain ⟨hw, hpieces⟩ := List.forall_mem_cons.mp hpieces
    have hrest := ih hpieces
    rw [List.flatten_cons, List.append_assoc]
    rcases mem_quoted.mp hw with ⟨c, hquote, hslash, hfeed, rfl⟩ | ⟨c, hfeed, rfl⟩
    · rw [List.singleton_append, stringRest, hrest]
      · rfl
      · exact hquote
      · exact hfeed
      · exact fun _ h => absurd h hslash
      · exact fun _ _ h => absurd h hslash
      · exact fun h => absurd h hslash
    · rw [List.cons_append, List.singleton_append, stringRest, hrest]
      · rfl
      · exact hfeed

/-- A character ends at the apostrophe behind it. -/
theorem charRest_body {body : List Char} (h : body ∈ quoted '\'') (rest : List Char) :
    charRest (body ++ '\'' :: rest) = some (body.length + 1) := by
  rcases mem_quoted.mp h with ⟨c, hquote, hslash, hfeed, rfl⟩ | ⟨c, hfeed, rfl⟩
  · simp [charRest, hquote, hslash, hfeed]
  · simp [charRest, hfeed]

/-- A sign in front of a text is found. -/
theorem signPiece_ne_unknown {text : List Char} {s : Sign} {c : Char} {cs : List Char}
    (hs : (text, s) ∈ signs) (h : text <+: c :: cs) : signPiece c cs ≠ .unknown := by
  have hfound : (signAt (c :: cs)).isSome := by
    unfold signAt
    rw [List.find?_isSome]
    exact ⟨(text, s), hs, List.isPrefixOf_iff_prefix.mpr h⟩
  obtain ⟨x, hx⟩ := Option.isSome_iff_exists.mp hfound
  unfold signPiece
  rw [hx]
  exact fun h => nomatch h

/-- What an unknown character is not. -/
structure Unknown (c : Char) (cs : List Char) : Prop where
  layout : isLayout c = false
  nameStart : isNameStart c = false
  digit : Text.isDigit c = false
  string : c = '"' → stringRest cs = none
  char : c = '\'' → charRest cs = none
  slash : c ≠ '/'
  sign : ∀ s ∈ signs, ¬s.1 <+: c :: cs

theorem unknown_of_pieceAt {c : Char} {cs : List Char} (h : pieceAt c cs = .unknown) :
    Unknown c cs := by
  unfold pieceAt at h
  split at h
  · cases h
  next hlayout =>
  split at h
  · cases h
  next hname =>
  split at h
  · cases h
  next hdigit =>
  simp only [Bool.not_eq_true] at hlayout hname hdigit
  -- no sign begins with a quote
  have hquotes : ∀ s ∈ signs, s.1.head? ≠ some '"' ∧ s.1.head? ≠ some '\'' ∧ s.1 ≠ [] := by decide
  have hhead {x : Char} {text xs : List Char} (hp : text <+: x :: xs) (hne : text ≠ []) :
      text.head? = some x := by
    obtain ⟨y, ys, rfl⟩ := List.exists_cons_of_ne_nil hne
    rw [(List.cons_prefix_cons.mp hp).1]
    rfl
  have hover : (['/'], Sign.over) ∈ signs := by decide
  have hslash (xs : List Char) : signPiece '/' xs ≠ .unknown :=
    signPiece_ne_unknown hover (List.prefix_append ['/'] xs)
  split at h
  · split at h
    · cases h
    · next hnone =>
      refine ⟨hlayout, hname, hdigit, fun _ => hnone, fun hc => absurd hc (by decide), by decide, ?_⟩
      intro s hs hp
      exact (hquotes s hs).1 (hhead hp (hquotes s hs).2.2)
  · split at h
    · cases h
    · next hnone =>
      refine ⟨hlayout, hname, hdigit, fun hc => absurd hc (by decide), fun _ => hnone, by decide, ?_⟩
      intro s hs hp
      exact (hquotes s hs).2.1 (hhead hp (hquotes s hs).2.2)
  · cases h
  · split at h
    · cases h
    · exact absurd h (hslash _)
  · next hstring hchar _ _ =>
    refine ⟨hlayout, hname, hdigit, fun hc => absurd hc hstring, fun hc => absurd hc hchar, ?_, ?_⟩
    · rintro rfl
      exact hslash _ h
    · intro s hs hp
      exact signPiece_ne_unknown hs hp h

/-- At an unknown character no terminal begins. -/
theorem Unknown.noTerminal {c : Char} {cs : List Char} (h : Unknown c cs) :
    NoTerminal (c :: cs) := by
  intro T w hw hp
  -- a text that begins with a character of a class
  have hclass {p : Char → Bool} {l : Language Char} (hl : w ∈ oneOf p * l) : p c ≠ false := by
    obtain ⟨x, v, hx, -, rfl⟩ := mem_oneOf_mul.mp hl
    rw [(List.cons_prefix_cons.mp hp).1] at hx
    exact ne_false_of_eq_true hx
  -- a text that begins with a fixed character
  have hfixed {x : Char} {xs : List Char} {l : Language Char} (hl : w ∈ ({x :: xs} : Language Char) * l) :
      x = c ∧ ∃ v ∈ l, xs ++ v <+: cs := by
    obtain ⟨v, hv, rfl⟩ := mem_text_mul.mp hl
    rw [List.cons_append, List.cons_prefix_cons] at hp
    exact ⟨hp.1, v, hv, hp.2⟩
  cases T with
  | name => exact hclass hw h.nameStart
  | number =>
    rw [Terminal.texts, mul_assoc] at hw
    exact hclass hw h.digit
  | layout => exact hclass hw h.layout
  | string =>
    rw [Terminal.texts, mul_assoc] at hw
    obtain ⟨hc, v, hv, rest, rfl⟩ := hfixed hw
    obtain ⟨body, hbody, rfl⟩ := mem_mul_text.mp hv
    have hnone := h.string hc.symm
    rw [List.nil_append, List.append_assoc] at hnone
    rw [List.singleton_append, stringRest_body hbody rest] at hnone
    cases hnone
  | char =>
    rw [Terminal.texts, mul_assoc] at hw
    obtain ⟨hc, v, hv, rest, rfl⟩ := hfixed hw
    obtain ⟨body, hbody, rfl⟩ := mem_mul_text.mp hv
    have hnone := h.char hc.symm
    rw [List.nil_append, List.append_assoc] at hnone
    rw [List.singleton_append, charRest_body hbody rest] at hnone
    cases hnone
  | word text k hk =>
    obtain rfl : w = text.toList := hw
    have hstart : ∀ x ∈ keywords, ∃ c ∈ x.1.toList.head?, isNameStart c = true := by
      simp [keywords, isNameStart]
    obtain ⟨d, hd, hstart⟩ := hstart _ hk
    obtain ⟨xs, hxs⟩ := List.head?_eq_some_iff.mp hd
    rw [hxs, List.cons_prefix_cons] at hp
    rw [hp.1, h.nameStart] at hstart
    cases hstart
  | sign text s hs =>
    obtain rfl : w = text := hw
    exact h.sign _ hs hp
  | comment => exact h.slash (hfixed hw).1.symm
  | block =>
    rw [Terminal.texts, mul_assoc] at hw
    exact h.slash (hfixed hw).1.symm

/-! ## Places -/

/-- The place behind the characters in front of it: its line counts their line feeds, and its column
the characters behind the last one. -/
def Position.behind (front : List Char) : Position :=
  ⟨front.count '\n' + 1, (front.reverse.takeWhile (· != '\n')).length + 1⟩

theorem Position.advance_start (front : List Char) : start.advance front = behind front := by
  induction front using List.reverseRecOn with
  | nil => rfl
  | append_singleton front c ih =>
    rw [advance_append, ih, advance_cons, advance_nil]
    unfold next behind
    rw [List.count_append, List.reverse_append, List.reverse_singleton, List.singleton_append]
    by_cases hc : c = '\n'
    · rw [if_pos hc, List.takeWhile_cons_of_neg (by simp [hc])]
      simp [hc]
    · rw [if_neg hc, List.takeWhile_cons_of_pos (by simpa using hc)]
      simp [hc]

theorem Position.advance_behind (front piece : List Char) :
    (behind front).advance piece = behind (front ++ piece) := by
  rw [← advance_start, ← advance_append, advance_start]

/-- `StandsAt text piece p`: the piece is what the text goes on with at the place. -/
def StandsAt (text piece : List Char) (p : Position) : Prop :=
  ∃ front rest, text = front ++ piece ++ rest ∧ p = .behind front

/-- Every token stands at its place, and so does the character at which the tokens end. -/
theorem scanFrom_stands (front cs : List Char) :
    (∀ t ∈ (scanFrom (.behind front) cs).tokens, StandsAt (front ++ cs) t.text.toList t.position)
      ∧ ∀ c p, (scanFrom (.behind front) cs).ending = .unknown c p →
        ∃ before rest, front ++ cs = before ++ c :: rest ∧ p = .behind before
          ∧ NoTerminal (c :: rest) := by
  induction hlen : cs.length using Nat.strong_induction_on generalizing front cs with
  | _ len ih =>
    subst hlen
    cases cs with
    | nil =>
      rw [scanFrom]
      refine ⟨fun t ht => absurd ht List.not_mem_nil, fun c p h => ?_⟩
      cases h
    | cons c cs =>
      have hshorter (n : Nat) : (cs.drop n).length < (c :: cs).length := by
        rw [List.length_drop, List.length_cons]
        omega
      -- behind a piece of the text the same holds of what is left
      have hsplit (n : Nat) : front ++ c :: cs = front ++ c :: cs.take n ++ cs.drop n := by
        simp
      cases hpiece : pieceAt c cs with
      | ignored n =>
        rw [scanFrom_of_ignored hpiece, Position.advance_behind, hsplit n]
        exact ih _ (hshorter n) _ _ rfl
      | token k n =>
        rw [scanFrom_of_token hpiece, Position.advance_behind]
        obtain ⟨htokens, hending⟩ := ih _ (hshorter n) (front ++ c :: cs.take n) _ rfl
        rw [← hsplit n] at htokens hending
        refine ⟨fun t ht => ?_, hending⟩
        rcases List.mem_cons.mp ht with rfl | ht
        · refine ⟨front, cs.drop n, ?_, rfl⟩
          rw [String.toList_ofList, hsplit n]
        · exact htokens t ht
      | unknown =>
        rw [scanFrom_of_unknown hpiece]
        refine ⟨fun t ht => absurd ht List.not_mem_nil, fun d p h => ?_⟩
        cases h
        exact ⟨front, cs, rfl, rfl, (unknown_of_pieceAt hpiece).noTerminal⟩

/-! ## Faults -/

/-- Why a text is no source file, and where it cannot go on. -/
inductive FirstFault (text : List Char) : Problem → Position → Prop
  /-- The tokens before this one begin a sentence, and those with it begin none. -/
  | token {before after : List Token} {t : Token} :
    (scan text).tokens = before ++ t :: after → Viable before → ¬Viable (before ++ [t]) →
    StandsAt text t.text.toList t.position →
    FirstFault text (.unexpectedToken t.text) t.position
  /-- The tokens before this character begin a sentence, and no terminal begins with it. -/
  | character {c : Char} {front rest : List Char} :
    text = front ++ c :: rest → NoTerminal (c :: rest) →
    (scan text).ending = .unknown c (.behind front) → Viable (scan text).tokens →
    FirstFault text (.unexpectedCharacter c) (.behind front)
  /-- All of the text is tokens, and these begin a longer sentence, but are none. -/
  | ending :
    (scan text).ending = .complete → Viable (scan text).tokens → ¬Sentence (scan text).tokens →
    FirstFault text .unexpectedEnd (.behind text)

/-- The problem that is reported for a text, and its place. -/
theorem firstFault_of_parse {text : List Char} {e : SyntaxError} (h : parse text = .error e) :
    ∃ problem place, (∀ file, syntaxDiagnostic file text e = problem.at file place)
      ∧ FirstFault text problem place := by
  obtain ⟨htokens, hunknown⟩ := scanFrom_stands [] text
  rw [List.nil_append] at htokens hunknown
  have hunexpected {t : Token} (ht : State.initial.shifts (scan text).tokens = .error t) :
      FirstFault text (.unexpectedToken t.text) t.position := by
    obtain ⟨before, after, hsplit, hbefore, hwith⟩ := first_refused ht
    refine .token hsplit hbefore hwith (htokens t ?_)
    show t ∈ (scan text).tokens
    rw [hsplit]
    simp
  cases hshifts : State.initial.shifts (scan text).tokens with
  | error t =>
    -- a refused token is reported whether or not all of the text is tokens
    have he : e = .unexpected t := by
      unfold parse parseTokens at h
      cases hending : (scan text).ending <;> simp only [hending, hshifts] at h <;> cases h <;> rfl
    subst he
    exact ⟨_, _, fun _ => rfl, hunexpected hshifts⟩
  | ok s =>
    have hviable : Viable (scan text).tokens := viable_iff_shifts.mpr ⟨s, hshifts⟩
    cases hending : (scan text).ending with
    | complete =>
      simp only [parse, hending] at h
      have hno : ¬Sentence (scan text).tokens := by
        rw [sentence_iff_accepts]
        rintro ⟨f, hf⟩
        rw [parseTokens_eq_ok_iff_accepts.mpr hf] at h
        cases h
      obtain rfl : e = .incomplete := by
        simp only [parseTokens, hshifts] at h
        cases hfinish : s.finish <;> rw [hfinish] at h <;> cases h
        rfl
      refine ⟨.unexpectedEnd, .behind text, fun file => ?_, .ending hending hviable hno⟩
      rw [syntaxDiagnostic, endPosition, Position.advance_start]
    | unknown c p =>
      simp only [parse, hending, hshifts] at h
      cases h
      -- every token is shifted, so the fault is the character behind them
      obtain ⟨front, rest, htext, rfl, hterminal⟩ := hunknown c p hending
      exact ⟨_, _, fun _ => rfl, .character htext hterminal hending hviable⟩

/-- A token list that begins a sentence begins one wherever it is cut. -/
theorem Viable.of_append {ts us : List Token} (h : Viable (ts ++ us)) : Viable ts := by
  obtain ⟨more, hmore⟩ := h
  rw [List.append_assoc] at hmore
  exact ⟨us ++ more, hmore⟩

/-- Only a text that ends too early is reported as one. -/
theorem FirstFault.code_eq_iff {text : List Char} {problem : Problem} {p : Position}
    (h : FirstFault text problem p) : problem.code = "CR1003"
      ↔ (scan text).ending = .complete ∧ Viable (scan text).tokens
        ∧ ¬Sentence (scan text).tokens := by
  cases h with
  | @token before after t hsplit _ hwith _ =>
    refine iff_of_false (by simp [Problem.code]) ?_
    rintro ⟨-, hviable, -⟩
    rw [hsplit, ← List.singleton_append, ← List.append_assoc] at hviable
    exact hwith hviable.of_append
  | character _ _ hending _ =>
    refine iff_of_false (by simp [Problem.code]) ?_
    rintro ⟨hcomplete, -⟩
    rw [hending] at hcomplete
    cases hcomplete
  | ending hending hviable hno => exact iff_of_true rfl ⟨hending, hviable, hno⟩

/-- A text that is no source file gets one diagnostic, which stands where the text cannot go on. It
says that the text ends too early exactly when its tokens begin a longer sentence but are none. -/
theorem lowerText_firstFault (file : String) {text : List Char} {e : SyntaxError}
    (h : parse text = .error e) :
    (∃ problem place, Program.lowerText file text = ([], [problem.at file place])
        ∧ FirstFault text problem place)
      ∧ ((Program.lowerText file text).2.map (·.code) = ["CR1003"]
        ↔ (scan text).ending = .complete ∧ Viable (scan text).tokens
          ∧ ¬Sentence (scan text).tokens) := by
  obtain ⟨problem, place, hdiagnostic, hfault⟩ := firstFault_of_parse h
  have hlower : Program.lowerText file text = ([], [problem.at file place]) := by
    rw [Program.lowerText, h, ← hdiagnostic]
  refine ⟨⟨problem, place, hlower, hfault⟩, ?_⟩
  rw [hlower, ← hfault.code_eq_iff]
  exact List.singleton_inj

/-- A declaration without its value. -/
def valueText : List Char :=
  "class P \x7b\n  static void M() \x7b\n    int x = ;\n  \x7d\n\x7d\n".toList

/-- Its semicolon is the first token that cannot stand where it stands. -/
def valueFault : SyntaxError := .unexpected ⟨.sign .semicolon, ";", ⟨3, 13⟩⟩

theorem lowerText_firstFault_value :
    parse valueText = .error valueFault
      ∧ Program.lowerText "bad.cs" valueText
        = ([], [⟨some "bad.cs", 3, 13, "CR1001", "Unexpected ';'"⟩])
      ∧ ∃ problem place,
        Program.lowerText "bad.cs" valueText = ([], [problem.at "bad.cs" place])
          ∧ FirstFault valueText problem place := by
  have hfault : (match parse valueText with
      | .ok _ => none
      | .error e => some e) = some valueFault := by decide +kernel
  have hparse : parse valueText = .error valueFault := by
    cases hp : parse valueText with
    | ok f =>
      rw [hp] at hfault
      cases hfault
    | error e =>
      rw [hp] at hfault
      rw [Option.some.inj hfault]
  refine ⟨hparse, ?_, (lowerText_firstFault "bad.cs" hparse).1⟩
  rw [Program.lowerText, hparse]
  rfl

end BraceScript.Syntax
