import BraceScript.Proofs.Syntax.Parser
import Mathlib

/-!
# How far a file can go on

Every state that the parser comes to can be completed (`State.Anchored.completes`): names stand in
for missing operands, brackets and blocks are closed from the inside out, and statements are ended.
So the parser reads a token list without a fault exactly when the list begins some sentence of the
grammar (`viable_iff_shifts`), and the token that it refuses is the first one with which no sentence
goes on (`shifts_eq_error`).

One state would have no way on: the first part of a `for` head has to be a target, and an operator
at its outside would leave none. The parser takes no operator there, which `State.Anchored` says.
-/

namespace BraceScript.Syntax

open Grammar (Derives)

/-- A token list that the grammar derives. -/
def Sentence (ts : List Token) : Prop := ∃ os, Derives [.rule .start] ts os

/-- A token list with which some sentence begins. -/
def Viable (ts : List Token) : Prop := ∃ more, Sentence (ts ++ more)

/-! ## Parts around the first part of a `for` head -/

/-- Whether a part waits for the sign that closes it. -/
def Pending.isBracket : Pending → Bool
  | .group | .index _ | .size _ | .listing .. => true
  | _ => false

/-- Where a target has to be, the outermost part is a bracket. -/
def Use.Anchors (u : Use) (st : List Pending) : Prop :=
  u.isTarget → ∀ p ∈ st.getLast?, p.isBracket = true

/-- In a state inside an expression the stack is anchored. -/
def State.Anchored : State → Prop
  | .operand u st | .after u st _ | .memberOf u st _ | .listing u st _ | .newType u st
  | .newRest u st _ | .newBracket u st _ | .newElements u st _ => u.Anchors st
  | _ => True

namespace Use.Anchors

variable {u : Use} {p : Pending} {st : List Pending}

theorem nil (u : Use) : u.Anchors [] := fun _ _ hp => nomatch hp

theorem bracket (h : u.Anchors st) (hp : p.isBracket = true) : u.Anchors (p :: st) := by
  intro ht q hq
  cases st with
  | nil =>
    cases hq
    exact hp
  | cons r st =>
    rw [List.getLast?_cons_cons] at hq
    exact h ht q hq

theorem cons (h : u.Anchors st) (hne : u.isTarget → st ≠ []) : u.Anchors (p :: st) := by
  intro ht q hq
  obtain ⟨r, st, rfl⟩ := List.exists_cons_of_ne_nil (hne ht)
  rw [List.getLast?_cons_cons] at hq
  exact h ht q hq

theorem tail (h : u.Anchors (p :: st)) : u.Anchors st := by
  intro ht q hq
  cases st with
  | nil => cases hq
  | cons r st =>
    refine h ht q ?_
    rwa [List.getLast?_cons_cons]

/-- Only a bracket can be outermost. -/
theorem ne_nil (h : u.Anchors (p :: st)) (hp : p.isBracket = false) :
    u.isTarget → st ≠ [] := by
  rintro ht rfl
  have hbracket := h ht p rfl
  rw [hp] at hbracket
  cases hbracket

theorem reduce (h : u.Anchors st) (k : Nat) (e : Expr) : u.Anchors (Syntax.reduce k st e).1
    ∧ ((u.isTarget → st ≠ []) → u.isTarget → (Syntax.reduce k st e).1 ≠ []) := by
  fun_induction Syntax.reduce k st e with
  | case1 op st e ih => exact ⟨(ih h.tail).1, fun _ => (ih h.tail).2 (h.ne_nil rfl)⟩
  | case2 op l st e hk ih => exact ⟨(ih h.tail).1, fun _ => (ih h.tail).2 (h.ne_nil rfl)⟩
  | case3 op l st e hk => exact ⟨h, fun hne => hne⟩
  | case4 st e _ _ => exact ⟨h, fun hne => hne⟩

theorem settle (h : u.Anchors st) (e : Expr) : u.Anchors (Syntax.settle st e).1 := by
  fun_induction Syntax.settle st e with
  | case1 op st e ih => exact ih h.tail
  | case2 op l st e ih => exact ih h.tail
  | case3 c a st e ih => exact ih h.tail
  | case4 => exact h

end Use.Anchors

section

variable {u : Use} {st : List Pending} {e : Expr} {t : Token} {s : State}

theorem ne_nil_of_not_isTarget (h : ¬(u.isTarget && st.isEmpty) = true) :
    u.isTarget → st ≠ [] := by
  rintro ht rfl
  exact h (by rw [ht]; rfl)

theorem shiftOperand_anchored (hst : u.Anchors st) (h : shiftOperand u st t = some s) :
    s.Anchored := by
  unfold shiftOperand at h
  split at h
  · cases h
    exact hst
  · split at h
    · cases h
      exact hst.bracket rfl
    · cases h
      exact hst
    · split at h <;> cases h
      next hready => exact hst.cons (ne_nil_of_not_isTarget hready)
    · cases h

theorem Use.complete_anchored (h : u.complete e = some s) : s.Anchored := by
  cases u <;> cases h <;> trivial

theorem Use.stepOf_anchored {x : Target} {op : StepOp} (h : u.stepOf x op = some s) :
    s.Anchored := by
  cases u <;> cases h <;> trivial

theorem shiftCloser_anchored {g : Sign} {r : List Pending × Expr} (hst : u.Anchors r.1)
    (h : shiftCloser u g r = some s) : s.Anchored := by
  obtain ⟨st, e⟩ := r
  cases st with
  | nil =>
    simp only [shiftCloser] at h
    split at h
    · exact Use.complete_anchored h
    · cases h
  | cons p st =>
    cases p with
    | unary | binary | whenFalse => cases h
    | group | index | size =>
      simp only [shiftCloser] at h
      split at h <;> cases h
      exact hst.tail
    | listing l es =>
      simp only [shiftCloser] at h
      split at h
      · cases h
        exact hst.tail.bracket rfl
      · split at h <;> cases h
        exact hst.tail
    | whenTrue c =>
      simp only [shiftCloser] at h
      split at h <;> cases h
      exact hst.tail.cons (hst.ne_nil rfl)

theorem shiftAfter_anchored (hst : u.Anchors st) (h : shiftAfter u st e t = some s) :
    s.Anchored := by
  unfold shiftAfter at h
  split at h
  · cases h
    exact hst
  · cases h
    exact hst
  · cases h
    exact hst.bracket rfl
  · split at h <;> cases h
    next hready =>
      obtain ⟨hreduced, hne⟩ := hst.reduce 0 e
      exact hreduced.cons (hne (ne_nil_of_not_isTarget hready))
  · split at h
    · next op _ =>
      split at h <;> cases h
      next hready =>
        obtain ⟨hreduced, hne⟩ := hst.reduce op.level e
        exact hreduced.cons (hne (ne_nil_of_not_isTarget hready))
    · split at h
      · obtain ⟨v, -, rfl⟩ := Option.map_eq_some_iff.mp h
        exact .nil v
      · exact Use.stepOf_anchored h
      · exact shiftCloser_anchored (hst.settle e) h
      · cases h

theorem Nest.close_anchored (n : Nest) : n.close.Anchored := by
  obtain ⟨cls, head, params, done, outer⟩ := n
  cases outer with
  | nil => trivial
  | cons x outer =>
    obtain ⟨r, before⟩ := x
    cases r with
    | otherwise bs =>
      unfold close
      cases hbs : Branches.complete bs (.block done.reverse) <;> simp only [hbs] <;> trivial
    | _ => trivial

theorem shiftStatement_anchored {n : Nest} (h : shiftStatement n t = some s) : s.Anchored := by
  unfold shiftStatement at h
  split at h
  case h_3 =>
    cases h
    exact n.close_anchored
  case h_13 => exact shiftOperand_anchored (.nil _) h
  all_goals
    cases h
    trivial

theorem TypeUse.named_anchored (v : TypeUse) (ty : TypeRef) (x : Token) :
    (v.named ty x).Anchored := by
  cases v <;> trivial

/-- One token keeps the stack anchored. -/
theorem State.shift_anchored {s' : State} (hs : s.Anchored) (h : s.shift t = some s') :
    s'.Anchored := by
  revert hs h
  fun_cases State.shift s t <;> intro hs h
  case case2 | case5 | case17 | case67 | case86 => cases h
  -- statements
  case case33 => exact shiftStatement_anchored h
  case case62 =>
    obtain ⟨_, -, hshift⟩ := Option.bind_eq_some_iff.mp h
    exact shiftStatement_anchored hshift
  case case68 => exact shiftStatement_anchored h
  case case22 u ty _ =>
    cases h
    exact u.named_anchored ty t
  case case34 st n _ =>
    cases h
    exact st.typeUse.named_anchored _ t
  case case40 st _ _ _ => cases h; cases st <;> trivial
  -- expressions
  case case36 => exact shiftAfter_anchored (.nil _) h
  case case38 => exact shiftOperand_anchored (.bracket (.nil _) rfl) h
  case case43 | case45 | case51 | case53 | case55 => exact shiftOperand_anchored (.nil _) h
  case case75 => exact shiftOperand_anchored hs h
  case case76 => exact shiftAfter_anchored hs h
  case case79 | case84 => exact shiftOperand_anchored (.bracket hs rfl) h
  case case77 | case78 | case80 | case81 | case82 | case83 | case85 =>
    cases h
    exact hs
  case case25 | case39 | case46 | case47 | case59 =>
    cases h
    exact .nil _
  -- the other states are not inside an expression
  all_goals
    cases h
    trivial

theorem State.shifts_anchored {s' : State} {ts : List Token} (hs : s.Anchored)
    (h : s.shifts ts = .ok s') : s'.Anchored := by
  induction ts generalizing s with
  | nil =>
    cases h
    exact hs
  | cons t ts ih =>
    rw [shifts] at h
    cases hshift : s.shift t with
    | none =>
      rw [hshift] at h
      cases h
    | some v =>
      rw [hshift] at h
      exact ih (shift_anchored hs hshift) h

end

/-! ## Ways on -/

/-- A state from which some tokens lead to the end of a file. -/
def State.Completes (s : State) : Prop := ∃ ts f, s.Accepts ts f

/-- A token of a kind. -/
def Kind.token (k : Kind) : Token := ⟨k, "", .start⟩

namespace State.Completes

theorem of_shift {s s' : State} {t : Token} (h : s.shift t = some s') (hs : s'.Completes) :
    s.Completes := by
  obtain ⟨ts, f, hts⟩ := hs
  exact ⟨t :: ts, f, (State.accepts_cons h).mpr hts⟩

/-- A sign leads on. -/
theorem sign {s s' : State} (g : Sign) (hs : s'.Completes)
    (h : s.shift (Kind.sign g).token = some s') : s.Completes := of_shift h hs

/-- A keyword leads on. -/
theorem word {s s' : State} (w : Keyword) (hs : s'.Completes)
    (h : s.shift (Kind.word w).token = some s') : s.Completes := of_shift h hs

/-- A name leads on. -/
theorem name {s s' : State} (hs : s'.Completes) (h : s.shift Kind.name.token = some s') :
    s.Completes := of_shift h hs

/-! ### Files, classes and members -/

theorem files (f : OpenFile) : (State.file f []).Completes := ⟨[], _, _, rfl, rfl⟩

theorem classBody (c : OpenClass) : (State.members c []).Completes :=
  sign .closeBrace (files _) rfl

theorem classHead (f : OpenFile) (ms : List Token) : (State.className f ms).Completes :=
  name (sign .openBrace (classBody _) rfl) rfl

theorem file (f : OpenFile) (ms : List Token) : (State.file f ms).Completes :=
  word .kwClass (classHead f ms) (by cases ms <;> rfl)

theorem memberRest (c : OpenClass) (ms : List Token) (ty : TypeRef) (n : Token) :
    (State.memberRest c ms ty n).Completes :=
  sign .semicolon (classBody _) rfl

theorem memberName (c : OpenClass) (ms : List Token) (n : Token) :
    (State.memberName c ms n).Completes :=
  name (memberRest _ _ _ _) rfl

theorem members (c : OpenClass) (ms : List Token) : (State.members c ms).Completes :=
  name (memberName c ms _) (by cases ms <;> rfl)

/-! ### Statements -/

/-- After the closing brace of a block the blocks around it can be closed. -/
theorem close (outer : List (Role × List Stmt)) : ∀ (cls : OpenClass) (head : MemberHead)
    (params : List Param) (done : List Stmt),
    (Nest.close ⟨cls, head, params, done, outer⟩).Completes := by
  induction outer with
  | nil => exact fun cls head params done => classBody _
  | cons x outer ih =>
    obtain ⟨r, before⟩ := x
    intro cls head params done
    have hstatement (ss : List Stmt) :
        (State.statement ⟨cls, head, params, ss, outer⟩).Completes :=
      sign .closeBrace (ih cls head params ss) rfl
    have hotherwise (bs : Branches) (ss : List Stmt) :
        (Nest.close ⟨cls, head, params, ss, (.otherwise bs, before) :: outer⟩).Completes := by
      unfold Nest.close
      cases hbs : Branches.complete bs (.block ss.reverse) with
      | none =>
        simp only [hbs]
        exact hstatement _
      | some s =>
        simp only [hbs]
        exact hstatement _
    -- empty blocks end a conditional and a guarded statement
    have helse (bs : Branches) :
        (State.afterElse ⟨cls, head, params, before, outer⟩ bs).Completes :=
      sign .openBrace (sign .closeBrace (hotherwise bs []) rfl) rfl
    have hfinally (b : List Stmt) (hs : List Handler) :
        (State.blockOpen ⟨cls, head, params, before, outer⟩ (.finallyBody b hs)).Completes :=
      sign .openBrace (sign .closeBrace (hstatement _) rfl) rfl
    cases r with
    | plain | whileBody | forBody | foreachBody | finallyBody => exact hstatement _
    | otherwise bs => exact hotherwise bs done
    | branch bs c => exact word .kwElse (helse _) rfl
    | tryBody | catchBody => exact word .kwFinally (hfinally _ _) rfl

theorem statement (n : Nest) : (State.statement n).Completes :=
  sign .closeBrace (close n.outer n.cls n.head n.params n.done) rfl

theorem blockOpen (n : Nest) (r : Role) : (State.blockOpen n r).Completes :=
  sign .openBrace (statement _) rfl

theorem afterElse (n : Nest) (bs : Branches) : (State.afterElse n bs).Completes :=
  sign .openBrace (statement _) rfl

theorem afterBranch (n : Nest) (bs : Branches) : (State.afterBranch n bs).Completes :=
  word .kwElse (afterElse n bs) rfl

theorem afterTry (n : Nest) (b : List Stmt) (hs : List Handler) :
    (State.afterTry n b hs).Completes :=
  word .kwFinally (blockOpen n _) rfl

theorem catchOpen (n : Nest) (b : List Stmt) (hs : List Handler) :
    (State.catchOpen n b hs).Completes :=
  sign .openBrace (statement _) rfl

theorem catchName (n : Nest) (b : List Stmt) (hs : List Handler) (ty : Token) :
    (State.catchName n b hs ty).Completes :=
  sign .closeParen (blockOpen n _) rfl

theorem forStep (n : Nest) (i : Option ForInit) (c : Option Expr) :
    (State.forStep n i c).Completes :=
  sign .closeParen (blockOpen n _) rfl

theorem forCondition (n : Nest) (i : Option ForInit) : (State.forCondition n i).Completes :=
  sign .semicolon (forStep n i none) rfl

theorem forInit (n : Nest) : (State.forInit n).Completes :=
  sign .semicolon (forCondition n none) rfl

theorem declared (s : Start) (ty : TypeRef) (x : Token) : (State.declared s ty x).Completes := by
  cases s with
  | statement n => exact sign .semicolon (statement _) rfl
  | forHead n => exact sign .semicolon (forCondition n _) rfl

theorem body (c : OpenClass) (h : MemberHead) (ps : List Param) : (State.body c h ps).Completes :=
  sign .openBrace (statement _) rfl

theorem paramRest (c : OpenClass) (h : MemberHead) (ps : List Param) :
    (State.paramRest c h ps).Completes :=
  sign .closeParen (body c h _) rfl

/-! ### Expressions -/

/-- Every expression but the first part of a `for` head can be ended. -/
theorem use {u : Use} (hu : u.isTarget = false) (e : Expr) :
    ∃ s, u.complete e = some s ∧ s.Completes := by
  cases u with
  | field => exact ⟨_, rfl, classBody _⟩
  | declare | assign | statement | ret | throw => exact ⟨_, rfl, statement _⟩
  | condition | whileCondition | items | forStep | stepAssign => exact ⟨_, rfl, blockOpen _ _⟩
  | forTarget => cases hu
  | forDeclare | forAssign => exact ⟨_, rfl, forCondition _ _⟩
  | forCondition => exact ⟨_, rfl, forStep _ _ _⟩

end State.Completes

/-- Behind an operand some closing sign leads on. -/
def Use.CanClose (u : Use) (st : List Pending) (e : Expr) : Prop :=
  ∃ g s, Sign.closes g ∧ shiftCloser u g (settle st e) = some s ∧ s.Completes

theorem Use.CanClose.completes {u : Use} {st : List Pending} {e : Expr} (h : u.CanClose st e) :
    (State.after u st e).Completes := by
  obtain ⟨g, s, hg, hs, ts, f, hts⟩ := h
  have hlead : Leads (.after u st e) (Spelling.sign g) s := (Holds.refl st e).closes hg hs
  exact ⟨_, f, hlead [(Kind.sign g).token] ⟨_, rfl, rfl⟩ ts f hts⟩

/-- Nothing but a target can stand in the first part of a `for` head, so that this goes on as an
assignment to a member of it. -/
theorem State.Completes.target {u : Use} (hu : u.isTarget = true) (e : Expr) :
    (State.after u [] e).Completes := by
  cases u with
  | forTarget n =>
    have hvalue : (State.operand (.forAssign n (.member e Kind.name.token) .set) []).Completes :=
      .name (.sign .semicolon (.forCondition n _) rfl) rfl
    exact .sign .dot (.name (.sign .assign hvalue rfl) rfl) rfl
  | _ => cases hu

/-- Behind an operand everything around it can be completed. -/
theorem Use.Anchors.canClose {u : Use} {st : List Pending} (hst : u.Anchors st) :
    ∀ e, (u.isTarget → st ≠ []) → u.CanClose st e := by
  induction st with
  | nil =>
    -- nothing is open but the expression itself, which its own closing sign ends
    intro e hu
    have hno : u.isTarget = false := by
      by_contra h
      exact hu (by simpa using h) rfl
    obtain ⟨s, hs, hcompletes⟩ := State.Completes.use hno e
    refine ⟨u.closer, s, ?_, (if_pos rfl).trans hs, hcompletes⟩
    cases u <;> rfl
  | cons p st ih =>
    intro e _
    have hafter (x : Expr) : (State.after u st x).Completes := by
      by_cases hempty : u.isTarget = true ∧ st = []
      · obtain ⟨ht, rfl⟩ := hempty
        exact .target ht x
      · exact (ih hst.tail x fun ht hnil => hempty ⟨ht, hnil⟩).completes
    cases p with
    -- an operator is completed along with the parts around it
    | unary op => exact ih hst.tail (.unary op e) (hst.ne_nil rfl)
    | binary op l => exact ih hst.tail (.binary op l e) (hst.ne_nil rfl)
    | whenFalse c a => exact ih hst.tail (.choice c a e) (hst.ne_nil rfl)
    | whenTrue c =>
      have hchoice : u.CanClose (.whenFalse c e :: st) (.name Kind.name.token) :=
        ih hst.tail (.choice c e _) (hst.ne_nil rfl)
      exact ⟨.colon, _, rfl, rfl, .name hchoice.completes rfl⟩
    -- a bracket is closed
    | group => exact ⟨.closeParen, _, rfl, rfl, hafter _⟩
    | index x => exact ⟨.closeBracket, _, rfl, rfl, hafter _⟩
    | size ty => exact ⟨.closeBracket, _, rfl, rfl, hafter _⟩
    | listing l es =>
      cases l with
      | call | object => exact ⟨.closeParen, _, rfl, rfl, hafter _⟩
      | elements => exact ⟨.closeBrace, _, rfl, rfl, hafter _⟩

theorem Use.Anchors.after {u : Use} {st : List Pending} (hst : u.Anchors st) (e : Expr) :
    (State.after u st e).Completes := by
  by_cases hempty : u.isTarget = true ∧ st = []
  · obtain ⟨ht, rfl⟩ := hempty
    exact .target ht e
  · exact (hst.canClose e fun ht hnil => hempty ⟨ht, hnil⟩).completes

theorem Use.Anchors.operand {u : Use} {st : List Pending} (hst : u.Anchors st) :
    (State.operand u st).Completes := .name (hst.after _) rfl

theorem Use.Anchors.listing {u : Use} {st : List Pending} (hst : u.Anchors st) (l : Listing) :
    (State.listing u st l).Completes := .sign l.closer (hst.after _) (if_pos rfl)

theorem State.Completes.typeUse (u : TypeUse) (ty : TypeRef) (x : Token) :
    (u.named ty x).Completes := by
  cases u with
  | member => exact memberRest _ _ _ _
  | param => exact paramRest _ _ _
  | declare | forDeclare => exact declared _ _ _
  | foreach => exact word .kwIn (Use.Anchors.nil _).operand rfl

theorem State.Completes.typed (u : TypeUse) (ty : TypeRef) : (State.typed u ty).Completes :=
  name (typeUse u ty _) rfl

/-- Every state that the parser comes to can be completed. -/
theorem State.Anchored.completes {s : State} (h : s.Anchored) : s.Completes := by
  have hopen (u : Use) : (State.operand u []).Completes := (Use.Anchors.nil u).operand
  cases s with
  -- files and classes
  | file => exact .file _ _
  | usingName => exact .name (.sign .semicolon (.files _) rfl) rfl
  | usingRest => exact .sign .semicolon (.files _) rfl
  | className => exact .classHead _ _
  | classRest => exact .sign .openBrace (.classBody _) rfl
  | baseName => exact .name (.sign .openBrace (.classBody _) rfl) rfl
  | classOpen => exact .sign .openBrace (.classBody _) rfl
  -- members
  | members => exact .members _ _
  | memberName => exact .memberName _ _ _
  | typed => exact .typed _ _
  | rank => exact .sign .closeBracket (.typed _ _) rfl
  | memberRest => exact .memberRest _ _ _ _
  | params => exact .sign .closeParen (.body _ _ _) rfl
  | nextParam => exact .name (.typed _ _) rfl
  | paramRest => exact .paramRest _ _ _
  | body => exact .body _ _ _
  -- statements
  | statement => exact .statement _
  | startName => exact .name (.typeUse _ _ _) rfl
  | startBracket => exact .sign .closeBracket (.typed _ _) rfl
  | declared => exact .declared _ _ _
  | semicolon | ret | throw => exact .sign .semicolon (.statement _) rfl
  | conditionOpen | whileOpen => exact .sign .openParen (hopen _) rfl
  | forOpen => exact .sign .openParen (.forInit _) rfl
  | forInit => exact .forInit _
  | forCondition => exact .forCondition _ _
  | forStep => exact .forStep _ _ _
  | forClose => exact .sign .closeParen (.blockOpen _ _) rfl
  | foreachOpen => exact .sign .openParen (.name (.typed _ _) rfl) rfl
  | foreachType => exact .name (.typed _ _) rfl
  | foreachIn => exact .word .kwIn (hopen _) rfl
  | blockOpen => exact .blockOpen _ _
  | afterBranch => exact .afterBranch _ _
  | afterElse => exact .afterElse _ _
  | afterTry => exact .afterTry _ _ _
  | catchOpen => exact .catchOpen _ _ _
  | catchType => exact .name (.catchName _ _ _ _) rfl
  | catchName => exact .catchName _ _ _ _
  | catchClose => exact .sign .closeParen (.blockOpen _ _) rfl
  -- expressions
  | operand => exact h.operand
  | after => exact h.after _
  | memberOf => exact .name (h.after _) rfl
  | listing => exact h.listing _
  | newType => exact .name (.sign .openParen (h.listing _) rfl) rfl
  | newRest => exact .sign .openParen (h.listing _) rfl
  | newBracket => exact .sign .closeBracket (.sign .openBrace (h.listing _) rfl) rfl
  | newElements => exact .sign .openBrace (h.listing _) rfl

/-! ## Sentences and their beginnings -/

theorem sentence_iff_accepts {ts : List Token} :
    Sentence ts ↔ ∃ f, State.initial.Accepts ts f := by
  unfold Sentence
  simp only [derives_iff_parseTokens, parseTokens_eq_ok_iff_accepts]
  constructor
  · rintro ⟨_, f, hf, -⟩
    exact ⟨f, hf⟩
  · rintro ⟨f, hf⟩
    exact ⟨_, f, hf, rfl⟩

/-- Shifting goes on where it stopped. -/
theorem State.shifts_append {s s' : State} {ts : List Token} (h : s.shifts ts = .ok s')
    (us : List Token) : s.shifts (ts ++ us) = s'.shifts us := by
  induction ts generalizing s with
  | nil =>
    cases h
    rfl
  | cons t ts ih =>
    rw [List.cons_append]
    rw [shifts] at h ⊢
    cases hshift : s.shift t with
    | none =>
      rw [hshift] at h
      cases h
    | some v =>
      rw [hshift] at h
      exact ih h

/-- A token that is refused is refused in the state after those before it. -/
theorem State.shifts_eq_error {s : State} {ts : List Token} {t : Token}
    (h : s.shifts ts = .error t) :
    ∃ before after s', ts = before ++ t :: after ∧ s.shifts before = .ok s'
      ∧ s'.shift t = none := by
  induction ts generalizing s with
  | nil => cases h
  | cons u ts ih =>
    rw [shifts] at h
    cases hshift : s.shift u with
    | none =>
      rw [hshift] at h
      cases h
      exact ⟨[], ts, s, rfl, rfl, hshift⟩
    | some v =>
      rw [hshift] at h
      obtain ⟨before, after, s', rfl, hbefore, ht⟩ := ih h
      refine ⟨u :: before, after, s', rfl, ?_, ht⟩
      rw [shifts, hshift]
      exact hbefore

/-- A token list begins some sentence exactly when the parser shifts all of it. -/
theorem viable_iff_shifts {ts : List Token} :
    Viable ts ↔ ∃ s, State.initial.shifts ts = .ok s := by
  constructor
  · rintro ⟨more, hsentence⟩
    obtain ⟨f, s, hs, -⟩ := sentence_iff_accepts.mp hsentence
    cases hshifts : State.initial.shifts ts with
    | ok s' => exact ⟨s', rfl⟩
    | error t =>
      -- the refused token would be refused in the sentence, too
      obtain ⟨before, after, s', rfl, hbefore, ht⟩ := State.shifts_eq_error hshifts
      rw [List.append_assoc, State.shifts_append hbefore, List.cons_append, State.shifts, ht] at hs
      cases hs
  · -- what completes the last state is the rest of a sentence
    rintro ⟨s, hs⟩
    have hanchored : s.Anchored := State.shifts_anchored (s := .initial) trivial hs
    obtain ⟨more, f, s', hs', hf⟩ := hanchored.completes
    refine ⟨more, sentence_iff_accepts.mpr ⟨f, s', ?_, hf⟩⟩
    rw [State.shifts_append hs, hs']

/-- The token that the parser refuses is the first one that no sentence has at its place. -/
theorem first_refused {ts : List Token} {t : Token} (h : State.initial.shifts ts = .error t) :
    ∃ before after, ts = before ++ t :: after ∧ Viable before ∧ ¬Viable (before ++ [t]) := by
  obtain ⟨before, after, s, rfl, hbefore, ht⟩ := State.shifts_eq_error h
  refine ⟨before, after, rfl, viable_iff_shifts.mpr ⟨s, hbefore⟩, ?_⟩
  rw [viable_iff_shifts, State.shifts_append hbefore, State.shifts, ht]
  rintro ⟨_, hs⟩
  cases hs

end BraceScript.Syntax
