import BraceScript.Proofs.Syntax.Reading
import Mathlib

/-!
# How expressions are read

`Leads s l s'` says that over every token list in `l` the state `s` comes to do all that `s'` does.
Every spelling of an expression is read as this expression (`Expr.isRead`): the state after it need
not have completed the operators that it will complete with the next token, but `Holds` says that
it will.
-/

namespace BraceScript.Syntax

open Spelling

/-! ## Leading from state to state -/

/-- In a state the tokens are read to the end as a file. -/
def State.Accepts (s : State) (ts : List Token) (f : SourceFile) : Prop :=
  ∃ s', s.shifts ts = .ok s' ∧ s'.finish = some f

/-- What a state accepts, another one accepts behind some tokens. -/
def Leads (s : State) (l : Language Token) (s' : State) : Prop :=
  ∀ us ∈ l, ∀ ts f, s'.Accepts ts f → s.Accepts (us ++ ts) f

theorem State.accepts_cons {s s' : State} {t : Token} {ts : List Token} {f : SourceFile}
    (h : s.shift t = some s') : s.Accepts (t :: ts) f ↔ s'.Accepts ts f := by
  unfold Accepts
  rw [shifts, h]

namespace Leads

variable {s s' s'' : State} {l m : Language Token}

theorem refl : Leads s 1 s := by
  intro us hus ts f hts
  rw [Language.mem_one] at hus
  rwa [hus, List.nil_append]

theorem trans (h : Leads s l s') (h' : Leads s' m s'') : Leads s (l * m) s'' := by
  intro us hus ts f hts
  obtain ⟨vs, hvs, ws, hws, rfl⟩ := Language.mem_mul.mp hus
  show s.Accepts (vs ++ ws ++ ts) f
  rw [List.append_assoc]
  exact h vs hvs _ f (h' ws hws ts f hts)

theorem of_eq (h : Leads s l s') (he : l = m) : Leads s m s' := he ▸ h

/-- A state that does all that another one does. -/
theorem via (h : Leads s 1 s') (h' : Leads s' l s'') : Leads s l s'' :=
  (h.trans h').of_eq (one_mul l)

/-- One token of a kind. -/
theorem fixed {k : Kind} (h : ∀ x p, s.shift ⟨k, x, p⟩ = some s') :
    Leads s (Spelling.fixed k) s' := by
  rintro _ ⟨⟨_, x, p⟩, rfl, rfl⟩ ts f hts
  exact (State.accepts_cons (h x p)).mpr hts

/-- A token that is kept, of one of several kinds. -/
theorem kept {ks : List Kind} (z : Token → State) (t : Token)
    (h : ∀ k ∈ ks, ∀ x p, s.shift ⟨k, x, p⟩ = some (z ⟨k, x, p⟩)) :
    Leads s (Spelling.kept ks t) (z t) := by
  rintro _ ⟨ht, rfl⟩ ts f hts
  obtain ⟨k, x, p⟩ := t
  exact (State.accepts_cons (h k ht x p)).mpr hts

/-- A token that is kept. -/
theorem single {k : Kind} (z : Token → State) (t : Token)
    (h : ∀ x p, s.shift ⟨k, x, p⟩ = some (z ⟨k, x, p⟩)) : Leads s (Spelling.kept [k] t) (z t) :=
  .kept z t fun _ hk => List.mem_singleton.mp hk ▸ h

theorem given {p : Prop} (h : p → Leads s l s') : Leads s (Spelling.given p * l) s' := by
  intro us hus
  rw [mem_given_mul] at hus
  exact h hus.1 us hus.2

/-- A state does all that another one does, when it can follow its first step. -/
theorem of_shift (hfinish : s'.finish = none)
    (h : ∀ t u, s'.shift t = some u → ∃ v, s.shift t = some v ∧ Leads v 1 u) : Leads s 1 s' := by
  intro us hus ts f hts
  rw [Language.mem_one] at hus
  subst hus
  cases ts with
  | nil =>
    obtain ⟨_, hok, hf⟩ := hts
    cases hok
    rw [hfinish] at hf
    cases hf
  | cons t ts =>
    obtain ⟨z, hok, hf⟩ := hts
    rw [State.shifts] at hok
    cases hu : s'.shift t with
    | none =>
      rw [hu] at hok
      cases hok
    | some u =>
      rw [hu] at hok
      obtain ⟨v, hv, hlead⟩ := h t u hu
      exact (State.accepts_cons hv).mpr (hlead [] rfl ts f ⟨z, hok, hf⟩)

/-- A state does all that another one does, when it takes the same first steps. -/
theorem of_same_shift (hfinish : s'.finish = none)
    (h : ∀ t u, s'.shift t = some u → s.shift t = some u) : Leads s 1 s' :=
  of_shift hfinish fun t u hu => ⟨u, h t u hu, refl⟩

end Leads

/-! ## First tokens of expressions -/

/-- No expression begins with a sign that closes. -/
theorem shiftOperand_sign {u : Use} {st : List Pending} {t : Token} {s : State} {g : Sign}
    (h : shiftOperand u st t = some s) (hg : g ≠ .openParen ∧ g ≠ .bang ∧ g ≠ .minus) :
    t.kind ≠ .sign g := by
  intro hk
  cases g <;> simp_all [shiftOperand, atom?, unaryOp?]

/-- A state does all that a state before an operand does, when it shifts everything but a closing
sign like that one. -/
theorem Leads.of_operand {s : State} {u : Use} {st : List Pending} {g : Sign}
    (hg : g ≠ .openParen ∧ g ≠ .bang ∧ g ≠ .minus)
    (h : ∀ t, t.kind ≠ .sign g → s.shift t = shiftOperand u st t) : Leads s 1 (.operand u st) :=
  .of_same_shift rfl fun t _ hv => (h t (shiftOperand_sign hv hg)).trans hv

/-- The states before an expression that can be missing, with the sign that stands in its place. -/
inductive MayOmit : State → Sign → Use → List Pending → Prop
  | ret (n : Nest) : MayOmit (.ret n) .semicolon (.ret n) []
  | throw (n : Nest) : MayOmit (.throw n) .semicolon (.throw n) []
  | forCondition (n : Nest) (i : Option ForInit) :
    MayOmit (.forCondition n i) .semicolon (.forCondition n i) []
  | forStep (n : Nest) (i : Option ForInit) (c : Option Expr) :
    MayOmit (.forStep n i c) .closeParen (.forStep n i c) []
  | size (u : Use) (st : List Pending) (ty : Token) :
    MayOmit (.newBracket u st ty) .closeBracket u (.size ty :: st)
  | index (s : Start) (n : Token) :
    MayOmit (.startBracket s n) .closeBracket s.use [.index (.name n)]

theorem MayOmit.leads {s : State} {g : Sign} {u : Use} {st : List Pending}
    (h : MayOmit s g u st) : Leads s 1 (.operand u st) := by
  refine .of_operand (g := g) (by cases h <;> decide) fun ⟨k, x, p⟩ hk => ?_
  cases k with
  | sign c => cases h <;> cases c <;> first | rfl | exact absurd rfl hk
  | _ => cases h <;> rfl

theorem leads_listing (u : Use) (st : List Pending) (l : Listing) :
    Leads (.listing u st l) 1 (.operand u (.listing l [] :: st)) :=
  .of_operand (g := l.closer) (by cases l <;> simp [Listing.closer]) fun _ hk => if_neg hk

theorem leads_startName (s : Start) (n : Token) :
    Leads (.startName s n) 1 (.after s.use [] (.name n)) := by
  refine .of_shift rfl fun ⟨k, x, p⟩ u h => ?_
  cases k with
  | sign g =>
    cases g
    case openBracket =>
      cases h
      exact ⟨_, rfl, (MayOmit.index s n).leads⟩
    all_goals exact ⟨u, h, .refl⟩
  | name => cases h
  | _ => exact ⟨u, h, .refl⟩

/-- The state where a statement or the head of a `for` loop begins. -/
def Start.state : Start → State
  | .statement n => .statement n
  | .forHead n => .forInit n

/-- Where something begins, an expression can begin. -/
theorem Start.leads_operand (s : Start) : Leads s.state 1 (.operand s.use []) := by
  refine .of_shift (by cases s <;> rfl) fun ⟨k, x, p⟩ u h => ?_
  cases k with
  | name =>
    cases h
    exact ⟨.startName s ⟨.name, x, p⟩, by cases s <;> rfl, leads_startName s _⟩
  | word w => cases s <;> cases w <;> first | exact ⟨u, h, .refl⟩ | cases h
  | sign g => cases s <;> cases g <;> first | exact ⟨u, h, .refl⟩ | cases h
  | _ => cases s <;> exact ⟨u, h, .refl⟩

theorem leads_afterBranch {n : Nest} {bs : Branches} {s : Stmt}
    (hs : Branches.complete bs .none = some s) :
    Leads (.afterBranch n bs) 1 (.statement (n.add s)) := by
  have hbind (t : Token) : (Branches.complete bs .none).bind (fun s => shiftStatement (n.add s) t)
      = shiftStatement (n.add s) t := by rw [hs, Option.bind_some]
  refine .of_same_shift rfl fun ⟨k, x, p⟩ u h => ?_
  cases k with
  | word w =>
    cases w
    case kwElse => cases h
    all_goals exact (hbind _).trans h
  | _ => exact (hbind _).trans h

theorem leads_afterTry {n : Nest} {b : List Stmt} {hs : List Handler} (hne : hs ≠ []) :
    Leads (.afterTry n b hs) 1 (.statement (n.add (.attempt b hs none))) := by
  obtain ⟨y, hs, rfl⟩ := List.exists_cons_of_ne_nil hne
  refine .of_same_shift rfl fun ⟨k, x, p⟩ u h => ?_
  cases k with
  | word w =>
    cases w
    case kwCatch | kwFinally => cases h
    all_goals exact h
  | _ => exact h

/-! ## Expressions -/

/-- Nothing is completed that waits for operands as loose as the operator that comes. -/
theorem reduce_of_least {k : Nat} {st : List Pending} (hk : k ≤ 6) (h : least st ≤ k) (e : Expr) :
    reduce k st e = (st, e) := by
  cases st with
  | nil => rfl
  | cons p st =>
    cases p with
    | unary op => exact absurd (show 7 ≤ k from h) (by omega)
    | binary op l => exact if_neg (show ¬k ≤ op.level by simp only [least] at h; omega)
    | _ => rfl

/-- After an operand with its operators, the parser does what it does after a whole expression:
what closes the expression completes it, and so does every operator that binds less tightly. -/
structure Holds (st : List Pending) (e : Expr) (st' : List Pending) (x : Expr) : Prop where
  settles : settle st' x = settle st e
  reduces : ∀ k ≤ e.level, 1 ≤ e.level → reduce k st' x = reduce k st e
  exact : 8 ≤ e.level → st' = st ∧ x = e

theorem Holds.refl (st : List Pending) (e : Expr) : Holds st e st e :=
  ⟨rfl, fun _ _ _ => rfl, fun _ => ⟨rfl, rfl⟩⟩

/-- Before an operand, every spelling of the expression is read as this expression, when it binds
tightly enough for the operator that waits for it. Only what stands behind operands can become the
target that a `for` head begins with. -/
def Expr.IsRead (e : Expr) : Prop :=
  ∀ u st, least st ≤ e.level → (u.isTarget → st = [] → 8 ≤ e.level) →
    ∃ st' x, Leads (.operand u st) (ofExpr e) (.after u st' x) ∧ Holds st e st' x

/-- The signs that can only stand behind a whole expression. -/
def Sign.closes : Sign → Bool
  | .comma | .colon | .semicolon | .closeParen | .closeBracket | .closeBrace => true
  | _ => false

/-- A closing sign finds the whole expression. -/
theorem Holds.closes {u : Use} {st st' : List Pending} {e x : Expr} {g : Sign} {s : State}
    (h : Holds st e st' x) (hg : g.closes)
    (hs : shiftCloser u g (settle st e) = some s) : Leads (.after u st' x) (sign g) s := by
  refine .fixed fun y p => ?_
  rw [← h.settles] at hs
  rw [← hs]
  cases g <;> first | rfl | cases hg

/-- An expression and what closes it. -/
theorem Expr.IsRead.closed {e : Expr} (h : e.IsRead) {u : Use} {st : List Pending} {g : Sign}
    {s : State} (hst : least st = 0) (hu : u.isTarget → st ≠ []) (hg : g.closes)
    (hs : shiftCloser u g (settle st e) = some s) :
    Leads (.operand u st) (ofExpr e * sign g) s := by
  obtain ⟨st', x, hlead, hx⟩ := h u st (hst ▸ Nat.zero_le _) fun ht he => absurd he (hu ht)
  exact hlead.trans (hx.closes hg hs)

/-- An expression that binds tightly is read as it is. -/
theorem Expr.IsRead.tight {e : Expr} (h : e.IsRead) (he : 8 ≤ e.level) (u : Use)
    (st : List Pending) : Leads (.operand u st) (ofExpr e) (.after u st e) := by
  obtain ⟨st', x, hlead, hx⟩ := h u st ((least_le_seven st).trans (by omega)) fun _ _ => he
  obtain ⟨rfl, rfl⟩ := hx.exact he
  exact hlead

theorem leads_newRest (u : Use) (st : List Pending) (t : Token) :
    Leads (.operand u st) (word .kwNew * Spelling.name t) (.newRest u st t) :=
  .trans (.fixed fun _ _ => rfl) (.single (State.newRest u st) t fun _ _ => rfl)

/-- Expressions with commas between them, and the sign that ends the list. -/
theorem leads_items {u : Use} {st : List Pending} {l : Listing} {es : List Expr} :
    ∀ (done : List Expr) (e : Expr), (∀ a ∈ e :: es, a.IsRead) →
      Leads (.operand u (.listing l done :: st)) (listed (ofExprs (e :: es)) * sign l.closer)
        (.after u st (l.complete (done.reverse ++ e :: es))) := by
  induction es with
  | nil =>
    intro done e h
    refine (h e List.mem_cons_self).closed rfl (fun _ => List.cons_ne_nil _ _) ?_ ?_
    · cases l <;> rfl
    · cases l <;> simp [settle, shiftCloser, Listing.closer]
  | cons a es ih =>
    intro done e h
    have hfirst : Leads (.operand u (.listing l done :: st)) (ofExpr e * sign .comma)
        (.operand u (.listing l (e :: done) :: st)) :=
      (h e List.mem_cons_self).closed rfl (fun _ => List.cons_ne_nil _ _) rfl rfl
    have hrest := ih (e :: done) a fun b hb => h b (List.mem_cons_of_mem e hb)
    rw [List.reverse_cons, List.append_assoc] at hrest
    refine (hfirst.trans hrest).of_eq ?_
    simp [listed, ofExprs, separated, mul_assoc]

/-- A list of arguments or elements and the sign that ends it. -/
theorem leads_listed {u : Use} {st : List Pending} {l : Listing} {es : List Expr}
    (h : ∀ e ∈ es, e.IsRead) :
    Leads (.listing u st l) (listed (ofExprs es) * sign l.closer)
      (.after u st (l.complete es)) := by
  cases es with
  | nil =>
    refine .of_eq (.fixed fun x p => ?_) (one_mul _).symm
    exact if_pos rfl
  | cons e es => exact (leads_listing u st l).via (leads_items [] e h)

/-- No operand is completed by an operator that does not bind less tightly than it must. -/
theorem Holds.reduce_eq {st st' : List Pending} {e x : Expr} {k : Nat} (h : Holds st e st' x)
    (hk : k ≤ 6) (he : k ≤ e.level) (hone : 1 ≤ e.level) (hst : least st ≤ k) :
    reduce k st' x = (st, e) := by
  rw [h.reduces k he hone, reduce_of_least hk hst]

/-- Completing operators brings no waiting part onto an empty stack. -/
theorem ne_nil_of_reduce {k : Nat} {st st' : List Pending} {e x : Expr}
    (h : reduce k st' x = (st, e)) (hst : st ≠ []) : st' ≠ [] := by
  rintro rfl
  cases h
  exact hst rfl

/-- An operator can stand wherever the expression need not be a target as a whole. -/
theorem not_isTarget {u : Use} {st : List Pending} (h : u.isTarget → st ≠ []) :
    ¬(u.isTarget && st.isEmpty) := by
  intro hboth
  rw [Bool.and_eq_true, List.isEmpty_iff] at hboth
  exact h hboth.1 hboth.2

/-- A binary operator behind its left operand. -/
theorem Holds.binary {u : Use} {st st' : List Pending} {l x : Expr} {op : BinaryOp}
    (h : Holds st l st' x) (hl : op.level ≤ l.level) (hst : least st ≤ op.level)
    (hu : u.isTarget → st ≠ []) :
    Leads (.after u st' x) (sign op.sign) (.operand u (.binary op l :: st)) := by
  refine .fixed fun y p => ?_
  have hreduce := h.reduce_eq op.level_le_six hl (op.one_le_level.trans hl) hst
  have hstep : (State.after u st' x).shift ⟨.sign op.sign, y, p⟩
      = if u.isTarget && st'.isEmpty then none
        else some (.operand u
          (.binary op (reduce op.level st' x).2 :: (reduce op.level st' x).1)) := by
    cases op <;> rfl
  rw [hstep, hreduce, if_neg (not_isTarget fun ht => ne_nil_of_reduce hreduce (hu ht))]

/-- A question mark behind a condition. -/
theorem Holds.choice {u : Use} {st st' : List Pending} {c x : Expr} (h : Holds st c st' x)
    (hc : 1 ≤ c.level) (hst : least st = 0) (hu : u.isTarget → st ≠ []) :
    Leads (.after u st' x) (sign .question) (.operand u (.whenTrue c :: st)) := by
  refine .fixed fun y p => ?_
  have hreduce := h.reduce_eq (Nat.zero_le 6) (Nat.zero_le _) hc hst.le
  have hstep : (State.after u st' x).shift ⟨.sign .question, y, p⟩
      = if u.isTarget && st'.isEmpty then none
        else some (.operand u (.whenTrue (reduce 0 st' x).2 :: (reduce 0 st' x).1)) := rfl
  rw [hstep, hreduce, if_neg (not_isTarget fun ht => ne_nil_of_reduce hreduce (hu ht))]

/-- A token that is an expression. -/
theorem Expr.isRead_token {k : Kind} (f : Token → Expr) (t : Token)
    (hl : ofExpr (f t) = kept [k] t) (h : ∀ x p, atom? ⟨k, x, p⟩ = some (f ⟨k, x, p⟩)) :
    (f t).IsRead := by
  intro u st _ _
  refine ⟨st, f t, ?_, .refl _ _⟩
  rw [hl]
  refine .single (fun t => .after u st (f t)) t fun x p => ?_
  show shiftOperand u st ⟨k, x, p⟩ = _
  rw [shiftOperand, h]

theorem Expr.isRead_unary {op : UnaryOp} {e : Expr} (he : e.IsRead) : (unary op e).IsRead := by
  intro u st hst hu
  -- an operand that binds less tightly has no spelling here
  by_cases hlevel : 7 ≤ e.level
  · obtain ⟨st', x, hlead, hx⟩ := he u (.unary op :: st) hlevel fun _ h => nomatch h
    refine ⟨st', x, ?_, ?_, ?_, fun h => absurd h (by simp [level])⟩
    · have hsign : Leads (.operand u st) (sign op.sign) (.operand u (.unary op :: st)) := by
        refine .fixed fun y p => ?_
        have hstep : (State.operand u st).shift ⟨.sign op.sign, y, p⟩
            = if u.isTarget && st.isEmpty then none
              else some (.operand u (.unary op :: st)) := by
          cases op <;> rfl
        rw [hstep, if_neg (not_isTarget fun ht hnil => absurd (hu ht hnil) (by simp [level]))]
      refine (hsign.trans hlead).of_eq ?_
      rw [ofExpr, given_of hlevel, one_mul]
    · rw [hx.settles, settle]
    · intro k hk hone
      rw [hx.reduces k (hk.trans hlevel) (by omega), reduce]
  · refine ⟨st, unary op e, ?_, .refl _ _⟩
    rw [ofExpr, mul_assoc]
    exact .given fun h => absurd h hlevel

theorem Expr.isRead_binary {op : BinaryOp} {l r : Expr} (hl : l.IsRead) (hr : r.IsRead) :
    (binary op l r).IsRead := by
  intro u st hst hu
  have hsix := op.level_le_six
  by_cases hlevel : op.level ≤ l.level ∧ op.level < r.level
  · have hready : u.isTarget → st ≠ [] := by
      intro ht hnil
      have height : 8 ≤ op.level := hu ht hnil
      omega
    obtain ⟨st₁, x, hleft, hx⟩ := hl u st (hst.trans hlevel.1)
      fun ht hnil => absurd hnil (hready ht)
    obtain ⟨st₂, y, hright, hy⟩ := hr u (.binary op l :: st) hlevel.2 fun _ h => nomatch h
    refine ⟨st₂, y, ?_, ?_, ?_, fun h => absurd (show 8 ≤ op.level from h) (by omega)⟩
    · refine (hleft.trans ((hx.binary hlevel.1 hst hready).trans hright)).of_eq ?_
      rw [ofExpr, given_of hlevel, one_mul, mul_assoc]
    · rw [hy.settles, settle]
    · intro k hk hone
      have hkop : k ≤ op.level := hk
      rw [hy.reduces k (by omega) (by omega), reduce, if_pos hkop]
  · refine ⟨st, binary op l r, ?_, .refl _ _⟩
    rw [ofExpr, mul_assoc, mul_assoc]
    exact .given fun h => absurd h hlevel

theorem Expr.isRead_choice {c a b : Expr} (hc : c.IsRead) (ha : a.IsRead) (hb : b.IsRead) :
    (choice c a b).IsRead := by
  intro u st hst hu
  by_cases hlevel : 1 ≤ c.level
  · have hready : u.isTarget → st ≠ [] := fun ht hnil => absurd (hu ht hnil) (by simp [level])
    have hleast : least st = 0 := Nat.le_zero.mp hst
    obtain ⟨st₁, x, hcond, hx⟩ := hc u st (hleast ▸ Nat.zero_le _)
      fun ht hnil => absurd hnil (hready ht)
    have htrue : Leads (.operand u (.whenTrue c :: st)) (ofExpr a * sign .colon)
        (.operand u (.whenFalse c a :: st)) :=
      ha.closed rfl (fun _ => List.cons_ne_nil _ _) rfl rfl
    obtain ⟨st₂, y, hfalse, hy⟩ := hb u (.whenFalse c a :: st) (Nat.zero_le _) fun _ h => nomatch h
    refine ⟨st₂, y, ?_, ?_, fun _ _ h => absurd h (by simp [level]),
      fun h => absurd h (by simp [level])⟩
    · refine (hcond.trans ((hx.choice hlevel hleast hready).trans (htrue.trans hfalse))).of_eq ?_
      rw [ofExpr, given_of hlevel]
      simp [mul_assoc]
    · rw [hy.settles, settle]
  · refine ⟨st, choice c a b, ?_, .refl _ _⟩
    rw [ofExpr, mul_assoc, mul_assoc, mul_assoc, mul_assoc]
    exact .given fun h => absurd h hlevel

/-- Every expression is read. -/
theorem Expr.isRead (e : Expr) : e.IsRead := by
  induction e using Expr.byOperands with
  | h e ih =>
  cases e with
  | number t => exact isRead_token .number t rfl fun _ _ => rfl
  | string t => exact isRead_token .string t rfl fun _ _ => rfl
  | char t => exact isRead_token .char t rfl fun _ _ => rfl
  | name t => exact isRead_token .name t rfl fun _ _ => rfl
  | true | false | null | this =>
    exact fun u st _ _ => ⟨st, _, .fixed fun _ _ => rfl, .refl _ _⟩
  -- operators, whose last operand may leave them waiting
  | unary op e => exact isRead_unary (ih e (by simp [operands]))
  | binary op l r =>
    exact isRead_binary (ih l (by simp [operands])) (ih r (by simp [operands]))
  | choice c a b =>
    exact isRead_choice (ih c (by simp [operands])) (ih a (by simp [operands]))
      (ih b (by simp [operands]))
  -- the rest ends with a token of its own, and is read exactly
  | group e =>
    have he : e.IsRead := ih e (by simp [operands])
    intro u st _ _
    refine ⟨st, _, ?_, .refl _ _⟩
    have hopen : Leads (.operand u st) (sign .openParen) (.operand u (.group :: st)) :=
      .fixed fun _ _ => rfl
    have hclose : Leads (.operand u (.group :: st)) (ofExpr e * sign .closeParen)
        (.after u st (.group e)) := he.closed rfl (fun _ => List.cons_ne_nil _ _) rfl rfl
    exact (hopen.trans hclose).of_eq (mul_assoc _ _ _).symm
  | member e n =>
    have he : e.IsRead := ih e (by simp [operands])
    intro u st _ _
    refine ⟨st, _, ?_, .refl _ _⟩
    have hdot : Leads (.after u st e) (sign .dot) (.memberOf u st e) := .fixed fun _ _ => rfl
    have hname : Leads (.memberOf u st e) (Spelling.name n) (.after u st (.member e n)) :=
      .single (fun n => .after u st (.member e n)) n fun _ _ => rfl
    refine .of_eq (.given fun h => (he.tight h u st).trans (hdot.trans hname)) ?_
    simp [ofExpr, mul_assoc]
  | call f as =>
    have hf : f.IsRead := ih f (by simp [operands])
    have has : ∀ a ∈ as, a.IsRead := fun a ha => ih a (by simp [operands, ha])
    intro u st _ _
    refine ⟨st, _, ?_, .refl _ _⟩
    have hopen : Leads (.after u st f) (sign .openParen) (.listing u st (.call f)) :=
      .fixed fun _ _ => rfl
    refine .of_eq (.given fun h => (hf.tight h u st).trans (hopen.trans (leads_listed has))) ?_
    simp [ofExpr, parens, Listing.closer, mul_assoc]
  | index e i =>
    have he : e.IsRead := ih e (by simp [operands])
    have hi : i.IsRead := ih i (by simp [operands])
    intro u st _ _
    refine ⟨st, _, ?_, .refl _ _⟩
    have hopen : Leads (.after u st e) (sign .openBracket) (.operand u (.index e :: st)) :=
      .fixed fun _ _ => rfl
    have hclose : Leads (.operand u (.index e :: st)) (ofExpr i * sign .closeBracket)
        (.after u st (.index e i)) := hi.closed rfl (fun _ => List.cons_ne_nil _ _) rfl rfl
    refine .of_eq (.given fun h => (he.tight h u st).trans (hopen.trans hclose)) ?_
    simp [ofExpr, brackets, mul_assoc]
  | newObject t as =>
    have has : ∀ a ∈ as, a.IsRead := fun a ha => ih a (by simp [operands, ha])
    intro u st _ _
    refine ⟨st, _, ?_, .refl _ _⟩
    have hopen : Leads (.newRest u st t) (sign .openParen) (.listing u st (.object t)) :=
      .fixed fun _ _ => rfl
    refine ((leads_newRest u st t).trans (hopen.trans (leads_listed has))).of_eq ?_
    simp [ofExpr, parens, Listing.closer, mul_assoc]
  | newArray t e =>
    have he : e.IsRead := ih e (by simp [operands])
    intro u st _ _
    refine ⟨st, _, ?_, .refl _ _⟩
    have hopen : Leads (.newRest u st t) (sign .openBracket) (.newBracket u st t) :=
      .fixed fun _ _ => rfl
    have hclose : Leads (.operand u (.size t :: st)) (ofExpr e * sign .closeBracket)
        (.after u st (.newArray t e)) := he.closed rfl (fun _ => List.cons_ne_nil _ _) rfl rfl
    have hsize := (MayOmit.size u st t).leads.via hclose
    refine ((leads_newRest u st t).trans (hopen.trans hsize)).of_eq ?_
    simp [ofExpr, brackets, mul_assoc]
  | elements t as =>
    have has : ∀ a ∈ as, a.IsRead := fun a ha => ih a (by simp [operands, ha])
    intro u st _ _
    refine ⟨st, _, ?_, .refl _ _⟩
    have hbracket : Leads (.newRest u st t) (sign .openBracket) (.newBracket u st t) :=
      .fixed fun _ _ => rfl
    have hrank : Leads (.newBracket u st t) (sign .closeBracket) (.newElements u st t) :=
      .fixed fun _ _ => rfl
    have hopen : Leads (.newElements u st t) (sign .openBrace) (.listing u st (.elements t)) :=
      .fixed fun _ _ => rfl
    refine ((leads_newRest u st t).trans (hbracket.trans (hrank.trans
      (hopen.trans (leads_listed has))))).of_eq ?_
    simp [ofExpr, brackets, braces, Listing.closer, mul_assoc]

end BraceScript.Syntax
