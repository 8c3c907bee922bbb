import BraceScript.Proofs.Syntax.Spelling
import BraceScript.Syntax.Parser
import Mathlib

/-!
# What was read

`State.reading` is the set of all token lists that can have been read in a state of the parser.
Every token that the parser shifts leads from what was read before to what is read then
(`State.reading_shift`), so that a file which is accepted was spelled (`mem_ofFile_of_shifts`).

The operators that wait on the stack do so in the order of their levels: what waits directly above
an operator binds at least as tightly as its operand must (`least`).
-/

namespace BraceScript.Syntax

open Spelling

/-! ## Blocks and classes in progress -/

/-- What was read of an open file. -/
def OpenFile.reading (f : OpenFile) : Language Token :=
  (f.usings.reverse.map ofUsing).prod * (f.classes.reverse.map ofClass).prod

/-- What was read with an open class. -/
def OpenClass.reading (c : OpenClass) : Language Token :=
  c.file.reading * ofHead c.head * sign .openBrace * (c.members.reverse.map ofMember).prod

/-- What was read of the head of a member. -/
def MemberHead.reading : MemberHead → Language Token
  | .method ms t n => ofModifiers ms * ofType t * name n
  | .constructor ms n => ofModifiers ms * name n

/-- What was read of a conditional before its next branch. -/
def Branches.opening : Branches → Language Token
  | [] => 1
  | (c, b) :: bs =>
    Branches.opening bs * word .kwIf * parens (ofExpr c) * braces (ofStmts b) * word .kwElse

/-- What was read of a conditional after its last branch. -/
def Branches.closed : Branches → Language Token
  | [] => 0
  | (c, b) :: bs => Branches.opening bs * word .kwIf * parens (ofExpr c) * braces (ofStmts b)

/-- What was read of a guarded statement after its handlers. -/
def guarded (b : List Stmt) (hs : List Handler) : Language Token :=
  word .kwTry * braces (ofStmts b) * ofHandlers hs

/-- What was read of a statement before the opening brace of its block. -/
def Role.opening : Role → Language Token
  | .plain => 1
  | .branch bs c => Branches.opening bs * word .kwIf * parens (ofExpr c)
  | .otherwise bs => Branches.closed bs * word .kwElse
  | .whileBody c => word .kwWhile * parens (ofExpr c)
  | .forBody i c s => word .kwFor * parens (Spelling.ofOption ofForInit i * sign .semicolon
      * Spelling.ofOption ofExpr c * sign .semicolon * Spelling.ofOption ofForStep s)
  | .foreachBody t n e => word .kwForeach * parens (ofType t * name n * word .kwIn * ofExpr e)
  | .tryBody => word .kwTry
  | .catchBody b hs f => guarded b hs * word .kwCatch * Spelling.ofOption ofFilter f
  | .finallyBody b hs => guarded b hs * word .kwFinally

/-- What was read in the blocks around the innermost one. -/
def outerReading : List (Role × List Stmt) → Language Token
  | [] => 1
  | (r, ss) :: outer => outerReading outer * ofStmts ss.reverse * r.opening * sign .openBrace

/-- What was read in a nest of blocks. -/
def Nest.reading (n : Nest) : Language Token :=
  n.cls.reading * n.head.reading * ofParams n.params * sign .openBrace * outerReading n.outer
    * ofStmts n.done.reverse

/-- What was read before a statement or after the opening of a `for` head. -/
def Start.reading : Start → Language Token
  | .statement n => n.reading
  | .forHead n => n.reading * word .kwFor * sign .openParen

/-- What was read before a type. -/
def TypeUse.reading : TypeUse → Language Token
  | .member c ms => c.reading * ofModifiers ms
  | .param c h ps => c.reading * h.reading * sign .openParen
      * (ps.reverse.map fun p => ofParam p * sign .comma).prod
  | .declare n => n.reading
  | .forDeclare n => n.reading * word .kwFor * sign .openParen
  | .foreach n => n.reading * word .kwForeach * sign .openParen

/-! ## Expressions in progress -/

/-- What was read of a listing with its opening sign. -/
def Listing.opening : Listing → Language Token
  | .call f => ofExpr f * sign .openParen
  | .object t => word .kwNew * name t * sign .openParen
  | .elements t => word .kwNew * name t * brackets 1 * sign .openBrace

/-- What was read of a waiting part. -/
def Pending.reading : Pending → Language Token
  | .unary op => sign op.sign
  | .binary op l => ofExpr l * sign op.sign
  | .whenTrue c => ofExpr c * sign .question
  | .whenFalse c a => ofExpr c * sign .question * ofExpr a * sign .colon
  | .group => sign .openParen
  | .index e => ofExpr e * sign .openBracket
  | .size t => word .kwNew * name t * sign .openBracket
  | .listing l es => l.opening * (es.reverse.map fun e => ofExpr e * sign .comma).prod

/-- What was read of the waiting parts. -/
def stackReading : List Pending → Language Token
  | [] => 1
  | p :: st => stackReading st * p.reading

/-- What was read before an expression. -/
def Use.reading : Use → Language Token
  | .field c ms t x => c.reading * ofModifiers ms * ofType t * name x * sign .assign
  | .declare n t x => n.reading * ofType t * name x * sign .assign
  | .assign n t op => n.reading * ofTarget t * sign op.sign
  | .statement n => n.reading
  | .ret n => n.reading * word .kwReturn
  | .throw n => n.reading * word .kwThrow
  | .condition n bs => n.reading * Branches.opening bs * word .kwIf * sign .openParen
  | .whileCondition n => n.reading * word .kwWhile * sign .openParen
  | .items n t x => n.reading * word .kwForeach * sign .openParen * ofType t * name x * word .kwIn
  | .forTarget n => n.reading * word .kwFor * sign .openParen
  | .forDeclare n t x =>
    n.reading * word .kwFor * sign .openParen * ofType t * name x * sign .assign
  | .forAssign n t op => n.reading * word .kwFor * sign .openParen * ofTarget t * sign op.sign
  | .forCondition n i => n.reading * word .kwFor * sign .openParen * Spelling.ofOption ofForInit i
      * sign .semicolon
  | .forStep n i c => n.reading * word .kwFor * sign .openParen * Spelling.ofOption ofForInit i
      * sign .semicolon * Spelling.ofOption ofExpr c * sign .semicolon
  | .stepAssign n i c t op => n.reading * word .kwFor * sign .openParen
      * Spelling.ofOption ofForInit i * sign .semicolon * Spelling.ofOption ofExpr c
      * sign .semicolon * ofTarget t * sign op.sign

/-! ## States -/

/-- What was read of a statement that lacks its semicolon only. -/
def unended : Stmt → Language Token
  | .step t op => ofStep t op
  | .brk => word .kwBreak
  | .cont => word .kwContinue
  | _ => 0

/-- What was read in a state. -/
def State.reading : State → Language Token
  | .file f ms => f.reading * ofModifiers ms
  | .usingName f ns => f.reading * word .kwUsing
      * (ns.map fun n => name n * sign .dot).prod
  | .usingRest f ns => f.reading * word .kwUsing * ofQualified ns
  | .className f ms => f.reading * ofModifiers ms * word .kwClass
  | .classRest f ms n => f.reading * ofModifiers ms * word .kwClass * name n
  | .baseName f ms n => f.reading * ofModifiers ms * word .kwClass * name n * sign .colon
  | .classOpen f h => f.reading * ofHead h
  | .members c ms => c.reading * ofModifiers ms
  | .memberName c ms n => c.reading * ofModifiers ms * name n
  | .typed u t => u.reading * ofType t
  | .rank u t => u.reading * ofType t * sign .openBracket
  | .memberRest c ms t x => c.reading * ofModifiers ms * ofType t * name x
  | .params c h => c.reading * h.reading * sign .openParen
  | .nextParam c h ps => c.reading * h.reading * sign .openParen
      * (ps.reverse.map fun p => ofParam p * sign .comma).prod
  | .paramRest c h ps => c.reading * h.reading * sign .openParen
      * listed (ps.reverse.map ofParam)
  | .body c h ps => c.reading * h.reading * ofParams ps
  | .statement n => n.reading
  | .startName s t => s.reading * name t
  | .startBracket s t => s.reading * name t * sign .openBracket
  | .declared s t x => s.reading * ofType t * name x
  | .operand u st => u.reading * stackReading st
  | .after u st e => u.reading * stackReading st * ofExpr e
  | .memberOf u st e => u.reading * stackReading st * ofExpr e * sign .dot
  | .listing u st l => u.reading * stackReading st * l.opening
  | .newType u st => u.reading * stackReading st * word .kwNew
  | .newRest u st t => u.reading * stackReading st * word .kwNew * name t
  | .newBracket u st t => u.reading * stackReading st * word .kwNew * name t * sign .openBracket
  | .newElements u st t => u.reading * stackReading st * word .kwNew * name t * brackets 1
  | .semicolon n s => n.reading * unended s
  | .ret n => n.reading * word .kwReturn
  | .throw n => n.reading * word .kwThrow
  | .conditionOpen n bs => n.reading * Branches.opening bs * word .kwIf
  | .whileOpen n => n.reading * word .kwWhile
  | .forOpen n => n.reading * word .kwFor
  | .forInit n => n.reading * word .kwFor * sign .openParen
  | .forCondition n i => n.reading * word .kwFor * sign .openParen
      * Spelling.ofOption ofForInit i * sign .semicolon
  | .forStep n i c => n.reading * word .kwFor * sign .openParen
      * Spelling.ofOption ofForInit i * sign .semicolon * Spelling.ofOption ofExpr c
      * sign .semicolon
  | .forClose n i c s => n.reading * word .kwFor * sign .openParen
      * Spelling.ofOption ofForInit i * sign .semicolon * Spelling.ofOption ofExpr c
      * sign .semicolon * ofForStep s
  | .foreachOpen n => n.reading * word .kwForeach
  | .foreachType n => n.reading * word .kwForeach * sign .openParen
  | .foreachIn n t x => n.reading * word .kwForeach * sign .openParen * ofType t * name x
  | .blockOpen n r => n.reading * r.opening
  | .afterBranch n bs => n.reading * Branches.closed bs
  | .afterElse n bs => n.reading * Branches.closed bs * word .kwElse
  | .afterTry n b hs => n.reading * guarded b hs
  | .catchOpen n b hs => n.reading * guarded b hs * word .kwCatch
  | .catchType n b hs => n.reading * guarded b hs * word .kwCatch * sign .openParen
  | .catchName n b hs t => n.reading * guarded b hs * word .kwCatch * sign .openParen * name t
  | .catchClose n b hs f => n.reading * guarded b hs * word .kwCatch * sign .openParen
      * name f.type * Spelling.ofOption name f.name

/-! ## Growing parts -/

theorem ofModifiers_nil : ofModifiers [] = 1 := rfl

theorem ofModifiers_concat (ms : List Token) (t : Token) :
    ofModifiers (ms ++ [t]) = ofModifiers ms * kept Grammar.modifierKinds t := by
  simp [ofModifiers]

theorem MemberHead.ofMember_complete (h : MemberHead) (ps : List Param) (b : List Stmt) :
    ofMember (h.complete ps b) = h.reading * ofParams ps * braces (ofStmts b) := by
  cases h <;> rfl

theorem OpenClass.reading_add (c : OpenClass) (m : Member) :
    (c.add m).reading = c.reading * ofMember m := by
  simp [OpenClass.add, reading, mul_assoc]

theorem ofStmts_concat (ss : List Stmt) (s : Stmt) :
    ofStmts (ss ++ [s]) = ofStmts ss * ofStmt s := by
  simp [ofStmts_eq_prod]

theorem Nest.reading_add (n : Nest) (s : Stmt) : (n.add s).reading = n.reading * ofStmt s := by
  simp [Nest.add, reading, ofStmts_concat, mul_assoc]

theorem Nest.reading_open (n : Nest) (r : Role) :
    (n.open r).reading = n.reading * r.opening * sign .openBrace := by
  simp [Nest.open, reading, outerReading, ofStmts, mul_assoc]

/-! ## What fits together -/

/-- How tightly an operand must bind to what waits for it. -/
def least : List Pending → Nat
  | .unary _ :: _ => 7
  | .binary op _ :: _ => op.level + 1
  | _ => 0

/-- How tightly the expression binds that a waiting part becomes. -/
def Pending.level : Pending → Nat
  | .unary _ => 7
  | .binary op _ => op.level
  | .whenTrue _ | .whenFalse .. => 0
  | .index _ => 8
  | .group | .size _ | .listing .. => 9

/-- Whether what is called binds tightly enough. -/
def Listing.Fits : Listing → Prop
  | .call f => 8 ≤ f.level
  | _ => True

/-- Whether what stands in front of a waiting part binds tightly enough. -/
def Pending.Fits : Pending → Prop
  | .binary op l => op.level ≤ l.level
  | .whenTrue c | .whenFalse c _ => 1 ≤ c.level
  | .index e => 8 ≤ e.level
  | .listing l _ => l.Fits
  | _ => True

/-- Waiting parts fit, and none binds less tightly than the one it is an operand of. -/
def Stacked : List Pending → Prop
  | [] => True
  | p :: st => p.Fits ∧ least st ≤ p.level ∧ Stacked st

/-- What holds of every state that is reached. -/
def State.Fits : State → Prop
  | .usingName f _ => f.classes = []
  | .usingRest f ns => f.classes = [] ∧ ns ≠ []
  | .paramRest _ _ ps => ps ≠ []
  | .operand _ st | .newType _ st | .newRest _ st _ | .newBracket _ st _
  | .newElements _ st _ => Stacked st
  | .after _ st e | .memberOf _ st e => Stacked st ∧ 8 ≤ e.level
  | .listing _ st l => Stacked st ∧ l.Fits
  | _ => True

/-! ## One more token -/

/-- One more token leads from one set of token lists to another. -/
def Extends (t : Token) (l m : Language Token) : Prop := ∀ ts ∈ l, ts ++ [t] ∈ m

theorem Extends.fixed_le {t : Token} {k : Kind} {l m : Language Token} (ht : t.kind = k)
    (h : l * Spelling.fixed k ≤ m) : Extends t l m :=
  fun _ hts => h (Language.append_mem_mul hts (mem_fixed.mpr ⟨t, ht, rfl⟩))

theorem Extends.fixed {t : Token} {k : Kind} {l m : Language Token} (ht : t.kind = k)
    (h : l * Spelling.fixed k = m) : Extends t l m :=
  .fixed_le ht h.le

theorem Extends.kept {t : Token} {ks : List Kind} {l m : Language Token} (ht : t.kind ∈ ks)
    (h : l * Spelling.kept ks t = m) : Extends t l m :=
  fun _ hts => h ▸ Language.append_mem_mul hts (mem_kept.mpr ⟨ht, rfl⟩)

theorem Extends.name {t : Token} {l m : Language Token} (ht : t.kind = .name)
    (h : l * Spelling.name t = m) : Extends t l m :=
  .kept (List.mem_singleton.mpr ht) h

/-- A token leads from what was read in one state to what was read in another. -/
structure Reaches (t : Token) (l : Language Token) (s : State) : Prop where
  fits : s.Fits
  reads : Extends t l s.reading

/-- A token of a kind leads to a state. -/
theorem Reaches.of_fixed {t : Token} {k : Kind} {l : Language Token} {s s' : State}
    (ht : t.kind = k) (h : some s = some s') (hfits : s.Fits)
    (hl : l * Spelling.fixed k = s.reading) : Reaches t l s' := by
  cases h
  exact ⟨hfits, .fixed ht hl⟩

/-- A name leads to a state that keeps it. -/
theorem Reaches.of_name {t : Token} {l : Language Token} {s s' : State}
    (ht : t.kind = .name) (h : some s = some s') (hfits : s.Fits)
    (hl : l * Spelling.name t = s.reading) : Reaches t l s' := by
  cases h
  exact ⟨hfits, .name ht hl⟩

/-! ## Expressions -/

theorem stackReading_unary {op : UnaryOp} {st : List Pending} {e : Expr} (h : 7 ≤ e.level) :
    stackReading (.unary op :: st) * ofExpr e = stackReading st * ofExpr (.unary op e) := by
  rw [ofExpr, given_of h, stackReading, Pending.reading, one_mul, mul_assoc]

theorem stackReading_binary {op : BinaryOp} {l : Expr} {st : List Pending} {e : Expr}
    (hl : op.level ≤ l.level) (he : op.level < e.level) :
    stackReading (.binary op l :: st) * ofExpr e = stackReading st * ofExpr (.binary op l e) := by
  rw [ofExpr, given_of ⟨hl, he⟩, stackReading, Pending.reading, one_mul, mul_assoc]

theorem stackReading_whenFalse {c a : Expr} {st : List Pending} {e : Expr} (hc : 1 ≤ c.level) :
    stackReading (.whenFalse c a :: st) * ofExpr e = stackReading st * ofExpr (.choice c a e) := by
  rw [ofExpr, given_of hc, stackReading, Pending.reading, one_mul, mul_assoc]

/-- Completing operators changes nothing in what was read, and leaves an expression that binds
tightly enough for the operator that comes next. -/
theorem reduce_spec {level : Nat} {st : List Pending} {e : Expr} (hst : Stacked st)
    (hleast : least st ≤ e.level) (hlevel : level ≤ 6) (he : level ≤ e.level)
    (hone : 1 ≤ e.level) :
    Stacked (reduce level st e).1 ∧ least (reduce level st e).1 ≤ level
      ∧ level ≤ (reduce level st e).2.level ∧ 1 ≤ (reduce level st e).2.level
      ∧ stackReading (reduce level st e).1 * ofExpr (reduce level st e).2
        = stackReading st * ofExpr e := by
  fun_induction reduce level st e with
  | case1 op st e ih =>
    obtain ⟨-, hbelow, hst⟩ := hst
    rw [stackReading_unary hleast]
    exact ih hst hbelow (show level ≤ 7 by omega) (show 1 ≤ 7 by omega)
  | case2 op l st e hop ih =>
    obtain ⟨hl, hbelow, hst⟩ := hst
    rw [stackReading_binary hl hleast]
    exact ih hst hbelow hop op.one_le_level
  | case3 op l st e hop =>
    exact ⟨hst, show op.level + 1 ≤ level by omega, he, hone, rfl⟩
  | case4 st e hunary hbinary =>
    refine ⟨hst, ?_, he, hone, rfl⟩
    cases st with
    | nil => exact Nat.zero_le _
    | cons p st =>
      cases p with
      | unary op => exact absurd rfl (hunary op st)
      | binary op l => exact absurd rfl (hbinary op l st)
      | _ => exact Nat.zero_le _

/-- Completing all that can be completed changes nothing in what was read. -/
theorem settle_spec {st : List Pending} {e : Expr} (hst : Stacked st)
    (hleast : least st ≤ e.level) :
    Stacked (settle st e).1
      ∧ stackReading (settle st e).1 * ofExpr (settle st e).2 = stackReading st * ofExpr e := by
  fun_induction settle st e with
  | case1 op st e ih =>
    obtain ⟨-, hbelow, hst⟩ := hst
    rw [stackReading_unary hleast]
    exact ih hst hbelow
  | case2 op l st e ih =>
    obtain ⟨hl, hbelow, hst⟩ := hst
    rw [stackReading_binary hl hleast]
    exact ih hst hbelow
  | case3 c a st e ih =>
    obtain ⟨hc, hbelow, hst⟩ := hst
    rw [stackReading_whenFalse hc]
    exact ih hst hbelow
  | case4 st e => exact ⟨hst, rfl⟩

theorem least_le_seven (st : List Pending) : least st ≤ 7 := by
  fun_cases least st with
  | case1 op st => exact le_rfl
  | case2 op l st => exact Nat.succ_le_succ op.level_le_six
  | case3 st => exact Nat.zero_le _

/-- An operand that is one token. -/
theorem atom_spec {t : Token} {e : Expr} (h : atom? t = some e) : 8 ≤ e.level ∧ [t] ∈ ofExpr e := by
  unfold atom? at h
  split at h <;> rename_i hk <;> cases h
  case h_1 => exact ⟨Nat.le_succ 8, mem_kept.mpr ⟨by simp [hk], rfl⟩⟩
  case h_2 => exact ⟨Nat.le_succ 8, mem_kept.mpr ⟨by simp [hk], rfl⟩⟩
  case h_3 => exact ⟨Nat.le_succ 8, mem_kept.mpr ⟨by simp [hk], rfl⟩⟩
  case h_4 => exact ⟨Nat.le_succ 8, mem_kept.mpr ⟨by simp [hk], rfl⟩⟩
  case h_5 => exact ⟨Nat.le_succ 8, mem_fixed.mpr ⟨t, hk, rfl⟩⟩
  case h_6 => exact ⟨Nat.le_succ 8, mem_fixed.mpr ⟨t, hk, rfl⟩⟩
  case h_7 => exact ⟨Nat.le_succ 8, mem_fixed.mpr ⟨t, hk, rfl⟩⟩
  case h_8 => exact ⟨Nat.le_succ 8, mem_fixed.mpr ⟨t, hk, rfl⟩⟩

theorem unaryOp_spec {k : Kind} {op : UnaryOp} (h : unaryOp? k = some op) : k = .sign op.sign := by
  unfold unaryOp? at h
  split at h <;> cases h <;> rfl

theorem binaryOp_spec {k : Kind} {op : BinaryOp} (h : binaryOp? k = some op) :
    k = .sign op.sign := by
  unfold binaryOp? at h
  split at h <;> cases h <;> rfl

theorem assignOp_spec {k : Kind} {op : AssignOp} (h : assignOp? k = some op) :
    k = .sign op.sign := by
  unfold assignOp? at h
  split at h <;> cases h <;> rfl

theorem stepOp_spec {k : Kind} {op : StepOp} (h : stepOp? k = some op) : k = .sign op.sign := by
  unfold stepOp? at h
  split at h <;> cases h <;> rfl

theorem shiftOperand_reaches {u : Use} {st : List Pending} {t : Token} {s : State}
    (hst : Stacked st) (h : shiftOperand u st t = some s) :
    Reaches t (u.reading * stackReading st) s := by
  unfold shiftOperand at h
  split at h
  · rename_i e he
    cases h
    obtain ⟨hlevel, hread⟩ := atom_spec he
    exact ⟨⟨hst, hlevel⟩, fun ts hts => Language.append_mem_mul hts hread⟩
  · split at h
    · rename_i hk
      cases h
      exact ⟨⟨trivial, (least_le_seven st).trans (by decide), hst⟩, .fixed hk (mul_assoc _ _ _)⟩
    · rename_i hk
      cases h
      exact ⟨hst, .fixed hk rfl⟩
    · rename_i op hop _ _
      split at h
      · cases h
      · cases h
        exact ⟨⟨trivial, least_le_seven st, hst⟩, .fixed (unaryOp_spec hop) (mul_assoc _ _ _)⟩
    · cases h

/-- The first token of an expression on its own. -/
theorem shiftOperand_reaches_empty {u : Use} {l : Language Token} {t : Token} {s : State}
    (hl : u.reading = l) (h : shiftOperand u [] t = some s) : Reaches t l s := by
  have hoperand := shiftOperand_reaches (show Stacked [] from trivial) h
  rwa [stackReading, mul_one, hl] at hoperand

/-- The sign that ends an expression. -/
theorem Use.complete_reaches {u : Use} {e : Expr} {t : Token} {s : State}
    (ht : t.kind = .sign u.closer) (h : u.complete e = some s) :
    Reaches t (u.reading * ofExpr e) s := by
  cases u <;> cases h <;> refine ⟨trivial, .fixed ht ?_⟩
  case field =>
    rw [State.reading, OpenClass.reading_add, ofModifiers_nil]
    simp [ofMember, ofDeclaration, ofValue, Spelling.ofOption, reading, closer, Spelling.sign,
      mul_assoc]
  case declare | assign | statement | ret | throw =>
    rw [State.reading, Nest.reading_add]
    simp [ofStmt, ofDeclaration, ofValue, ofAssign, Spelling.ofOption, reading, closer,
      Spelling.sign, mul_assoc]
  case forDeclare | forAssign | forCondition =>
    simp [State.reading, ofForInit, ofDeclaration, ofValue, ofAssign, Spelling.ofOption, reading,
      closer, Spelling.sign, mul_assoc]
  case condition | whileCondition | items | forStep | stepAssign =>
    simp [State.reading, Role.opening, parens, ofForStep, ofAssign, Spelling.ofOption, reading,
      closer, Spelling.sign, mul_assoc]

theorem Use.assignTo_reading {u v : Use} {x : Target} {op : AssignOp}
    (h : u.assignTo x op = some v) : v.reading = u.reading * ofTarget x * sign op.sign := by
  cases u <;> cases h <;> rfl

theorem Use.stepOf_reaches {u : Use} {x : Target} {op : StepOp} {t : Token} {s : State}
    (ht : t.kind = .sign op.sign) (h : u.stepOf x op = some s) :
    Reaches t (u.reading * ofTarget x) s := by
  cases u <;> cases h <;> refine ⟨trivial, .fixed ht ?_⟩
  case statement => simp [State.reading, unended, ofStep, reading, Spelling.sign, mul_assoc]
  case forStep => simp [State.reading, ofForStep, ofStep, reading, Spelling.sign, mul_assoc]

/-- A target is spelled like the expression that it was. -/
theorem Expr.target_spec {e : Expr} {x : Target} (h : e.target? = some x) :
    ofTarget x = ofExpr e := by
  cases e <;> cases h <;> rfl

/-- The spelling of a complete listing. -/
theorem Listing.complete_spec {l : Listing} (hl : l.Fits) (es : List Expr) :
    8 ≤ (l.complete es).level
      ∧ ofExpr (l.complete es) = l.opening * listed (ofExprs es) * sign l.closer := by
  cases l with
  | call f =>
    refine ⟨le_rfl, ?_⟩
    rw [complete, ofExpr, given_of (show 8 ≤ f.level from hl)]
    simp [opening, closer, parens, mul_assoc]
  | object t =>
    refine ⟨Nat.le_succ 8, ?_⟩
    simp [complete, ofExpr, opening, closer, parens, mul_assoc]
  | elements t =>
    refine ⟨Nat.le_succ 8, ?_⟩
    simp [complete, ofExpr, opening, closer, braces, mul_assoc]

theorem listed_reverse (e : Expr) (es : List Expr) :
    listed (ofExprs (e :: es).reverse)
      = (es.reverse.map fun e => ofExpr e * sign .comma).prod * ofExpr e := by
  rw [ofExprs_eq_map, List.reverse_cons, List.map_append, List.map_singleton, listed,
    separated_append, List.map_map]
  rfl

/-- A closing sign behind a settled stack. -/
theorem shiftCloser_reaches {u : Use} {g : Sign} {st : List Pending} {e : Expr} {t : Token}
    {s : State} (hst : Stacked st) (ht : t.kind = .sign g)
    (h : shiftCloser u g (st, e) = some s) :
    Reaches t (u.reading * stackReading st * ofExpr e) s := by
  cases st with
  | nil =>
    simp only [shiftCloser] at h
    split at h
    · rename_i hg
      subst hg
      rw [stackReading, mul_one]
      exact Use.complete_reaches ht h
    · cases h
  | cons p st =>
    obtain ⟨hp, hleast, hst⟩ := hst
    cases p with
    | unary | binary | whenFalse => cases h
    | group =>
      simp only [shiftCloser] at h
      split at h <;> cases h
      rename_i hg
      subst hg
      refine ⟨⟨hst, Nat.le_succ 8⟩, .fixed ht ?_⟩
      simp [State.reading, stackReading, Pending.reading, ofExpr, parens, Spelling.sign, mul_assoc]
    | index x =>
      simp only [shiftCloser] at h
      split at h <;> cases h
      rename_i hg
      subst hg
      refine ⟨⟨hst, le_rfl⟩, .fixed ht ?_⟩
      rw [State.reading, ofExpr, given_of (show 8 ≤ x.level from hp)]
      simp [stackReading, Pending.reading, brackets, Spelling.sign, mul_assoc]
    | size ty =>
      simp only [shiftCloser] at h
      split at h <;> cases h
      rename_i hg
      subst hg
      refine ⟨⟨hst, Nat.le_succ 8⟩, .fixed ht ?_⟩
      simp [State.reading, stackReading, Pending.reading, ofExpr, brackets, Spelling.sign,
        mul_assoc]
    | listing l es =>
      simp only [shiftCloser] at h
      split at h
      · rename_i hg
        subst hg
        cases h
        refine ⟨⟨hp, hleast, hst⟩, .fixed ht ?_⟩
        simp [State.reading, stackReading, Pending.reading, Spelling.sign, mul_assoc]
      · split at h <;> cases h
        rename_i hg
        subst hg
        obtain ⟨hlevel, hspell⟩ := Listing.complete_spec hp (e :: es).reverse
        refine ⟨⟨hst, hlevel⟩, .fixed ht ?_⟩
        rw [State.reading, hspell, listed_reverse]
        simp [stackReading, Pending.reading, Spelling.sign, mul_assoc]
    | whenTrue c =>
      simp only [shiftCloser] at h
      split at h <;> cases h
      rename_i hg
      subst hg
      refine ⟨⟨hp, hleast, hst⟩, .fixed ht ?_⟩
      simp [State.reading, stackReading, Pending.reading, Spelling.sign, mul_assoc]

/-- A token behind an operand. -/
theorem shiftAfter_reaches {u : Use} {st : List Pending} {e : Expr} {t : Token} {s : State}
    (hst : Stacked st) (he : 8 ≤ e.level) (h : shiftAfter u st e t = some s) :
    Reaches t (u.reading * stackReading st * ofExpr e) s := by
  have hleast : least st ≤ e.level := (least_le_seven st).trans (by omega)
  unfold shiftAfter at h
  split at h
  · rename_i hk
    cases h
    exact ⟨⟨hst, he⟩, .fixed hk rfl⟩
  · rename_i hk
    cases h
    refine ⟨⟨hst, he⟩, .fixed hk ?_⟩
    simp [State.reading, Listing.opening, Spelling.sign, mul_assoc]
  · rename_i hk
    cases h
    refine ⟨⟨he, (least_le_seven st).trans (Nat.le_succ 7), hst⟩, .fixed hk ?_⟩
    simp [State.reading, stackReading, Pending.reading, Spelling.sign, mul_assoc]
  · rename_i hk
    split at h
    · cases h
    · cases h
      obtain ⟨h1, h2, h3, h4, h5⟩ := reduce_spec hst hleast (Nat.zero_le 6) (Nat.zero_le _)
        (show 1 ≤ e.level by omega)
      refine ⟨⟨h4, h2, h1⟩, .fixed hk ?_⟩
      rw [mul_assoc u.reading, ← h5]
      simp [State.reading, stackReading, Pending.reading, Spelling.sign, mul_assoc]
  · split at h
    · rename_i op hop
      split at h
      · cases h
      · cases h
        have hsix := op.level_le_six
        obtain ⟨h1, h2, h3, h4, h5⟩ := reduce_spec hst hleast hsix
          (show op.level ≤ e.level by omega) (show 1 ≤ e.level by omega)
        refine ⟨⟨h3, h2, h1⟩, .fixed (binaryOp_spec hop) ?_⟩
        rw [mul_assoc u.reading, ← h5]
        simp [State.reading, stackReading, Pending.reading, Spelling.sign, mul_assoc]
    -- behind a target the sign of an assignment or a step, otherwise a closing sign
    · split at h
      · rename_i op x hop hx
        obtain ⟨v, hv, rfl⟩ := Option.map_eq_some_iff.mp h
        refine ⟨hst, .fixed (assignOp_spec hop) ?_⟩
        rw [State.reading, Use.assignTo_reading hv, ← Expr.target_spec hx]
        simp [stackReading, Spelling.sign]
      · rename_i op x hop hx _
        rw [stackReading, mul_one, ← Expr.target_spec hx]
        exact Use.stepOf_reaches (stepOp_spec hop) h
      · rename_i g _ _ hk
        obtain ⟨hsettled, hread⟩ := settle_spec hst hleast
        rw [mul_assoc, ← hread, ← mul_assoc]
        exact shiftCloser_reaches hsettled hk h
      · cases h

/-! ## Statements -/

/-- The branches of a conditional and what follows them spell the whole conditional. -/
theorem Branches.closed_mul : ∀ (bs : Branches) (r : Else),
    Branches.closed bs * ofElse r = (Branches.complete bs r).elim 0 ofStmt
  | [], r => zero_mul _
  | [(c, b)], r => by
    rw [Branches.closed, Branches.opening, one_mul]
    rfl
  | (c, b) :: x :: bs, r => by
    have hrest := Branches.closed_mul (x :: bs) (.elseIf c b r)
    rw [show Branches.complete ((c, b) :: x :: bs) r = Branches.complete (x :: bs) (.elseIf c b r)
      from rfl, ← hrest]
    simp [Branches.closed, Branches.opening, ofElse, mul_assoc]

theorem Nest.close_reaches {n : Nest} {t : Token} (ht : t.kind = .sign .closeBrace) :
    Reaches t n.reading n.close := by
  obtain ⟨cls, head, params, done, outer⟩ := n
  cases outer with
  | nil =>
    refine ⟨trivial, .fixed ht ?_⟩
    rw [close, State.reading, OpenClass.reading_add, MemberHead.ofMember_complete]
    simp [reading, outerReading, braces, ofModifiers_nil, Spelling.sign, mul_assoc]
  | cons x outer =>
    obtain ⟨r, before⟩ := x
    -- the inner block lies behind what was read before its opening brace
    have hblock : reading ⟨cls, head, params, done, (r, before) :: outer⟩
        * Spelling.fixed (.sign .closeBrace)
        = reading ⟨cls, head, params, before, outer⟩
          * (r.opening * braces (ofStmts done.reverse)) := by
      simp [reading, outerReading, braces, Spelling.sign, mul_assoc]
    cases r with
    | plain =>
      refine ⟨trivial, .fixed ht (hblock.trans ?_)⟩
      simp [close, State.reading, reading_add, ofStmt, Role.opening]
    | branch bs c =>
      refine ⟨trivial, .fixed ht (hblock.trans ?_)⟩
      simp [close, State.reading, Branches.closed, Role.opening, mul_assoc]
    | otherwise bs =>
      have hbs := Branches.closed_mul bs (.block done.reverse)
      rw [ofElse] at hbs
      -- without branches nothing was read, so that this cannot happen
      rw [Role.opening, mul_assoc, hbs] at hblock
      cases hs : Branches.complete bs (.block done.reverse) with
      | none =>
        rw [hs, Option.elim, mul_zero] at hblock
        simp only [close, hs]
        exact ⟨trivial, .fixed_le ht (hblock ▸ bot_le)⟩
      | some s =>
        rw [hs, Option.elim] at hblock
        simp only [close, hs]
        exact ⟨trivial, .fixed ht (hblock.trans (reading_add _ s).symm)⟩
    | whileBody c =>
      refine ⟨trivial, .fixed ht (hblock.trans ?_)⟩
      simp [close, State.reading, reading_add, ofStmt, Role.opening, mul_assoc]
    | forBody i c s =>
      refine ⟨trivial, .fixed ht (hblock.trans ?_)⟩
      simp [close, State.reading, reading_add, ofStmt, Role.opening, mul_assoc]
    | foreachBody ty x e =>
      refine ⟨trivial, .fixed ht (hblock.trans ?_)⟩
      simp [close, State.reading, reading_add, ofStmt, Role.opening, mul_assoc]
    | tryBody =>
      refine ⟨trivial, .fixed ht (hblock.trans ?_)⟩
      simp [close, State.reading, guarded, ofHandlers, Role.opening]
    | catchBody b hs f =>
      refine ⟨trivial, .fixed ht (hblock.trans ?_)⟩
      simp [close, State.reading, guarded, ofHandlers_eq_prod, ofHandler, Role.opening, mul_assoc]
    | finallyBody b hs =>
      refine ⟨trivial, .fixed ht (hblock.trans ?_)⟩
      simp [close, State.reading, reading_add, guarded, ofStmt, Role.opening, mul_assoc]

theorem shiftStatement_reaches {n : Nest} {t : Token} {s : State}
    (h : shiftStatement n t = some s) : Reaches t n.reading s := by
  unfold shiftStatement at h
  split at h <;> rename_i hk
  · exact .of_name hk h trivial rfl
  · refine .of_fixed hk h trivial ?_
    simp [State.reading, Nest.reading_open, Role.opening, Spelling.sign]
  · cases h
    exact Nest.close_reaches hk
  · refine .of_fixed hk h trivial ?_
    simp [State.reading, Branches.opening, Spelling.word]
  · exact .of_fixed hk h trivial rfl
  · exact .of_fixed hk h trivial rfl
  · exact .of_fixed hk h trivial rfl
  · exact .of_fixed hk h trivial rfl
  · exact .of_fixed hk h trivial rfl
  · exact .of_fixed hk h trivial rfl
  · exact .of_fixed hk h trivial rfl
  · exact .of_fixed hk h trivial rfl
  · exact shiftOperand_reaches_empty rfl h

theorem TypeUse.named_reaches (u : TypeUse) {ty : TypeRef} {t : Token} (ht : t.kind = .name) :
    Reaches t (u.reading * ofType ty) (u.named ty t) := by
  cases u with
  | param c h ps =>
    refine ⟨List.cons_ne_nil _ _, .name ht ?_⟩
    rw [named, State.reading, List.reverse_cons, List.map_append, List.map_singleton, listed,
      separated_append, List.map_map]
    simp [reading, ofParam, Function.comp_def, mul_assoc]
  | _ => exact ⟨trivial, .name ht rfl⟩

theorem Start.use_reading (s : Start) : s.use.reading = s.reading := by cases s <;> rfl

theorem Start.typeUse_reading (s : Start) : s.typeUse.reading = s.reading := by cases s <;> rfl

theorem ofType_zero (n : Token) : ofType ⟨n, 0⟩ = name n := by simp [ofType]

theorem ofType_succ (n : Token) (r : Nat) :
    ofType ⟨n, r + 1⟩ = ofType ⟨n, r⟩ * sign .openBracket * sign .closeBracket := by
  simp [ofType, pow_succ, brackets, mul_assoc]

theorem mem_modifierKinds {k : Kind} (h : isModifier k = true) : k ∈ Grammar.modifierKinds := by
  unfold isModifier at h
  split at h <;> simp_all [Grammar.modifierKinds]

theorem ofQualified_concat (ns : List Token) (t : Token) :
    ofQualified (ns ++ [t]) = (ns.map fun n => name n * sign .dot).prod * name t := by
  rw [ofQualified, given_of (by simp), one_mul, List.map_append, List.map_singleton,
    separated_append, List.map_map]
  rfl

theorem ofQualified_mul {ns : List Token} (h : ns ≠ []) :
    ofQualified ns * sign .dot = (ns.map fun n => name n * sign .dot).prod := by
  rw [ofQualified, given_of h, one_mul, separated_mul (by simpa using h), List.map_map]
  rfl

theorem listed_mul {ps : List Param} (h : ps ≠ []) :
    listed (ps.reverse.map ofParam) * sign .comma
      = (ps.reverse.map fun p => ofParam p * sign .comma).prod := by
  rw [listed, separated_mul (by simpa using h), List.map_map]
  rfl

theorem ofModifiers_step (l : Language Token) (ms : List Token) (t : Token) :
    l * ofModifiers ms * kept Grammar.modifierKinds t = l * ofModifiers (ms ++ [t]) := by
  rw [ofModifiers_concat, mul_assoc]

theorem unended_mul_le (s : Stmt) : unended s * sign .semicolon ≤ ofStmt s := by
  cases s with
  | step | brk | cont => exact le_rfl
  | _ => exact (zero_mul (sign .semicolon)).le.trans bot_le

theorem Branches.closed_mul_else_le (bs : Branches) :
    Branches.closed bs * word .kwElse ≤ Branches.opening bs := by
  cases bs with
  | nil => exact (zero_mul (word .kwElse)).le.trans bot_le
  | cons x bs => exact le_rfl

/-! ## One step -/

/-- Every token that is shifted leads from what was read to what is read then. -/
theorem State.shift_reaches {s s' : State} {t : Token} (hs : s.Fits) (h : s.shift t = some s') :
    Reaches t s.reading s' := by
  revert hs h
  fun_cases shift s t <;> intro hs h
  -- no file goes on that way
  case case2 | case5 | case17 | case67 | case86 => cases h
  -- a fixed token, behind what was read before
  case case3 hk | case10 hk | case21 hk | case35 hk | case48 hk | case57 hk | case61 hk |
    case65 hk | case69 hk => exact .of_fixed hk h trivial rfl
  -- a name that is kept behind it
  case case9 hk | case15 hk | case50 hk | case71 hk => exact .of_name hk h trivial rfl
  -- an expression that could have been missing
  case case43 | case45 | case51 | case53 | case55 => exact shiftOperand_reaches_empty rfl h
  -- files and classes
  case case1 f hk hf =>
    refine .of_fixed hk h (List.isEmpty_iff.mp hf) ?_
    simp [reading, ofModifiers_nil, Spelling.word]
  case case4 f ms _ _ hk =>
    cases h
    exact ⟨trivial, .kept (mem_modifierKinds hk) (ofModifiers_step _ ms t)⟩
  case case6 f ns hk =>
    refine .of_name hk h ⟨hs, by simp⟩ ?_
    rw [reading, reading, ofQualified_concat, mul_assoc]
  case case7 f ns hk =>
    refine .of_fixed hk h hs.1 ?_
    rw [reading, reading, ← ofQualified_mul hs.2, mul_assoc]
    rfl
  case case8 f ns hk =>
    refine .of_fixed hk h trivial ?_
    simp [reading, OpenFile.reading, hs.1, ofModifiers_nil, ofUsing, Spelling.sign, mul_assoc]
  case case11 f ms n hk =>
    refine .of_fixed hk h trivial ?_
    simp [reading, OpenClass.reading, ofHead, ofModifiers_nil, Spelling.ofOption, Spelling.sign,
      mul_assoc]
  case case12 f ms n hk =>
    refine .of_name hk h trivial ?_
    simp [reading, ofHead, Spelling.ofOption, mul_assoc]
  case case13 f hd hk =>
    refine .of_fixed hk h trivial ?_
    simp [reading, OpenClass.reading, ofModifiers_nil, Spelling.sign, mul_assoc]
  -- members
  case case14 cls hk =>
    refine .of_fixed hk h trivial ?_
    simp [reading, OpenClass.reading, OpenFile.reading, ofClass, braces, ofModifiers_nil,
      Spelling.sign, mul_assoc]
  case case16 cls ms _ _ hk =>
    cases h
    exact ⟨trivial, .kept (mem_modifierKinds hk) (ofModifiers_step _ ms t)⟩
  case case18 cls ms n hk =>
    refine .of_fixed hk h trivial ?_
    simp [reading, MemberHead.reading, Spelling.sign, mul_assoc]
  case case19 cls ms n hk =>
    refine .of_fixed hk h trivial ?_
    simp [reading, TypeUse.reading, ofType_zero, Spelling.sign]
  case case20 cls ms n hk =>
    refine .of_name hk h trivial ?_
    simp [reading, ofType_zero]
  case case22 u ty hk =>
    cases h
    exact u.named_reaches hk
  case case23 u ty hk =>
    refine .of_fixed hk h trivial ?_
    simp [reading, ofType_succ, Spelling.sign, mul_assoc]
  case case24 cls ms ty n hk =>
    refine .of_fixed hk h trivial ?_
    simp [reading, MemberHead.reading, Spelling.sign, mul_assoc]
  case case25 cls ms ty n hk =>
    refine .of_fixed hk h trivial ?_
    simp [reading, Use.reading, stackReading, Spelling.sign]
  case case26 cls ms ty n hk =>
    refine .of_fixed hk h trivial ?_
    simp [reading, OpenClass.reading_add, ofMember, ofDeclaration, ofValue, Spelling.ofOption,
      ofModifiers_nil, Spelling.sign, mul_assoc]
  case case27 cls hd hk =>
    refine .of_fixed hk h trivial ?_
    simp [reading, ofParams, parens, listed, separated, Spelling.sign, mul_assoc]
  case case28 cls hd hk =>
    refine .of_name hk h trivial ?_
    simp [reading, TypeUse.reading, ofType_zero]
  case case29 cls hd ps hk =>
    refine .of_name hk h trivial ?_
    simp [reading, TypeUse.reading, ofType_zero]
  case case30 cls hd ps hk =>
    refine .of_fixed hk h trivial ?_
    rw [reading, reading, ← listed_mul hs, mul_assoc]
    rfl
  case case31 cls hd ps hk =>
    refine .of_fixed hk h trivial ?_
    simp [reading, ofParams, parens, Spelling.sign, mul_assoc]
  case case32 cls hd ps hk =>
    refine .of_fixed hk h trivial ?_
    simp [reading, Nest.reading, outerReading, ofStmts, Spelling.sign, mul_assoc]
  -- statements
  case case33 n =>
    exact shiftStatement_reaches h
  case case34 st n hk =>
    -- a name makes the first one a type
    cases h
    rw [reading, ← ofType_zero, ← st.typeUse_reading]
    exact st.typeUse.named_reaches hk
  case case36 st n _ _ =>
    -- anything else makes it an operand
    have hstack : Stacked [] := trivial
    have hafter := shiftAfter_reaches (e := .name n) hstack (Nat.le_succ 8) h
    rwa [stackReading, mul_one, st.use_reading] at hafter
  case case37 st n hk =>
    -- an empty pair of brackets makes the first name a type
    refine .of_fixed hk h trivial ?_
    rw [reading, reading, st.typeUse_reading, ofType_succ, ofType_zero, mul_assoc, mul_assoc,
      mul_assoc]
    rfl
  case case38 st n _ =>
    -- anything else makes it an indexed operand
    have hstack : Stacked [.index (.name n)] := ⟨Nat.le_succ 8, Nat.zero_le _, trivial⟩
    have hoperand := shiftOperand_reaches hstack h
    rwa [st.use_reading, stackReading, stackReading, one_mul, Pending.reading, ofExpr,
      ← mul_assoc] at hoperand
  case case39 st ty x hk =>
    cases st
    · refine .of_fixed hk h trivial ?_
      simp [reading, Start.reading, Start.valueUse, Use.reading, stackReading, Spelling.sign]
    · refine .of_fixed hk h trivial ?_
      simp [reading, Start.reading, Start.valueUse, Use.reading, stackReading, Spelling.sign]
  case case40 st ty x hk =>
    cases st
    · refine .of_fixed hk h trivial ?_
      simp [reading, Start.reading, Start.declareOnly, Nest.reading_add, ofStmt, ofDeclaration,
        ofValue, Spelling.ofOption, Spelling.sign, mul_assoc]
    · refine .of_fixed hk h trivial ?_
      simp [reading, Start.reading, Start.declareOnly, ofForInit, ofDeclaration, ofValue,
        Spelling.ofOption, Spelling.sign, mul_assoc]
  case case41 n st hk =>
    cases h
    refine ⟨trivial, .fixed_le hk ?_⟩
    rw [reading, reading, Nest.reading_add, mul_assoc]
    exact mul_le_mul_right (unended_mul_le st) _
  case case42 n hk =>
    refine .of_fixed hk h trivial ?_
    simp [reading, Nest.reading_add, ofStmt, Spelling.ofOption, Spelling.sign, mul_assoc]
  case case44 n hk =>
    refine .of_fixed hk h trivial ?_
    simp [reading, Nest.reading_add, ofStmt, Spelling.ofOption, Spelling.sign, mul_assoc]
  case case46 n bs hk =>
    refine .of_fixed hk h trivial ?_
    simp [reading, Use.reading, stackReading, Spelling.sign]
  case case47 n hk =>
    refine .of_fixed hk h trivial ?_
    simp [reading, Use.reading, stackReading, Spelling.sign]
  case case49 n hk =>
    refine .of_fixed hk h trivial ?_
    simp [reading, Spelling.ofOption, Spelling.sign]
  case case52 n i hk =>
    refine .of_fixed hk h trivial ?_
    simp [reading, Spelling.ofOption, Spelling.sign]
  case case54 n i c hk =>
    refine .of_fixed hk h trivial ?_
    simp [reading, Role.opening, parens, Spelling.ofOption, Spelling.sign, mul_assoc]
  case case56 n i c st hk =>
    refine .of_fixed hk h trivial ?_
    simp [reading, Role.opening, parens, Spelling.ofOption, Spelling.sign, mul_assoc]
  case case58 n hk =>
    refine .of_name hk h trivial ?_
    simp [reading, TypeUse.reading, ofType_zero]
  case case59 n ty x hk =>
    refine .of_fixed hk h trivial ?_
    simp [reading, Use.reading, stackReading, Spelling.word]
  case case60 n r hk =>
    refine .of_fixed hk h trivial ?_
    simp [reading, Nest.reading_open, Spelling.sign]
  case case62 n bs _ =>
    -- the conditional ends before the token
    obtain ⟨st, hst, hshift⟩ := Option.bind_eq_some_iff.mp h
    have hbs := Branches.closed_mul bs .none
    rw [hst, ofElse, mul_one] at hbs
    have hstatement := shiftStatement_reaches hshift
    rwa [Nest.reading_add, ← show Branches.closed bs = ofStmt st from hbs] at hstatement
  case case63 n bs hk =>
    refine .of_fixed hk h trivial ?_
    simp [reading, Nest.reading_open, Role.opening, Spelling.sign, mul_assoc]
  case case64 n bs hk =>
    -- the next branch of the same conditional
    cases h
    refine ⟨trivial, .fixed_le hk (mul_le_mul_left ?_ _)⟩
    rw [reading, mul_assoc]
    exact mul_le_mul_right (Branches.closed_mul_else_le bs) _
  case case66 n b hds hk =>
    refine .of_fixed hk h trivial ?_
    simp [reading, Role.opening, Spelling.word, mul_assoc]
  case case68 n b hd hds _ _ =>
    -- the guarded statement ends before the token
    have hstatement := shiftStatement_reaches h
    rwa [Nest.reading_add, ofStmt, given_of (List.cons_ne_nil hd hds), one_mul] at hstatement
  case case70 n b hds hk =>
    refine .of_fixed hk h trivial ?_
    simp [reading, Nest.reading_open, Role.opening, Spelling.ofOption, Spelling.sign, mul_assoc]
  case case72 n b hds ty hk =>
    refine .of_name hk h trivial ?_
    simp [reading, Spelling.ofOption]
  case case73 n b hds ty hk =>
    refine .of_fixed hk h trivial ?_
    simp [reading, Role.opening, ofFilter, parens, Spelling.ofOption, Spelling.sign, mul_assoc]
  case case74 n b hds f hk =>
    refine .of_fixed hk h trivial ?_
    simp [reading, Role.opening, ofFilter, parens, Spelling.ofOption, Spelling.sign, mul_assoc]
  -- expressions
  case case75 u st =>
    exact shiftOperand_reaches hs h
  case case76 u st e =>
    exact shiftAfter_reaches hs.1 hs.2 h
  case case77 u st e hk =>
    refine .of_name hk h ⟨hs.1, le_rfl⟩ ?_
    rw [reading, reading, ofExpr, given_of hs.2]
    simp [mul_assoc]
  case case78 u st l hk =>
    obtain ⟨hlevel, hspell⟩ := Listing.complete_spec hs.2 []
    refine .of_fixed hk h ⟨hs.1, hlevel⟩ ?_
    rw [reading, reading, hspell, ofExprs, listed, separated, mul_one, mul_assoc]
    rfl
  case case79 u st l _ =>
    have hleast := (least_le_seven st).trans (show 7 ≤ 9 by decide)
    have hstack : Stacked (.listing l [] :: st) := ⟨hs.2, hleast, hs.1⟩
    have hoperand := shiftOperand_reaches hstack h
    rw [stackReading, Pending.reading] at hoperand
    simpa [reading, mul_assoc] using hoperand
  case case80 u st hk =>
    exact .of_name hk h hs rfl
  case case81 u st ty hk =>
    refine .of_fixed hk h ⟨hs, trivial⟩ ?_
    simp [reading, Listing.opening, Spelling.sign, mul_assoc]
  case case82 u st ty hk =>
    exact .of_fixed hk h hs rfl
  case case83 u st ty hk =>
    refine .of_fixed hk h hs ?_
    simp [reading, brackets, Spelling.sign, mul_assoc]
  case case84 u st ty _ =>
    have hleast := (least_le_seven st).trans (show 7 ≤ 9 by decide)
    have hstack : Stacked (.size ty :: st) := ⟨trivial, hleast, hs⟩
    have hoperand := shiftOperand_reaches hstack h
    rw [stackReading, Pending.reading] at hoperand
    simpa [reading, mul_assoc] using hoperand
  case case85 u st ty hk =>
    refine .of_fixed hk h ⟨hs, trivial⟩ ?_
    simp [reading, Listing.opening, Spelling.sign, mul_assoc]

/-! ## Whole runs -/

/-- What is shifted is read behind what was read before. -/
theorem State.shifts_reads {ts us : List Token} {s s' : State} (hs : s.Fits)
    (hread : us ∈ s.reading) (h : s.shifts ts = .ok s') : s'.Fits ∧ us ++ ts ∈ s'.reading := by
  induction ts generalizing s us with
  | nil =>
    cases h
    rw [List.append_nil]
    exact ⟨hs, hread⟩
  | cons t ts ih =>
    rw [shifts] at h
    cases hshift : s.shift t with
    | none =>
      rw [hshift] at h
      cases h
    | some v =>
      rw [hshift] at h
      have hstep := shift_reaches hs hshift
      have hrest := ih hstep.fits (hstep.reads us hread) h
      rwa [List.append_assoc] at hrest

/-- A file that is accepted was spelled. -/
theorem mem_ofFile_of_shifts {ts : List Token} {s : State} {f : SourceFile}
    (h : State.initial.shifts ts = .ok s) (hf : s.finish = some f) : ts ∈ ofFile f := by
  have hstart : [] ∈ State.initial.reading := by
    simp [State.initial, State.reading, OpenFile.reading, ofModifiers_nil]
  have hread := (State.shifts_reads (s := .initial) trivial hstart h).2
  cases s with
  | file g ms =>
    cases ms with
    | nil =>
      cases hf
      rw [State.reading, ofModifiers_nil, mul_one] at hread
      exact hread
    | cons => cases hf
  | _ => cases hf

end BraceScript.Syntax
