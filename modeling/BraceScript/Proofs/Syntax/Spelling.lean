import BraceScript.Proofs.Syntax.Grammar
import BraceScript.Syntax.Tree
import Mathlib

/-!
# How trees are written

A syntax tree can be written in as many ways as there are tokens of the kinds that it leaves out.
`ofFile` is the set of all these ways, and likewise for every part of a tree. An expression can
only be written where its operands bind tightly enough (`Expr.level`); what cannot be written has
no spelling. `Expr.byOperands` and `Stmt.byParts` are the inductions over trees.
-/

namespace BraceScript.Syntax

/-! ## Operators -/

/-- The sign of a binary operator. -/
def BinaryOp.sign : BinaryOp → Sign
  | .or => .orElse
  | .and => .andAlso
  | .eq => .equal
  | .ne => .unequal
  | .lt => .less
  | .le => .atMost
  | .gt => .greater
  | .ge => .atLeast
  | .add => .plus
  | .sub => .minus
  | .mul => .times
  | .div => .over
  | .mod => .mod

/-- The sign of a unary operator. -/
def UnaryOp.sign : UnaryOp → Sign
  | .not => .bang
  | .neg => .minus

/-- The sign of an assignment. -/
def AssignOp.sign : AssignOp → Sign
  | .set => .assign
  | .add => .plusAssign
  | .sub => .minusAssign
  | .mul => .timesAssign
  | .div => .overAssign
  | .mod => .modAssign

/-- The sign of a step. -/
def StepOp.sign : StepOp → Sign
  | .increment => .increment
  | .decrement => .decrement

/-- How tightly the parts of an expression hold together: choices least, then the binary operators
by their levels, unary operators, what stands behind an operand, and single operands most. -/
def Expr.level : Expr → Nat
  | .choice .. => 0
  | .binary op .. => op.level
  | .unary .. => 7
  | .member .. | .call .. | .index .. => 8
  | _ => 9

theorem BinaryOp.one_le_level (op : BinaryOp) : 1 ≤ op.level := by cases op <;> decide

theorem BinaryOp.level_le_six (op : BinaryOp) : op.level ≤ 6 := by cases op <;> decide

/-! ## Induction over trees -/

/-- The operands of an expression. -/
def Expr.operands : Expr → List Expr
  | .group e | .member e _ | .unary _ e | .newArray _ e => [e]
  | .index l r | .binary _ l r => [l, r]
  | .choice c a b => [c, a, b]
  | .call f as => f :: as
  | .newObject _ as | .elements _ as => as
  | _ => []

theorem Expr.sizeOf_lt_of_mem_operands {e o : Expr} (h : o ∈ e.operands) :
    sizeOf o < sizeOf e := by
  have hlist : ∀ {es : List Expr}, o ∈ es → sizeOf o < sizeOf es := List.sizeOf_lt_of_mem
  cases e <;> simp only [operands, List.mem_cons, List.not_mem_nil, or_false] at h
  case group | member | unary | newArray => subst h; simp +arith
  case index | binary => rcases h with rfl | rfl <;> simp +arith
  case choice => rcases h with rfl | rfl | rfl <;> simp +arith
  case call =>
    rcases h with rfl | h
    · simp +arith
    · have := hlist h
      simp only [call.sizeOf_spec]
      omega
  case newObject | elements =>
    have := hlist h
    simp +arith
    omega

/-- What an expression has when its operands have it holds of all expressions. -/
theorem Expr.byOperands {P : Expr → Prop} (h : ∀ e, (∀ o ∈ e.operands, P o) → P e) (e : Expr) :
    P e :=
  h e fun o _ => Expr.byOperands h o
termination_by sizeOf e
decreasing_by exact Expr.sizeOf_lt_of_mem_operands ‹_›

mutual

/-- The statements in the blocks of a statement. -/
def Stmt.parts : Stmt → List Stmt
  | .ite _ b r => b ++ r.parts
  | .while _ b | .for _ _ _ b | .foreach _ _ _ b | .block b => b
  | .attempt b hs f => b ++ (Handler.parts hs ++ f.getD [])
  | _ => []

/-- The statements in the blocks of the rest of a conditional. -/
def Else.parts : Else → List Stmt
  | .none => []
  | .block b => b
  | .elseIf _ b r => b ++ r.parts

/-- The statements in the blocks of handlers. -/
def Handler.parts : List Handler → List Stmt
  | [] => []
  | .mk _ b :: hs => b ++ Handler.parts hs

end

theorem Else.sizeOf_lt_of_mem_parts {p : Stmt} : ∀ {r : Else}, p ∈ r.parts → sizeOf p < sizeOf r
  | .none, h => by simp [parts] at h
  | .block b, h => by
    have := List.sizeOf_lt_of_mem (show p ∈ b from h)
    simp only [block.sizeOf_spec]
    omega
  | .elseIf c b r, h => by
    simp only [elseIf.sizeOf_spec]
    rcases List.mem_append.mp h with h | h
    · have := List.sizeOf_lt_of_mem h
      omega
    · have := Else.sizeOf_lt_of_mem_parts h
      omega

theorem Handler.sizeOf_lt_of_mem_parts {p : Stmt} {hs : List Handler}
    (h : p ∈ Handler.parts hs) : sizeOf p < sizeOf hs := by
  induction hs with
  | nil => simp [parts] at h
  | cons x hs ih =>
    obtain ⟨f, b⟩ := x
    simp only [List.cons.sizeOf_spec, mk.sizeOf_spec]
    rcases List.mem_append.mp h with h | h
    · have := List.sizeOf_lt_of_mem h
      omega
    · have := ih h
      omega

theorem Stmt.sizeOf_lt_of_mem_parts {s p : Stmt} (h : p ∈ s.parts) : sizeOf p < sizeOf s := by
  have hlist : ∀ {ss : List Stmt}, p ∈ ss → sizeOf p < sizeOf ss := List.sizeOf_lt_of_mem
  cases s <;> simp only [parts, List.not_mem_nil, List.mem_append] at h
  case ite =>
    simp only [ite.sizeOf_spec]
    rcases h with h | h
    · have := hlist h
      omega
    · have := Else.sizeOf_lt_of_mem_parts h
      omega
  case «while» | «for» | foreach | block =>
    have := hlist h
    simp +arith
    omega
  case attempt b hs f =>
    simp only [attempt.sizeOf_spec]
    rcases h with h | h | h
    · have := hlist h
      omega
    · have := Handler.sizeOf_lt_of_mem_parts h
      omega
    · cases f with
      | none => simp at h
      | some f =>
        have := hlist (show p ∈ f from h)
        simp only [Option.some.sizeOf_spec]
        omega

/-- What a statement has when the statements in its blocks have it holds of all statements. -/
theorem Stmt.byParts {P : Stmt → Prop} (h : ∀ s, (∀ p ∈ s.parts, P p) → P s) (s : Stmt) : P s :=
  h s fun p _ => Stmt.byParts h p
termination_by sizeOf s
decreasing_by exact Stmt.sizeOf_lt_of_mem_parts ‹_›

namespace Spelling

open Grammar (modifierKinds)

/-! ## Tokens -/

/-- One token of a kind. -/
def fixed (k : Kind) : Language Token := {ts | ∃ t, t.kind = k ∧ ts = [t]}

/-- A keyword. -/
def word (k : Keyword) : Language Token := fixed (.word k)

/-- A sign. -/
def sign (s : Sign) : Language Token := fixed (.sign s)

/-- A token that is kept, of one of several kinds. -/
def kept (ks : List Kind) (t : Token) : Language Token := {ts | t.kind ∈ ks ∧ ts = [t]}

/-- A name. -/
def name (t : Token) : Language Token := kept [.name] t

/-- No token, on a condition. -/
def given (p : Prop) : Language Token := {ts | p ∧ ts = []}

/-- Spellings with a separator between them. -/
def separated (s : Language Token) : List (Language Token) → Language Token
  | [] => 1
  | [l] => l
  | l :: m :: ls => l * s * separated s (m :: ls)

/-- A list with commas. -/
def listed (ls : List (Language Token)) : Language Token := separated (sign .comma) ls

/-- What stands in parentheses. -/
def parens (l : Language Token) : Language Token := sign .openParen * l * sign .closeParen

/-- What stands in brackets. -/
def brackets (l : Language Token) : Language Token := sign .openBracket * l * sign .closeBracket

/-- What stands in braces. -/
def braces (l : Language Token) : Language Token := sign .openBrace * l * sign .closeBrace

/-- An optional part. -/
def ofOption {α : Type} (f : α → Language Token) : Option α → Language Token
  | none => 1
  | some a => f a

/-! ## Expressions -/

mutual

/-- The spellings of an expression. -/
def ofExpr : Expr → Language Token
  | .number t => kept [.number] t
  | .string t => kept [.string] t
  | .char t => kept [.char] t
  | .true => word .kwTrue
  | .false => word .kwFalse
  | .null => word .kwNull
  | .this => word .kwThis
  | .name t => name t
  | .group e => parens (ofExpr e)
  | .member e n => given (8 ≤ e.level) * ofExpr e * sign .dot * name n
  | .call f as => given (8 ≤ f.level) * ofExpr f * parens (listed (ofExprs as))
  | .index e i => given (8 ≤ e.level) * ofExpr e * brackets (ofExpr i)
  | .unary op e => given (7 ≤ e.level) * sign op.sign * ofExpr e
  | .binary op l r =>
    given (op.level ≤ l.level ∧ op.level < r.level) * ofExpr l * sign op.sign * ofExpr r
  | .choice c a b =>
    given (1 ≤ c.level) * ofExpr c * sign .question * ofExpr a * sign .colon * ofExpr b
  | .newObject t as => word .kwNew * name t * parens (listed (ofExprs as))
  | .newArray t e => word .kwNew * name t * brackets (ofExpr e)
  | .elements t as => word .kwNew * name t * brackets 1 * braces (listed (ofExprs as))

/-- The spellings of several expressions, one by one. -/
def ofExprs : List Expr → List (Language Token)
  | [] => []
  | e :: es => ofExpr e :: ofExprs es

end

theorem ofExprs_eq_map (es : List Expr) : ofExprs es = es.map ofExpr := by
  induction es with
  | nil => rfl
  | cons e es ih => rw [ofExprs, ih, List.map_cons]

/-! ## Statements -/

/-- The spellings of a type. -/
def ofType (t : TypeRef) : Language Token := name t.name * brackets 1 ^ t.rank

/-- The spellings of the value of a variable. -/
def ofValue : Option Expr → Language Token := ofOption fun e => sign .assign * ofExpr e

/-- The spellings of a declaration. -/
def ofDeclaration (d : Declaration) : Language Token :=
  ofType d.type * name d.name * ofValue d.value

/-- The spellings of a target. -/
def ofTarget : Target → Language Token
  | .name t => name t
  | .member e n => given (8 ≤ e.level) * ofExpr e * sign .dot * name n
  | .index e i => given (8 ≤ e.level) * ofExpr e * brackets (ofExpr i)

/-- The spellings of an assignment. -/
def ofAssign (t : Target) (op : AssignOp) (e : Expr) : Language Token :=
  ofTarget t * sign op.sign * ofExpr e

/-- The spellings of a step by one. -/
def ofStep (t : Target) (op : StepOp) : Language Token := ofTarget t * sign op.sign

/-- The spellings of the first part of a `for` head. -/
def ofForInit : ForInit → Language Token
  | .declare d => ofDeclaration d
  | .assign t op e => ofAssign t op e

/-- The spellings of the last part of a `for` head. -/
def ofForStep : ForStep → Language Token
  | .assign t op e => ofAssign t op e
  | .step t op => ofStep t op
  | .expr e => ofExpr e

/-- The spellings of a filter. -/
def ofFilter (f : CatchFilter) : Language Token := parens (name f.type * ofOption name f.name)

mutual

/-- The spellings of a statement. -/
def ofStmt : Stmt → Language Token
  | .declare d => ofDeclaration d * sign .semicolon
  | .assign t op e => ofAssign t op e * sign .semicolon
  | .step t op => ofStep t op * sign .semicolon
  | .ite c b r => word .kwIf * parens (ofExpr c) * braces (ofStmts b) * ofElse r
  | .while c b => word .kwWhile * parens (ofExpr c) * braces (ofStmts b)
  | .for i c s b => word .kwFor * parens (ofOption ofForInit i * sign .semicolon
      * ofOption ofExpr c * sign .semicolon * ofOption ofForStep s) * braces (ofStmts b)
  | .foreach t n e b =>
    word .kwForeach * parens (ofType t * name n * word .kwIn * ofExpr e) * braces (ofStmts b)
  | .ret e => word .kwReturn * ofOption ofExpr e * sign .semicolon
  | .brk => word .kwBreak * sign .semicolon
  | .cont => word .kwContinue * sign .semicolon
  | .throw e => word .kwThrow * ofOption ofExpr e * sign .semicolon
  | .attempt b hs none => given (hs ≠ []) * word .kwTry * braces (ofStmts b) * ofHandlers hs
  | .attempt b hs (some f) =>
    word .kwTry * braces (ofStmts b) * ofHandlers hs * word .kwFinally * braces (ofStmts f)
  | .expr e => ofExpr e * sign .semicolon
  | .block b => braces (ofStmts b)

/-- The spellings of several statements in a row. -/
def ofStmts : List Stmt → Language Token
  | [] => 1
  | s :: ss => ofStmt s * ofStmts ss

/-- The spellings of the rest of a conditional. -/
def ofElse : Else → Language Token
  | .none => 1
  | .block b => word .kwElse * braces (ofStmts b)
  | .elseIf c b r =>
    word .kwElse * (word .kwIf * parens (ofExpr c) * braces (ofStmts b) * ofElse r)

/-- The spellings of handlers in a row. -/
def ofHandlers : List Handler → Language Token
  | [] => 1
  | .mk f b :: hs =>
    word .kwCatch * ofOption ofFilter f * braces (ofStmts b) * ofHandlers hs

end

/-- The spellings of a handler. -/
def ofHandler : Handler → Language Token
  | .mk f b => word .kwCatch * ofOption ofFilter f * braces (ofStmts b)

theorem ofStmts_eq_prod (ss : List Stmt) : ofStmts ss = (ss.map ofStmt).prod := by
  induction ss with
  | nil => rfl
  | cons s ss ih => rw [ofStmts, ih, List.map_cons, List.prod_cons]

theorem ofHandlers_eq_prod (hs : List Handler) : ofHandlers hs = (hs.map ofHandler).prod := by
  induction hs with
  | nil => rfl
  | cons h hs ih =>
    obtain ⟨f, b⟩ := h
    rw [ofHandlers, ih, List.map_cons, List.prod_cons, ofHandler]

/-! ## Classes -/

/-- The spellings of a parameter. -/
def ofParam (p : Param) : Language Token := ofType p.type * name p.name

/-- The spellings of modifiers. -/
def ofModifiers (ms : List Token) : Language Token := (ms.map (kept modifierKinds)).prod

/-- The spellings of a parameter list. -/
def ofParams (ps : List Param) : Language Token := parens (listed (ps.map ofParam))

/-- The spellings of a member. -/
def ofMember : Member → Language Token
  | .field ms d => ofModifiers ms * ofDeclaration d * sign .semicolon
  | .method ms t n ps b =>
    ofModifiers ms * ofType t * name n * ofParams ps * braces (ofStmts b)
  | .constructor ms n ps b => ofModifiers ms * name n * ofParams ps * braces (ofStmts b)

/-- The spellings of the head of a class. -/
def ofHead (h : ClassHead) : Language Token :=
  ofModifiers h.modifiers * word .kwClass * name h.name
    * ofOption (fun b => sign .colon * name b) h.base

/-- The spellings of a class. -/
def ofClass (c : ClassDecl) : Language Token :=
  ofHead c.toClassHead * braces (c.members.map ofMember).prod

/-- The spellings of names with points between them. -/
def ofQualified (ns : List Token) : Language Token :=
  given (ns ≠ []) * separated (sign .dot) (ns.map name)

/-- The spellings of a `using` line. -/
def ofUsing (ns : List Token) : Language Token :=
  word .kwUsing * ofQualified ns * sign .semicolon

/-- The spellings of a file. -/
def ofFile (f : SourceFile) : Language Token :=
  (f.usings.map ofUsing).prod * (f.classes.map ofClass).prod

/-! ## Membership -/

theorem mem_fixed {k : Kind} {ts : List Token} : ts ∈ fixed k ↔ ∃ t, t.kind = k ∧ ts = [t] :=
  Iff.rfl

theorem mem_kept {ks : List Kind} {t : Token} {ts : List Token} :
    ts ∈ kept ks t ↔ t.kind ∈ ks ∧ ts = [t] := Iff.rfl

theorem mem_given {p : Prop} {ts : List Token} : ts ∈ given p ↔ p ∧ ts = [] := Iff.rfl

theorem given_of {p : Prop} (hp : p) : given p = 1 := by
  ext ts
  rw [mem_given, Language.mem_one]
  exact and_iff_right hp

theorem mem_given_mul {p : Prop} {l : Language Token} {ts : List Token} :
    ts ∈ given p * l ↔ p ∧ ts ∈ l := by
  rw [Language.mem_mul]
  constructor
  · rintro ⟨_, ⟨hp, rfl⟩, us, hus, rfl⟩
    exact ⟨hp, hus⟩
  · rintro ⟨hp, hts⟩
    exact ⟨[], ⟨hp, rfl⟩, ts, hts, rfl⟩

theorem separated_cons (s l : Language Token) (ls : List (Language Token)) :
    separated s (l :: ls) = l * (ls.map (s * ·)).prod := by
  induction ls generalizing l with
  | nil => rw [separated, List.map_nil, List.prod_nil, mul_one]
  | cons m ls ih => rw [separated, ih, List.map_cons, List.prod_cons, mul_assoc, mul_assoc]

theorem separated_append (s : Language Token) (ls : List (Language Token)) (l : Language Token) :
    separated s (ls ++ [l]) = (ls.map (· * s)).prod * l := by
  induction ls with
  | nil => simp [separated]
  | cons m ls ih =>
    rcases hls : ls ++ [l] with _ | ⟨k, ks⟩
    · simp at hls
    · rw [List.cons_append, hls, separated, ← hls, ih, List.map_cons, List.prod_cons, mul_assoc,
        mul_assoc, mul_assoc]

theorem separated_mul {s : Language Token} {ls : List (Language Token)} (h : ls ≠ []) :
    separated s ls * s = (ls.map (· * s)).prod := by
  rw [← List.dropLast_append_getLast h, separated_append]
  simp [mul_assoc]

end Spelling

end BraceScript.Syntax
