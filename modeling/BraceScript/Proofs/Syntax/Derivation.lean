import BraceScript.Proofs.Syntax.Spelling
import Mathlib

/-!
# Spellings are derived

Every spelling of a syntax tree has a derivation that leaves the outline of the tree
(`Yields.file`). `Yields` is about all spellings of a tree at once, and the proofs follow the trees
with one derivation for each kind of node.
-/

namespace BraceScript.Syntax

open Grammar hiding word sign name
open Spelling

/-! ## Building derivations -/

/-- Every token list of a set is derived, and leaves the same outlines. -/
def Yields (ps : List Part) (l : Language Token) (os : List Outline) : Prop :=
  ∀ ts ∈ l, Derives ps ts os

namespace Yields

variable {ps xs : List Part} {l m : Language Token} {os qs : List Outline}

theorem nil : Yields [] 1 [] := by
  intro ts hts
  rw [Language.mem_one] at hts
  subst hts
  exact .nil

theorem drop {k : Kind} (h : Yields ps l os) : Yields (.drop k :: ps) (fixed k * l) os := by
  intro ts hts
  obtain ⟨_, ⟨t, ht, rfl⟩, us, hus, rfl⟩ := Language.mem_mul.mp hts
  exact .drop ht (h us hus)

theorem keep {ks : List Kind} {t : Token} (h : Yields ps l os) :
    Yields (.keep ks :: ps) (kept ks t * l) (.leaf t :: os) := by
  intro ts hts
  obtain ⟨_, ⟨ht, rfl⟩, us, hus, rfl⟩ := Language.mem_mul.mp hts
  exact .keep ht (h us hus)

theorem rule {r : Rule} (h : Yields [.rule r] l os) (hm : Yields ps m qs) :
    Yields (.rule r :: ps) (l * m) (os ++ qs) := by
  intro ts hts
  obtain ⟨us, hus, vs, hvs, rfl⟩ := Language.mem_mul.mp hts
  cases h us hus with
  | rule ha hparts hnil =>
    cases hnil
    rw [List.append_nil, List.append_nil]
    exact .rule ha hparts (hm vs hvs)

theorem absent (h : Yields ps l os) : Yields (.maybe xs :: ps) l (gaps xs ++ os) :=
  fun ts hts => .absent (h ts hts)

theorem present (h : Yields xs l os) (hm : Yields ps m qs) :
    Yields (.maybe xs :: ps) (l * m) (os ++ qs) := by
  intro ts hts
  obtain ⟨us, hus, vs, hvs, rfl⟩ := Language.mem_mul.mp hts
  exact .present (h us hus) (hm vs hvs)

/-- Parts any number of times, once for every element of a list. -/
theorem many {α : Type} {as : List α} {f : α → Language Token} {g : α → Outline}
    (h : ∀ a ∈ as, Yields xs (f a) [g a]) (hm : Yields ps m qs) :
    Yields (.many xs :: ps) ((as.map f).prod * m) (as.map g ++ qs) := by
  induction as with
  | nil =>
    rw [List.map_nil, List.prod_nil, one_mul]
    exact fun ts hts => .stop (hm ts hts)
  | cons a as ih =>
    rw [List.map_cons, List.prod_cons, mul_assoc, List.map_cons, List.cons_append]
    intro ts hts
    obtain ⟨us, hus, vs, hvs, rfl⟩ := Language.mem_mul.mp hts
    exact .more (h a List.mem_cons_self us hus)
      (ih (fun b hb => h b (List.mem_cons_of_mem a hb)) vs hvs)

/-- A rule yields what one of its alternatives does. -/
theorem of_mem {r : Rule} {a : Alternative} (ha : a ∈ r.alternatives)
    (h : Yields a.parts l os) : Yields [.rule r] l (a.result r os) := by
  intro ts hts
  have hd := Derives.rule ha (h ts hts) .nil
  rwa [List.append_nil, List.append_nil] at hd

/-- A rule yields what its alternative number `i` does. -/
theorem alt (r : Rule) (i : Nat) {a : Alternative} (ha : r.alternatives[i]? = some a)
    (h : Yields a.parts l os) : Yields [.rule r] l (a.result r os) :=
  of_mem (List.mem_of_getElem? ha) h

theorem given {p : Prop} (h : p → Yields ps l os) : Yields ps (Spelling.given p * l) os := by
  intro ts hts
  rw [mem_given_mul] at hts
  exact h hts.1 ts hts.2

theorem of_eq (h : Yields ps l os) (he : l = m) : Yields ps m os := he ▸ h

/-- A rule on its own, without the empty rest. -/
theorem only {r : Rule} (h : Yields [.rule r] l os) : Yields [.rule r] (l * 1) (os ++ []) := by
  rwa [mul_one, List.append_nil]

/-- A rule several times, with a sign between. -/
theorem separated {α : Type} {r : Rule} {s : Sign} {f : α → Language Token} {g : α → Outline}
    {a : α} {as : List α} (h : ∀ b ∈ a :: as, Yields [.rule r] (f b) [g b]) :
    Yields [.rule r, .many [Grammar.sign s, .rule r]]
      (Spelling.separated (Spelling.sign s) ((a :: as).map f)) ((a :: as).map g) := by
  have htail : ∀ b ∈ as, Yields [Grammar.sign s, .rule r] (Spelling.sign s * f b) [g b] :=
    fun b hb => .drop (h b (List.mem_cons_of_mem a hb))
  have hlist := (h a List.mem_cons_self).rule (many htail nil)
  rw [mul_one, List.append_nil] at hlist
  rw [List.map_cons, separated_cons, List.map_map]
  exact hlist

end Yields

/-! ### Expressions -/

/-- The rule for expressions of a level. -/
def levelRule : Nat → Rule
  | 0 => .conditional
  | 1 => .orExpr
  | 2 => .andExpr
  | 3 => .equality
  | 4 => .comparison
  | 5 => .additive
  | 6 => .multiplicative
  | 7 => .unary
  | 8 => .postfixed
  | _ => .primary

/-- An expression that binds tightly can stand where less is asked for. -/
theorem Yields.weaken {n m : Nat} {l : Language Token} {o : Outline} (hnm : n ≤ m) (hm : m ≤ 9)
    (h : Yields [.rule (levelRule m)] l [o]) : Yields [.rule (levelRule n)] l [o] := by
  induction m, hnm using Nat.le_induction with
  | base => exact h
  | succ m hnm ih =>
    refine ih (by omega) ?_
    have hone := Yields.rule h .nil
    rw [mul_one, List.append_nil] at hone
    have hle : m ≤ 8 := by omega
    clear hnm ih h
    interval_cases m
    · exact Yields.alt .conditional 0 rfl hone
    · exact Yields.alt .orExpr 0 rfl hone
    · exact Yields.alt .andExpr 0 rfl hone
    · exact Yields.alt .equality 0 rfl hone
    · exact Yields.alt .comparison 0 rfl hone
    · exact Yields.alt .additive 0 rfl hone
    · exact Yields.alt .multiplicative 0 rfl hone
    · exact Yields.alt .unary 0 rfl hone
    · exact Yields.alt .postfixed 0 rfl hone

theorem Outline.ofExprs_eq_map (es : List Expr) : Outline.ofExprs es = es.map Outline.ofExpr := by
  induction es with
  | nil => rfl
  | cons e es ih => rw [Outline.ofExprs, ih, List.map_cons]

theorem Outline.ofExpr_call (f : Expr) (as : List Expr) :
    Outline.ofExpr (.call f as) = .node "call" [ofExpr f, ofList "arguments" ofExpr as] := by
  cases as <;> simp [ofExpr, ofList, ofExprs_eq_map]

theorem Outline.ofExpr_newObject (t : Token) (as : List Expr) :
    Outline.ofExpr (.newObject t as)
      = .node "new_object" [.leaf t, ofList "arguments" ofExpr as] := by
  cases as <;> simp [ofExpr, ofList, ofExprs_eq_map]

theorem Outline.ofExpr_elements (t : Token) (as : List Expr) :
    Outline.ofExpr (.elements t as)
      = .node "array_literal" [.leaf t, .node "array_rank" [], ofList "arguments" ofExpr as] := by
  cases as <;> simp [ofExpr, ofList, ofExprs_eq_map]

/-- An optional list with commas that is a node of its own. -/
theorem Yields.list {α : Type} {r q : Rule} {f : α → Language Token} {g : α → Outline}
    {as : List α} {ps : List Part} {m : Language Token} {qs : List Outline}
    (hq : q.alternatives[0]? = some (plain [.rule r, .many [Grammar.sign .comma, .rule r]]))
    (hi : q.isInlined = false) (h : ∀ a ∈ as, Yields [.rule r] (f a) [g a])
    (hm : Yields ps m qs) :
    Yields (.maybe [.rule q] :: ps) (listed (as.map f) * m)
      (Outline.ofList q.title g as :: qs) := by
  cases as with
  | nil =>
    rw [List.map_nil, listed, Spelling.separated, one_mul]
    exact .absent hm
  | cons a as =>
    have hlist := Yields.alt q 0 hq (.separated h)
    rw [Alternative.result, plain, hi] at hlist
    exact .present hlist hm

/-- An expression is derived wherever an expression of at most its level can stand. -/
def Expr.IsDerived (e : Expr) : Prop :=
  ∀ n ≤ e.level, Yields [.rule (levelRule n)] (ofExpr e) [Outline.ofExpr e]

theorem Expr.IsDerived.expr {e : Expr} (h : e.IsDerived) :
    Yields [.rule .expr] (ofExpr e) [Outline.ofExpr e] :=
  .of_eq (.alt .expr 0 rfl (.only (h 0 (Nat.zero_le _)))) (mul_one _)

theorem Expr.level_le_nine (e : Expr) : e.level ≤ 9 := by
  cases e with
  | binary op l r => exact op.level_le_six.trans (by omega)
  | _ => simp [level]

/-- Expressions in a list are derived with their commas. -/
theorem Yields.arguments {as : List Expr} {ps : List Part} {m : Language Token}
    {qs : List Outline} (h : ∀ a ∈ as, a.IsDerived) (hm : Yields ps m qs) :
    Yields (.maybe [.rule .arguments] :: ps) (listed (ofExprs as) * m)
      (Outline.ofList "arguments" Outline.ofExpr as :: qs) := by
  rw [ofExprs_eq_map]
  exact .list rfl rfl (fun a ha => (h a ha).expr) hm

/-- The brackets after the name of a type. -/
theorem Yields.rank : Yields [.rule .arrayRank] (brackets 1) [.node "array_rank" []] :=
  .of_eq (.alt .arrayRank 0 rfl (.drop (.drop .nil))) (by simp [brackets, Spelling.sign])

theorem BinaryOp.infixed_mem (op : BinaryOp) :
    infixed (Outline.binaryLabel op) (levelRule op.level) op.sign (levelRule (op.level + 1))
      ∈ (levelRule op.level).alternatives := by
  cases op <;> simp [level, levelRule, Rule.alternatives, Outline.binaryLabel, BinaryOp.sign]

/-- Every expression is derived. -/
theorem Expr.isDerived (e : Expr) : e.IsDerived := by
  induction e using Expr.byOperands with
  | h e ih =>
  -- at the level of its own operator first, and from there at every lower level
  suffices own : Yields [.rule (levelRule e.level)] (ofExpr e) [Outline.ofExpr e] from
    fun n hn => own.weaken hn e.level_le_nine
  cases e with
  | number t => exact .of_eq (.alt .primary 0 rfl (.keep .nil)) (mul_one _)
  | string t => exact .of_eq (.alt .primary 1 rfl (.keep .nil)) (mul_one _)
  | char t => exact .of_eq (.alt .primary 2 rfl (.keep .nil)) (mul_one _)
  | true => exact .of_eq (.alt .primary 3 rfl (.drop .nil)) (mul_one _)
  | false => exact .of_eq (.alt .primary 4 rfl (.drop .nil)) (mul_one _)
  | null => exact .of_eq (.alt .primary 5 rfl (.drop .nil)) (mul_one _)
  | this => exact .of_eq (.alt .primary 6 rfl (.drop .nil)) (mul_one _)
  | name t => exact .of_eq (.alt .primary 7 rfl (.keep .nil)) (mul_one _)
  | group e =>
    exact .of_eq (.alt .primary 8 rfl (.drop (.rule (ih e (by simp [operands])).expr (.drop .nil))))
      (by simp [ofExpr, parens, Spelling.sign, mul_assoc])
  | member e n =>
    have he := ih e (by simp [operands])
    refine .of_eq (.given fun h => .alt .postfixed 1 rfl (.rule (he 8 h) (.drop (.keep .nil)))) ?_
    simp [ofExpr, Spelling.sign, Spelling.name, mul_assoc]
  | call f as =>
    rw [Outline.ofExpr_call]
    have hf := ih f (by simp [operands])
    have has : ∀ a ∈ as, a.IsDerived := fun a ha => ih a (by simp [operands, ha])
    refine .of_eq (.given fun h => .alt .postfixed 2 rfl
      (.rule (hf 8 h) (.drop (.arguments has (.drop .nil))))) ?_
    simp [ofExpr, parens, Spelling.sign, mul_assoc]
  | index e i =>
    have he := ih e (by simp [operands])
    have hi := ih i (by simp [operands])
    refine .of_eq (.given fun h => .alt .postfixed 3 rfl
      (.rule (he 8 h) (.drop (.rule hi.expr (.drop .nil))))) ?_
    simp [ofExpr, brackets, Spelling.sign, mul_assoc]
  | unary op e =>
    have he := ih e (by simp [operands])
    cases op
    · refine .of_eq (.given fun h => .alt .unary 1 rfl (.drop (.rule (he 7 h) .nil))) ?_
      simp [ofExpr, Spelling.sign, UnaryOp.sign, mul_assoc]
    · refine .of_eq (.given fun h => .alt .unary 2 rfl (.drop (.rule (he 7 h) .nil))) ?_
      simp [ofExpr, Spelling.sign, UnaryOp.sign, mul_assoc]
  | binary op l r =>
    have hl := ih l (by simp [operands])
    have hr := ih r (by simp [operands])
    have own (h : op.level ≤ l.level ∧ op.level < r.level) :=
      Yields.of_mem op.infixed_mem (.rule (hl _ h.1) (.drop (.rule (hr _ h.2) .nil)))
    refine .of_eq (.given own) ?_
    simp [ofExpr, Spelling.sign, mul_assoc]
  | choice c a b =>
    have hc := ih c (by simp [operands])
    have ha := ih a (by simp [operands])
    have hb := ih b (by simp [operands])
    refine .of_eq (.given fun h => .alt .conditional 1 rfl (.rule (hc 1 h) (.drop
      (.rule ha.expr (.drop (.rule (hb 0 (Nat.zero_le _)) .nil)))))) ?_
    simp [ofExpr, Spelling.sign, mul_assoc]
  | newObject t as =>
    rw [Outline.ofExpr_newObject]
    have has : ∀ a ∈ as, a.IsDerived := fun a ha => ih a (by simp [operands, ha])
    refine .of_eq (.alt .primary 9 rfl (.drop (.keep (.drop (.arguments has (.drop .nil)))))) ?_
    simp [ofExpr, parens, Spelling.sign, Spelling.word, Spelling.name, mul_assoc]
  | newArray t e =>
    have he := ih e (by simp [operands])
    refine .of_eq (.alt .primary 10 rfl
      (.drop (.keep (.drop (.rule he.expr (.drop .nil)))))) ?_
    simp [ofExpr, brackets, Spelling.sign, Spelling.word, Spelling.name, mul_assoc]
  | elements t as =>
    rw [Outline.ofExpr_elements]
    have has : ∀ a ∈ as, a.IsDerived := fun a ha => ih a (by simp [operands, ha])
    refine .of_eq (.alt .primary 11 rfl (.drop (.keep (.rule .rank
      (.drop (.arguments has (.drop .nil))))))) ?_
    simp [ofExpr, braces, Spelling.sign, Spelling.word, Spelling.name, mul_assoc]

/-! ### Targets and declarations -/

theorem Yields.expr (e : Expr) : Yields [.rule .expr] (ofExpr e) [Outline.ofExpr e] :=
  e.isDerived.expr

theorem Yields.type (t : TypeRef) : Yields [.rule .typeRef] (ofType t) [Outline.ofType t] := by
  have hranks := Yields.many (fun _ (_ : _ ∈ List.replicate t.rank ()) => rank) nil
  rw [List.map_replicate, List.map_replicate, List.prod_replicate, mul_one, List.append_nil]
    at hranks
  exact .alt .typeRef 0 rfl (.keep hranks)

/-- An optional expression after an equals sign. -/
theorem Yields.value (v : Option Expr) {ps : List Part} {m : Language Token} {qs : List Outline}
    (hm : Yields ps m qs) :
    Yields (.maybe [Grammar.sign .assign, .rule .expr] :: ps) (ofValue v * m)
      (Outline.ofOption Outline.ofExpr v :: qs) := by
  cases v with
  | none => exact .of_eq (.absent hm) (one_mul m).symm
  | some e => exact .present (.drop (.expr e)) hm

/-- An optional rule on its own. -/
theorem Yields.option {α : Type} {r : Rule} {f : α → Language Token} {g : α → Outline}
    {v : Option α} {ps : List Part} {m : Language Token} {qs : List Outline}
    (h : ∀ a ∈ v, Yields [.rule r] (f a) [g a]) (hm : Yields ps m qs) :
    Yields (.maybe [.rule r] :: ps) (Spelling.ofOption f v * m) (Outline.ofOption g v :: qs) := by
  cases v with
  | none => exact .of_eq (.absent hm) (one_mul m).symm
  | some a => exact .present (h a rfl) hm

theorem Yields.declaration (d : Declaration) :
    Yields [.rule .declaration] (ofDeclaration d) [Outline.ofDeclaration d] := by
  refine .of_eq (.alt .declaration 0 rfl (.rule (.type d.type) (.keep (.value d.value .nil)))) ?_
  simp [ofDeclaration, Spelling.name, mul_assoc]

theorem Yields.target (t : Target) :
    Yields [.rule .lvalue] (ofTarget t) [Outline.ofTarget t] := by
  cases t with
  | name t => exact .of_eq (.alt .lvalue 0 rfl (.keep .nil)) (mul_one _)
  | member e n =>
    refine .of_eq (.given fun h => .alt .lvalue 1 rfl
      (.rule (e.isDerived 8 h) (.drop (.keep .nil)))) ?_
    simp [ofTarget, Spelling.sign, Spelling.name, mul_assoc]
  | index e i =>
    refine .of_eq (.given fun h => .alt .lvalue 2 rfl
      (.rule (e.isDerived 8 h) (.drop (.rule (.expr i) (.drop .nil))))) ?_
    simp [ofTarget, brackets, Spelling.sign, mul_assoc]

theorem AssignOp.infixed_mem (op : AssignOp) :
    infixed (Outline.assignLabel op) .lvalue op.sign .expr ∈ Rule.assignment.alternatives := by
  cases op <;> simp [Rule.alternatives, Outline.assignLabel, AssignOp.sign]

theorem Yields.assign (t : Target) (op : AssignOp) (e : Expr) :
    Yields [.rule .assignment] (ofAssign t op e) [Outline.ofAssign t op e] := by
  refine .of_eq (.of_mem op.infixed_mem (.rule (.target t) (.drop (.rule (.expr e) .nil)))) ?_
  simp [ofAssign, Spelling.sign, mul_assoc]

theorem Yields.step (t : Target) (op : StepOp) :
    Yields [.rule .incdec] (ofStep t op) [Outline.ofStep t op] := by
  cases op
  · exact .of_eq (.alt .incdec 0 rfl (.rule (.target t) (.drop .nil)))
      (by simp [ofStep, StepOp.sign, Spelling.sign])
  · exact .of_eq (.alt .incdec 1 rfl (.rule (.target t) (.drop .nil)))
      (by simp [ofStep, StepOp.sign, Spelling.sign])

theorem Yields.forInit (i : ForInit) :
    Yields [.rule .forInit] (ofForInit i) [Outline.ofForInit i] := by
  cases i with
  | declare d => exact .of_eq (.alt .forInit 0 rfl (.only (.declaration d))) (mul_one _)
  | assign t op e => exact .of_eq (.alt .forInit 1 rfl (.only (.assign t op e))) (mul_one _)

theorem Yields.forStep (s : ForStep) :
    Yields [.rule .forStep] (ofForStep s) [Outline.ofForStep s] := by
  cases s with
  | assign t op e => exact .of_eq (.alt .forStep 0 rfl (.only (.assign t op e))) (mul_one _)
  | step t op => exact .of_eq (.alt .forStep 1 rfl (.only (.step t op))) (mul_one _)
  | expr e => exact .of_eq (.alt .forStep 2 rfl (.only (.expr e))) (mul_one _)

theorem Yields.filter (f : CatchFilter) :
    Yields [.rule .catchFilter] (ofFilter f) [Outline.ofFilter f] := by
  obtain ⟨t, n⟩ := f
  cases n with
  | none =>
    refine .of_eq (.alt .catchFilter 0 rfl (.drop (.keep (.absent (.drop .nil))))) ?_
    simp [ofFilter, Spelling.ofOption, parens, Spelling.sign, Spelling.name, mul_assoc]
  | some n =>
    refine .of_eq (.alt .catchFilter 0 rfl (.drop (.keep (.present (.keep .nil) (.drop .nil))))) ?_
    simp [ofFilter, Spelling.ofOption, parens, Spelling.sign, Spelling.name, mul_assoc]

/-! ### Statements -/

theorem Outline.ofStmts_eq_map (ss : List Stmt) : Outline.ofStmts ss = ss.map Outline.ofStmt := by
  induction ss with
  | nil => rfl
  | cons s ss ih => rw [Outline.ofStmts, ih, List.map_cons]

/-- The outline of a handler. -/
def Outline.ofHandler : Handler → Outline
  | .mk f b => .node "catch_clause" [ofOption ofFilter f, .node "block" (ofStmts b)]

theorem Outline.ofHandlers_eq_map (hs : List Handler) :
    Outline.ofHandlers hs = hs.map Outline.ofHandler := by
  induction hs with
  | nil => rfl
  | cons h hs ih =>
    obtain ⟨f, b⟩ := h
    rw [Outline.ofHandlers, ih, List.map_cons, Outline.ofHandler]

/-- A statement is derived as one. -/
def Stmt.IsDerived (s : Stmt) : Prop := Yields [.rule .statement] (ofStmt s) [Outline.ofStmt s]

/-- A block of statements that are derived. -/
theorem Yields.block {b : List Stmt} (h : ∀ s ∈ b, s.IsDerived) :
    Yields [.rule .block] (braces (ofStmts b)) [.node "block" (Outline.ofStmts b)] := by
  rw [ofStmts_eq_prod, Outline.ofStmts_eq_map]
  have hb := Yields.alt .block 0 rfl (.drop (.many h (.drop .nil)))
  rw [List.append_nil] at hb
  exact hb.of_eq (by simp [braces, Spelling.sign, mul_assoc])

/-- A conditional whose parts are derived. -/
theorem Yields.ite (c : Expr) {b : List Stmt} {r : Else} (hb : ∀ s ∈ b, s.IsDerived)
    (hr : Yields [.maybe [.rule .elseClause]] (ofElse r) [Outline.ofElse r]) :
    Yields [.rule .ifStmt] (word .kwIf * parens (ofExpr c) * braces (ofStmts b) * ofElse r)
      [.node "if_stmt"
        [Outline.ofExpr c, .node "block" (Outline.ofStmts b), Outline.ofElse r]] := by
  refine .of_eq (.alt .ifStmt 0 rfl
    (.drop (.drop (.rule (.expr c) (.drop (.rule (.block hb) hr)))))) ?_
  simp [parens, Spelling.word, Spelling.sign, mul_assoc]

/-- The rest of a conditional whose parts are derived. -/
theorem Yields.otherwise : ∀ {r : Else}, (∀ s ∈ r.parts, s.IsDerived) →
    Yields [.maybe [.rule .elseClause]] (ofElse r) [Outline.ofElse r]
  | .none, _ => .absent .nil
  | .block b, h => by
    have hb : ∀ s ∈ b, s.IsDerived := h
    refine .of_eq (.present (.alt .elseClause 0 rfl (.drop (.rule (.block hb) .nil))) .nil) ?_
    simp [ofElse, Spelling.word]
  | .elseIf c b r, h => by
    have hb : ∀ s ∈ b, s.IsDerived := fun s hs => h s (by simp [Else.parts, hs])
    have hr : ∀ s ∈ r.parts, s.IsDerived := fun s hs => h s (by simp [Else.parts, hs])
    refine .of_eq (.present (.alt .elseClause 1 rfl
      (.drop (.rule (.ite c hb (.otherwise hr)) .nil))) .nil) ?_
    simp [ofElse, Spelling.word]

theorem Handler.mem_parts {p : Stmt} {hs : List Handler} :
    p ∈ Handler.parts hs ↔ ∃ f b, .mk f b ∈ hs ∧ p ∈ b := by
  induction hs with
  | nil => simp [parts]
  | cons h hs ih =>
    obtain ⟨f, b⟩ := h
    simp only [parts, List.mem_append, ih, List.mem_cons, mk.injEq]
    grind

/-- Handlers whose parts are derived. -/
theorem Yields.handler {hs : List Handler} (h : ∀ s ∈ Handler.parts hs, s.IsDerived) :
    ∀ x ∈ hs, Yields [.rule .catchClause] (ofHandler x) [Outline.ofHandler x] := by
  rintro ⟨f, b⟩ hx
  have hb : ∀ s ∈ b, s.IsDerived := fun s hs => h s (Handler.mem_parts.mpr ⟨f, b, hx, hs⟩)
  refine .of_eq (.alt .catchClause 0 rfl
    (.drop (.option (fun f _ => .filter f) (.rule (.block hb) .nil)))) ?_
  simp [ofHandler, Spelling.word, mul_assoc]

/-- Guarded blocks whose parts are derived. -/
theorem Yields.attempt {b : List Stmt} {hs : List Handler} {f : Option (List Stmt)}
    (hb : ∀ s ∈ b, s.IsDerived) (hhs : ∀ s ∈ Handler.parts hs, s.IsDerived)
    (hf : ∀ s ∈ f.getD [], s.IsDerived) :
    Yields [.rule .tryStmt] (ofStmt (.attempt b hs f)) [Outline.ofStmt (.attempt b hs f)] := by
  have hfinally (f : List Stmt) (hf : ∀ s ∈ f, s.IsDerived) :
      Yields [.rule .finallyClause] (word .kwFinally * braces (ofStmts f))
        [.node "finally_clause" [.node "block" (Outline.ofStmts f)]] :=
    .of_eq (.alt .finallyClause 0 rfl (.drop (.rule (.block hf) .nil)))
      (by simp [Spelling.word])
  cases hs with
  | nil =>
    cases f with
    | none =>
      intro ts hts
      rw [ofStmt, mul_assoc, mul_assoc, mem_given_mul] at hts
      exact absurd rfl hts.1
    | some f =>
      refine .of_eq (.alt .tryStmt 1 rfl
        (.drop (.rule (.block hb) (.rule (hfinally f hf) .nil)))) ?_
      simp [ofStmt, ofHandlers, Spelling.word, mul_assoc]
  | cons x hs =>
    have hx := Yields.handler hhs x List.mem_cons_self
    have hrest : ∀ y ∈ hs, Yields [.rule .catchClause] (ofHandler y) [Outline.ofHandler y] :=
      fun y hy => Yields.handler hhs y (List.mem_cons_of_mem x hy)
    cases f with
    | none =>
      have own := Yields.alt .tryStmt 0 rfl
        (.drop (.rule (.block hb) (.rule hx (.many hrest (.absent .nil)))))
      have hgap : Outline.ofStmt (.attempt b (x :: hs) none)
          = .node "try_stmt" (.node "block" (Outline.ofStmts b) :: Outline.ofHandler x
            :: (hs.map Outline.ofHandler ++ [.gap])) := by
        rw [Outline.ofStmt, Outline.ofHandlers_eq_map]
        rfl
      rw [hgap, ofStmt, ofHandlers_eq_prod]
      refine own.of_eq ?_
      simp [given_of, Spelling.word, mul_assoc]
    | some f =>
      have own := Yields.alt .tryStmt 0 rfl (.drop (.rule (.block hb)
        (.rule hx (.many hrest (.present (.rule (hfinally f hf) .nil) .nil)))))
      have hlast : Outline.ofStmt (.attempt b (x :: hs) (some f))
          = .node "try_stmt" (.node "block" (Outline.ofStmts b) :: Outline.ofHandler x
            :: (hs.map Outline.ofHandler
              ++ [.node "finally_clause" [.node "block" (Outline.ofStmts f)]])) := by
        rw [Outline.ofStmt, Outline.ofHandlers_eq_map]
        rfl
      rw [hlast, ofStmt, ofHandlers_eq_prod]
      refine own.of_eq ?_
      simp [Spelling.word, mul_assoc]

/-- Every statement is derived. -/
theorem Stmt.isDerived (s : Stmt) : s.IsDerived := by
  induction s using Stmt.byParts with
  | h s ih =>
  have own (r : Rule) (i : Nat) (hr : Rule.statement.alternatives[i]? = some (plain [.rule r]))
      (h : Yields [.rule r] (ofStmt s) [Outline.ofStmt s]) : s.IsDerived :=
    .of_eq (.alt .statement i hr (.only h)) (mul_one _)
  cases s with
  | declare d =>
    exact own .localDecl 0 rfl (.of_eq (.alt .localDecl 0 rfl (.rule (.declaration d) (.drop .nil)))
      (by simp [ofStmt, Spelling.sign]))
  | assign t op e =>
    exact own .assignStmt 1 rfl (.of_eq
      (.alt .assignStmt 0 rfl (.rule (.assign t op e) (.drop .nil)))
      (by simp [ofStmt, Spelling.sign]))
  | step t op =>
    exact own .incdecStmt 2 rfl (.of_eq
      (.alt .incdecStmt 0 rfl (.rule (.step t op) (.drop .nil)))
      (by simp [ofStmt, Spelling.sign]))
  | ite c b r =>
    refine own .ifStmt 3 rfl (.ite c ?_ (.otherwise ?_))
    · exact fun s hs => ih s (by simp [parts, hs])
    · exact fun s hs => ih s (by simp [parts, hs])
  | «while» c b =>
    have hb : ∀ s ∈ b, s.IsDerived := ih
    refine own .whileStmt 4 rfl (.of_eq (.alt .whileStmt 0 rfl
      (.drop (.drop (.rule (.expr c) (.drop (.rule (.block hb) .nil)))))) ?_)
    simp [ofStmt, parens, Spelling.word, Spelling.sign, mul_assoc]
  | «for» i c s b =>
    have hb : ∀ s ∈ b, s.IsDerived := ih
    refine own .forStmt 5 rfl (.of_eq (.alt .forStmt 0 rfl (.drop (.drop
      (.option (fun i _ => .forInit i) (.drop (.option (fun c _ => .expr c) (.drop
        (.option (fun s _ => .forStep s) (.drop (.rule (.block hb) .nil)))))))))) ?_)
    simp [ofStmt, parens, Spelling.word, Spelling.sign, mul_assoc]
  | foreach t n e b =>
    have hb : ∀ s ∈ b, s.IsDerived := ih
    refine own .foreachStmt 6 rfl (.of_eq (.alt .foreachStmt 0 rfl (.drop (.drop
      (.rule (.type t) (.keep (.drop (.rule (.expr e) (.drop (.rule (.block hb) .nil))))))))) ?_)
    simp [ofStmt, parens, Spelling.word, Spelling.sign, Spelling.name, mul_assoc]
  | ret e =>
    refine own .returnStmt 7 rfl (.of_eq (.alt .returnStmt 0 rfl
      (.drop (.option (fun e _ => .expr e) (.drop .nil)))) ?_)
    simp [ofStmt, Spelling.word, Spelling.sign, mul_assoc]
  | brk =>
    exact own .breakStmt 8 rfl (.of_eq (.alt .breakStmt 0 rfl (.drop (.drop .nil)))
      (by simp [ofStmt, Spelling.word, Spelling.sign]))
  | cont =>
    exact own .continueStmt 9 rfl (.of_eq (.alt .continueStmt 0 rfl (.drop (.drop .nil)))
      (by simp [ofStmt, Spelling.word, Spelling.sign]))
  | throw e =>
    refine own .throwStmt 10 rfl (.of_eq (.alt .throwStmt 0 rfl
      (.drop (.option (fun e _ => .expr e) (.drop .nil)))) ?_)
    simp [ofStmt, Spelling.word, Spelling.sign, mul_assoc]
  | attempt b hs f =>
    refine own .tryStmt 11 rfl (.attempt ?_ ?_ ?_)
    · exact fun s hs => ih s (by simp [parts, hs])
    · exact fun s hs => ih s (by simp [parts, hs])
    · exact fun s hs => ih s (by simp [parts, hs])
  | expr e =>
    exact own .exprStmt 12 rfl (.of_eq (.alt .exprStmt 0 rfl (.rule (.expr e) (.drop .nil)))
      (by simp [ofStmt, Spelling.sign]))
  | block b => exact own .block 13 rfl (.block ih)

/-! ### Classes and files -/

theorem Yields.body (b : List Stmt) :
    Yields [.rule .block] (braces (ofStmts b)) [.node "block" (Outline.ofStmts b)] :=
  .block fun s _ => s.isDerived

theorem Yields.param (p : Param) : Yields [.rule .param] (ofParam p) [Outline.ofParam p] :=
  .of_eq (.alt .param 0 rfl (.rule (.type p.type) (.keep .nil)))
    (by simp [ofParam, Spelling.name])

theorem Yields.modifiers (ms : List Token) :
    Yields [.rule .modifiers] (ofModifiers ms) [Outline.ofModifiers ms] := by
  have hone : ∀ m ∈ ms, Yields [.keep modifierKinds] (kept modifierKinds m) [.leaf m] :=
    fun m _ => .of_eq (.keep .nil) (mul_one _)
  have hmany := Yields.alt .modifiers 0 rfl (.many hone .nil)
  rw [List.append_nil, mul_one] at hmany
  exact hmany

/-- A parameter list in its parentheses. -/
theorem Yields.params {params : List Param} {ps : List Part} {m : Language Token}
    {qs : List Outline} (hm : Yields ps m qs) :
    Yields (Grammar.sign .openParen :: .maybe [.rule .params] :: Grammar.sign .closeParen :: ps)
      (ofParams params * m) (Outline.ofList "params" Outline.ofParam params :: qs) := by
  have hlist := Yields.list (q := .params) rfl rfl (fun p (_ : p ∈ params) => .param p)
    (.drop (k := .sign .closeParen) hm)
  refine .of_eq (.drop hlist) ?_
  simp [ofParams, parens, Spelling.sign, mul_assoc]

theorem Yields.member (x : Member) :
    Yields [.rule .member] (ofMember x) [Outline.ofMember x] := by
  cases x with
  | field ms d =>
    refine .of_eq (.alt .member 0 rfl (.only (.alt .fieldDecl 0 rfl
      (.rule (.modifiers ms) (.rule (.type d.type) (.keep (.value d.value (.drop .nil)))))))) ?_
    simp [ofMember, ofDeclaration, Spelling.name, Spelling.sign, mul_assoc]
  | method ms t n params b =>
    refine .of_eq (.alt .member 1 rfl (.only (.alt .methodDecl 0 rfl
      (.rule (.modifiers ms) (.rule (.type t) (.keep (.params (.rule (.body b) .nil)))))))) ?_
    simp [ofMember, Spelling.name, mul_assoc]
  | constructor ms n params b =>
    refine .of_eq (.alt .member 2 rfl (.only (.alt .ctorDecl 0 rfl
      (.rule (.modifiers ms) (.keep (.params (.rule (.body b) .nil))))))) ?_
    simp [ofMember, Spelling.name, mul_assoc]

theorem Yields.class (c : ClassDecl) :
    Yields [.rule .typeDecl] (ofClass c) [Outline.ofClass c] := by
  have hbase : ∀ b ∈ c.base, Yields [.rule .baseClause]
      (Spelling.sign .colon * Spelling.name b) [.node "base_clause" [.leaf b]] :=
    fun b _ => .of_eq (.alt .baseClause 0 rfl (.drop (.keep .nil)))
      (by simp [Spelling.sign, Spelling.name])
  have own := Yields.alt .typeDecl 0 rfl (.rule (.modifiers c.modifiers) (.drop (.keep (t := c.name)
    (.option hbase (.drop (.many (fun x (_ : x ∈ c.members) => .member x) (.drop .nil)))))))
  rw [List.append_nil] at own
  refine own.of_eq ?_
  simp [ofClass, ofHead, braces, Spelling.word, Spelling.sign, Spelling.name, mul_assoc]

theorem Yields.qualified (ns : List Token) :
    Yields [.rule .qualifiedName] (ofQualified ns) [.node "qualified_name" (ns.map .leaf)] := by
  refine .given fun hns => ?_
  obtain ⟨n, ns, rfl⟩ := List.exists_cons_of_ne_nil hns
  have hdotted : ∀ t ∈ ns, Yields [Grammar.sign .dot, Grammar.name]
      (Spelling.sign .dot * Spelling.name t) [.leaf t] :=
    fun t _ => .of_eq (.drop (.keep .nil)) (by simp [Spelling.sign, Spelling.name])
  have own := Yields.alt .qualifiedName 0 rfl (.keep (t := n) (.many hdotted .nil))
  rw [List.append_nil, mul_one] at own
  rw [List.map_cons, separated_cons, List.map_map]
  exact own

theorem Yields.using (ns : List Token) :
    Yields [.rule .usingDirective] (ofUsing ns)
      [.node "using_directive" [.node "qualified_name" (ns.map .leaf)]] := by
  refine .of_eq (.alt .usingDirective 0 rfl (.drop (.rule (.qualified ns) (.drop .nil)))) ?_
  simp [ofUsing, Spelling.word, Spelling.sign, mul_assoc]

theorem Yields.file (f : SourceFile) :
    Yields [.rule .start] (ofFile f) [Outline.ofFile f] := by
  have own := Yields.alt .start 0 rfl (.many (fun ns (_ : ns ∈ f.usings) => .using ns)
    (.many (fun c (_ : c ∈ f.classes) => .class c) .nil))
  rw [mul_one, List.append_nil] at own
  exact own

end BraceScript.Syntax
