import BraceScript.Proofs.Syntax.Derivation
import Mathlib

/-!
# What is derived is a spelling

`Means` says for every rule which trees it stands for. What the parts of an alternative derive
stands for a value put together from trees (`Reads`), and every alternative makes a tree of its
rule out of such a value (`Builds`). By induction over derivations everything that is derived is a
spelling of a tree, and leaves the outline of this tree.
-/

namespace BraceScript.Syntax

open Grammar hiding word sign name
open Spelling

/-- Tokens and the outline of a tree that they spell. -/
def Form {α : Type} (l : α → Language Token) (o : α → Outline) (ts : List Token)
    (os : List Outline) : Prop :=
  ∃ a, ts ∈ l a ∧ os = [o a]

/-- Expressions that bind at least as tightly as a level. -/
abbrev Tight (n : Nat) := {e : Expr // n ≤ e.level}

/-- The tokens and the outlines of what each rule stands for. -/
def Means : Rule → List Token → List Outline → Prop
  | .start => Form ofFile Outline.ofFile
  | .usingDirective => Form ofUsing fun ns =>
    .node "using_directive" [.node "qualified_name" (ns.map .leaf)]
  | .qualifiedName => Form ofQualified fun ns => .node "qualified_name" (ns.map .leaf)
  | .typeDecl => Form ofClass Outline.ofClass
  | .baseClause => Form (fun b => sign .colon * name b) fun b => .node "base_clause" [.leaf b]
  | .modifiers => Form ofModifiers Outline.ofModifiers
  | .member | .fieldDecl | .methodDecl | .ctorDecl => Form ofMember Outline.ofMember
  | .params => Form (fun ps => given (ps ≠ []) * listed (ps.map ofParam)) fun ps =>
    .node "params" (ps.map Outline.ofParam)
  | .param => Form ofParam Outline.ofParam
  | .typeRef => Form ofType Outline.ofType
  | .arrayRank => Form (fun _ : Unit => brackets 1) fun _ => .node "array_rank" []
  | .block => Form (fun b => braces (ofStmts b)) fun b => .node "block" (Outline.ofStmts b)
  | .ifStmt => Form (fun x : Expr × List Stmt × Else => ofStmt (.ite x.1 x.2.1 x.2.2)) fun x =>
    Outline.ofStmt (.ite x.1 x.2.1 x.2.2)
  | .statement | .localDecl | .assignStmt | .incdecStmt | .whileStmt | .forStmt | .foreachStmt
  | .returnStmt | .breakStmt | .continueStmt | .throwStmt | .tryStmt | .exprStmt =>
    Form ofStmt Outline.ofStmt
  | .declaration => Form ofDeclaration Outline.ofDeclaration
  | .assignment => Form (fun x : Target × AssignOp × Expr => ofAssign x.1 x.2.1 x.2.2) fun x =>
    Outline.ofAssign x.1 x.2.1 x.2.2
  | .incdec => Form (fun x : Target × StepOp => ofStep x.1 x.2) fun x => Outline.ofStep x.1 x.2
  | .lvalue => Form ofTarget Outline.ofTarget
  | .elseClause => Form ofElse Outline.ofElse
  | .forInit => Form ofForInit Outline.ofForInit
  | .forStep => Form ofForStep Outline.ofForStep
  | .catchClause => Form ofHandler Outline.ofHandler
  | .catchFilter => Form ofFilter Outline.ofFilter
  | .finallyClause => Form (fun b => word .kwFinally * braces (ofStmts b)) fun b =>
    .node "finally_clause" [.node "block" (Outline.ofStmts b)]
  | .expr => Form ofExpr Outline.ofExpr
  | .conditional => Form (fun e : Tight 0 => ofExpr e.1) fun e => Outline.ofExpr e.1
  | .orExpr => Form (fun e : Tight 1 => ofExpr e.1) fun e => Outline.ofExpr e.1
  | .andExpr => Form (fun e : Tight 2 => ofExpr e.1) fun e => Outline.ofExpr e.1
  | .equality => Form (fun e : Tight 3 => ofExpr e.1) fun e => Outline.ofExpr e.1
  | .comparison => Form (fun e : Tight 4 => ofExpr e.1) fun e => Outline.ofExpr e.1
  | .additive => Form (fun e : Tight 5 => ofExpr e.1) fun e => Outline.ofExpr e.1
  | .multiplicative => Form (fun e : Tight 6 => ofExpr e.1) fun e => Outline.ofExpr e.1
  | .unary => Form (fun e : Tight 7 => ofExpr e.1) fun e => Outline.ofExpr e.1
  | .postfixed => Form (fun e : Tight 8 => ofExpr e.1) fun e => Outline.ofExpr e.1
  | .primary => Form (fun e : Tight 9 => ofExpr e.1) fun e => Outline.ofExpr e.1
  | .arguments => Form (fun es => given (es ≠ []) * listed (es.map ofExpr)) fun es =>
    .node "arguments" (es.map Outline.ofExpr)

/-! ## Parts -/

/-- What parts derive are spellings of values, and they leave the outlines of these values. -/
def Reads {α : Type} (ps : List Part) (l : α → Language Token) (o : α → List Outline) : Prop :=
  ∀ ts os, Shaped Means ps ts os → ∃ a, ts ∈ l a ∧ os = o a

namespace Reads

variable {α β : Type} {ps xs : List Part} {l : α → Language Token} {o : α → List Outline}

theorem nil : Reads [] (fun _ : Unit => 1) fun _ => [] := by
  intro ts os h
  rw [Shaped] at h
  exact ⟨(), h.1, h.2⟩

theorem drop {k : Kind} (h : Reads ps l o) :
    Reads (.drop k :: ps) (fun a => fixed k * l a) o := by
  intro ts os hs
  rw [Shaped] at hs
  obtain ⟨t, us, ht, rfl, hus⟩ := hs
  obtain ⟨a, hl, ho⟩ := h us os hus
  exact ⟨a, Language.append_mem_mul (mem_fixed.mpr ⟨t, ht, rfl⟩) hl, ho⟩

theorem keep {ks : List Kind} (h : Reads ps l o) :
    Reads (.keep ks :: ps) (fun x : Token × α => kept ks x.1 * l x.2)
      fun x => .leaf x.1 :: o x.2 := by
  intro ts os hs
  rw [Shaped] at hs
  obtain ⟨t, us, qs, ht, rfl, rfl, hus⟩ := hs
  obtain ⟨a, hl, rfl⟩ := h us qs hus
  exact ⟨(t, a), Language.append_mem_mul (mem_kept.mpr ⟨ht, rfl⟩) hl, rfl⟩

theorem rule {r : Rule} {m : β → Language Token} {q : β → Outline} (hr : Means r = Form m q)
    (h : Reads ps l o) :
    Reads (.rule r :: ps) (fun x : β × α => m x.1 * l x.2) fun x => q x.1 :: o x.2 := by
  intro ts os hs
  rw [Shaped, hr] at hs
  obtain ⟨ts₁, ts₂, os₁, os₂, rfl, rfl, ⟨b, hm, rfl⟩, hrest⟩ := hs
  obtain ⟨a, hl, rfl⟩ := h ts₂ os₂ hrest
  exact ⟨(b, a), Language.append_mem_mul hm hl, rfl⟩

/-- An optional part. -/
theorem maybe {m : β → Language Token} {q : β → List Outline} (hx : Reads xs m q)
    (h : Reads ps l o) :
    Reads (.maybe xs :: ps) (fun x : Option β × α => Spelling.ofOption m x.1 * l x.2)
      fun x => x.1.elim (gaps xs) q ++ o x.2 := by
  intro ts os hs
  rw [Shaped] at hs
  obtain ⟨ts₁, ts₂, os₁, os₂, rfl, rfl, hsome, hrest⟩ := hs
  obtain ⟨a, hl, rfl⟩ := h ts₂ os₂ hrest
  rcases hsome with ⟨rfl, rfl⟩ | hsome
  · exact ⟨(none, a), Language.append_mem_mul rfl hl, rfl⟩
  · obtain ⟨b, hm, rfl⟩ := hx ts₁ os₁ hsome
    exact ⟨(some b, a), Language.append_mem_mul hm hl, rfl⟩

/-- Parts any number of times. -/
theorem many {m : β → Language Token} {q : β → List Outline} (hx : Reads xs m q)
    (h : Reads ps l o) :
    Reads (.many xs :: ps) (fun x : List β × α => (x.1.map m).prod * l x.2)
      fun x => x.1.flatMap q ++ o x.2 := by
  intro ts os hs
  rw [Shaped] at hs
  obtain ⟨ts₁, ts₂, os₁, os₂, rfl, rfl, hmany, hrest⟩ := hs
  obtain ⟨a, hl, rfl⟩ := h ts₂ os₂ hrest
  suffices hbs : ∃ bs : List β, ts₁ ∈ (bs.map m).prod ∧ os₁ = bs.flatMap q by
    obtain ⟨bs, hm, rfl⟩ := hbs
    exact ⟨(bs, a), Language.append_mem_mul hm hl, rfl⟩
  -- by induction on how often the parts are repeated
  clear hrest hl
  induction hmany with
  | nil => exact ⟨[], rfl, rfl⟩
  | cons hone _ ih =>
    obtain ⟨b, hm, rfl⟩ := hx _ _ hone
    obtain ⟨bs, hms, rfl⟩ := ih
    exact ⟨b :: bs, Language.append_mem_mul hm hms, rfl⟩

/-- Values can be put together in another way. -/
theorem map {m : β → Language Token} {q : β → List Outline} (h : Reads ps l o) (f : α → β)
    (hl : ∀ x, l x = m (f x)) (ho : ∀ x, o x = q (f x)) : Reads ps m q := by
  intro ts os hs
  obtain ⟨x, hx, rfl⟩ := h ts os hs
  exact ⟨f x, hl x ▸ hx, ho x⟩

/-- An optional rule on its own. -/
theorem option {r : Rule} {m : β → Language Token} {q : β → Outline} (hr : Means r = Form m q)
    (h : Reads ps l o) :
    Reads (.maybe [.rule r] :: ps) (fun x : Option β × α => Spelling.ofOption m x.1 * l x.2)
      fun x => Outline.ofOption q x.1 :: o x.2 := by
  refine (Reads.maybe (.rule hr .nil) h).map (fun x => (x.1.map Prod.fst, x.2)) ?_ ?_
  · rintro ⟨_ | x, y⟩
    · rfl
    · simp [Spelling.ofOption]
  · rintro ⟨_ | x, y⟩ <;> rfl

/-- An optional list with commas that is a node of its own. -/
theorem list {r : Rule} {f : β → Language Token} {g : β → Outline} {label : String}
    (hr : Means r = Form (fun bs => given (bs ≠ []) * listed (bs.map f))
      fun bs => .node label (bs.map g)) (h : Reads ps l o) :
    Reads (.maybe [.rule r] :: ps) (fun x : List β × α => listed (x.1.map f) * l x.2)
      fun x => Outline.ofList label g x.1 :: o x.2 := by
  intro ts os hs
  obtain ⟨⟨_ | bs, a⟩, hts, rfl⟩ := Reads.option hr h ts os hs
  · exact ⟨([], a), hts, rfl⟩
  · have hgiven : ts ∈ given (bs ≠ []) * listed (bs.map f) * l a := hts
    rw [mul_assoc, mem_given_mul] at hgiven
    refine ⟨(bs, a), hgiven.2, ?_⟩
    simp [Outline.ofOption, Outline.ofList, hgiven.1]

end Reads

/-! ## Alternatives -/

/-- An alternative makes a tree of its rule out of what its parts derive. -/
def Builds (r : Rule) (a : Alternative) : Prop :=
  ∀ ts os, Shaped Means a.parts ts os → Means r ts (a.result r os)

/-- An alternative builds the tree that a function makes out of what its parts read. -/
theorem Reads.builds {α β : Type} {r : Rule} {a : Alternative} {l : α → Language Token}
    {o : α → List Outline} {m : β → Language Token} {q : β → Outline} (h : Reads a.parts l o)
    (f : α → β) (hr : Means r = Form m q) (hl : ∀ x, l x = m (f x))
    (ho : ∀ x, a.result r (o x) = [q (f x)]) : Builds r a := by
  intro ts os hs
  obtain ⟨x, hx, rfl⟩ := h ts os hs
  rw [hr]
  exact ⟨f x, hl x ▸ hx, ho x⟩

/-- Every alternative in a list builds a tree of a rule. -/
def AllBuild (r : Rule) (as : List Alternative) : Prop := ∀ a ∈ as, Builds r a

theorem AllBuild.nil {r : Rule} : AllBuild r [] := List.forall_mem_nil _

theorem AllBuild.cons {r : Rule} {a : Alternative} {as : List Alternative} (h : Builds r a)
    (has : AllBuild r as) : AllBuild r (a :: as) :=
  List.forall_mem_cons.mpr ⟨h, has⟩

/-- An alternative of an inlined rule passes on what its only rule stands for. -/
theorem Builds.pass {α β : Type} {r s : Rule} {l : α → Language Token} {o : α → Outline}
    {m : β → Language Token} {q : β → Outline} (f : α → β) (hs : Means s = Form l o)
    (hr : Means r = Form m q) (hi : r.isInlined = true) (hl : ∀ x, l x = m (f x))
    (ho : ∀ x, o x = q (f x)) : Builds r (plain [.rule s]) := by
  refine Reads.builds (.rule hs .nil) (fun x => f x.1) hr (fun x => ?_) fun x => ?_
  · rw [mul_one, hl]
  · simp [Alternative.result, plain, hi, ho]

/-! ### Expressions -/

theorem means_levelRule {n : Nat} (hn : n ≤ 9) :
    Means (levelRule n) = Form (fun e : Tight n => ofExpr e.1) fun e => Outline.ofExpr e.1 := by
  interval_cases n <;> rfl

/-- Expressions of a level are expressions of the level below. -/
theorem Builds.weaken {n : Nat} (hn : n ≤ 8) :
    Builds (levelRule n) (plain [.rule (levelRule (n + 1))]) := by
  refine .pass (fun e : Tight (n + 1) => (⟨e.1, Nat.le_of_succ_le e.2⟩ : Tight n))
    (means_levelRule (by omega)) (means_levelRule (by omega)) ?_ (fun _ => rfl) fun _ => rfl
  interval_cases n <;> rfl

theorem Builds.binary (op : BinaryOp) :
    Builds (levelRule op.level) (infixed (Outline.binaryLabel op) (levelRule op.level) op.sign
      (levelRule (op.level + 1))) := by
  have hop := op.level_le_six
  refine Reads.builds
    (.rule (means_levelRule (by omega)) (.drop (.rule (means_levelRule (by omega)) .nil)))
    (fun x => (⟨.binary op x.1.1 x.2.1.1, le_rfl⟩ : Tight op.level)) (means_levelRule (by omega))
    (fun x => ?_) fun x => rfl
  have hlevels : op.level ≤ x.1.1.level ∧ op.level < x.2.1.1.level := ⟨x.1.2, x.2.1.2⟩
  rw [ofExpr, given_of hlevels]
  simp [Spelling.sign, mul_assoc]

theorem AllBuild.conditional : AllBuild .conditional Rule.conditional.alternatives := by
  refine .cons (.weaken (by omega : 0 ≤ 8)) (.cons (Reads.builds
    (.rule rfl (.drop (.rule rfl (.drop (.rule rfl .nil)))))
    (fun x => (⟨.choice x.1.1 x.2.1 x.2.2.1.1, le_rfl⟩ : Tight 0)) rfl (fun x => ?_)
    fun x => rfl) .nil)
  rw [ofExpr, given_of x.1.2]
  simp [Spelling.sign, mul_assoc]

theorem AllBuild.orExpr : AllBuild .orExpr Rule.orExpr.alternatives :=
  .cons (.weaken (by omega : 1 ≤ 8)) (.cons (.binary .or) .nil)

theorem AllBuild.andExpr : AllBuild .andExpr Rule.andExpr.alternatives :=
  .cons (.weaken (by omega : 2 ≤ 8)) (.cons (.binary .and) .nil)

theorem AllBuild.equality : AllBuild .equality Rule.equality.alternatives :=
  .cons (.weaken (by omega : 3 ≤ 8)) (.cons (.binary .eq) (.cons (.binary .ne) .nil))

theorem AllBuild.comparison : AllBuild .comparison Rule.comparison.alternatives :=
  .cons (.weaken (by omega : 4 ≤ 8)) (.cons (.binary .lt) (.cons (.binary .le)
    (.cons (.binary .gt) (.cons (.binary .ge) .nil))))

theorem AllBuild.additive : AllBuild .additive Rule.additive.alternatives :=
  .cons (.weaken (by omega : 5 ≤ 8)) (.cons (.binary .add) (.cons (.binary .sub) .nil))

theorem AllBuild.multiplicative : AllBuild .multiplicative Rule.multiplicative.alternatives :=
  .cons (.weaken (by omega : 6 ≤ 8)) (.cons (.binary .mul) (.cons (.binary .div)
    (.cons (.binary .mod) .nil)))

theorem Builds.unary (op : UnaryOp) :
    Builds .unary (under (Outline.unaryLabel op) [Grammar.sign op.sign, .rule .unary]) := by
  refine Reads.builds (.drop (.rule rfl .nil))
    (fun x => (⟨.unary op x.1.1, le_rfl⟩ : Tight 7)) rfl (fun x => ?_) fun x => rfl
  rw [ofExpr, given_of x.1.2]
  simp [Spelling.sign]

theorem AllBuild.unary : AllBuild .unary Rule.unary.alternatives :=
  .cons (.weaken (by omega : 7 ≤ 8)) (.cons (.unary .not) (.cons (.unary .neg) .nil))

theorem AllBuild.postfixed : AllBuild .postfixed Rule.postfixed.alternatives := by
  refine .cons (.weaken (by omega : 8 ≤ 8)) (.cons ?_ (.cons ?_ (.cons ?_ .nil)))
  · refine Reads.builds (.rule rfl (.drop (.keep .nil)))
      (fun x => (⟨.member x.1.1 x.2.1, le_rfl⟩ : Tight 8)) rfl (fun x => ?_) fun x => rfl
    rw [ofExpr, given_of x.1.2]
    simp [Spelling.sign, Spelling.name, mul_assoc]
  · refine Reads.builds (.rule rfl (.drop (.list rfl (.drop .nil))))
      (fun x => (⟨.call x.1.1 x.2.1, le_rfl⟩ : Tight 8)) rfl (fun x => ?_) fun x => ?_
    · rw [ofExpr, given_of x.1.2, ofExprs_eq_map]
      simp [parens, Spelling.sign, mul_assoc]
    · rw [Outline.ofExpr_call]
      rfl
  · refine Reads.builds (.rule rfl (.drop (.rule rfl (.drop .nil))))
      (fun x => (⟨.index x.1.1 x.2.1, le_rfl⟩ : Tight 8)) rfl (fun x => ?_) fun x => rfl
    rw [ofExpr, given_of x.1.2]
    simp [brackets, Spelling.sign, mul_assoc]

theorem Builds.token {kind : Kind} {label : String} (f : Token → Tight 9)
    (hl : ∀ t, ofExpr (f t).1 = kept [kind] t)
    (ho : ∀ t, Outline.ofExpr (f t).1 = .node label [.leaf t]) :
    Builds .primary (under label [.keep [kind]]) :=
  Reads.builds (.keep .nil) (fun x => f x.1) rfl (fun x => by rw [hl, mul_one])
    fun x => by rw [ho]; rfl

theorem Builds.word {k : Keyword} {label : String} (e : Tight 9)
    (hl : ofExpr e.1 = Spelling.word k) (ho : Outline.ofExpr e.1 = .node label []) :
    Builds .primary (under label [Grammar.word k]) :=
  Reads.builds (.drop .nil) (fun _ => e) rfl (fun x => by rw [hl, mul_one]; rfl)
    fun x => by rw [ho]; rfl

theorem AllBuild.primary : AllBuild .primary Rule.primary.alternatives := by
  refine .cons ?_ (.cons ?_ (.cons ?_ (.cons ?_ (.cons ?_ (.cons ?_ (.cons ?_ (.cons ?_ (.cons ?_
    (.cons ?_ (.cons ?_ (.cons ?_ .nil)))))))))))
  · exact .token (fun t => ⟨.number t, le_rfl⟩) (fun _ => rfl) fun _ => rfl
  · exact .token (fun t => ⟨.string t, le_rfl⟩) (fun _ => rfl) fun _ => rfl
  · exact .token (fun t => ⟨.char t, le_rfl⟩) (fun _ => rfl) fun _ => rfl
  · exact .word ⟨.true, le_rfl⟩ rfl rfl
  · exact .word ⟨.false, le_rfl⟩ rfl rfl
  · exact .word ⟨.null, le_rfl⟩ rfl rfl
  · exact .word ⟨.this, le_rfl⟩ rfl rfl
  · exact .token (fun t => ⟨.name t, le_rfl⟩) (fun _ => rfl) fun _ => rfl
  · refine Reads.builds (.drop (.rule rfl (.drop .nil)))
      (fun x => (⟨.group x.1, le_rfl⟩ : Tight 9)) rfl (fun x => ?_) fun x => rfl
    simp [ofExpr, parens, Spelling.sign, mul_assoc]
  · refine Reads.builds (.drop (.keep (.drop (.list rfl (.drop .nil)))))
      (fun x => (⟨.newObject x.1 x.2.1, le_rfl⟩ : Tight 9)) rfl (fun x => ?_) fun x => ?_
    · simp [ofExpr, ofExprs_eq_map, parens, Spelling.word, Spelling.name, Spelling.sign, mul_assoc]
    · rw [Outline.ofExpr_newObject]
      rfl
  · refine Reads.builds (.drop (.keep (.drop (.rule rfl (.drop .nil)))))
      (fun x => (⟨.newArray x.1 x.2.1, le_rfl⟩ : Tight 9)) rfl (fun x => ?_) fun x => rfl
    simp [ofExpr, brackets, Spelling.word, Spelling.name, Spelling.sign, mul_assoc]
  · refine Reads.builds (.drop (.keep (.rule rfl (.drop (.list rfl (.drop .nil))))))
      (fun x => (⟨.elements x.1 x.2.2.1, le_rfl⟩ : Tight 9)) rfl (fun x => ?_) fun x => ?_
    · simp [ofExpr, ofExprs_eq_map, braces, Spelling.word, Spelling.name, Spelling.sign, mul_assoc]
    · rw [Outline.ofExpr_elements]
      rfl

theorem Builds.list {α : Type} {r s : Rule} {f : α → Language Token} {g : α → Outline}
    (hs : Means s = Form f g)
    (hr : Means r = Form (fun as => given (as ≠ []) * listed (as.map f))
      fun as => .node r.title (as.map g)) (hi : r.isInlined = false) :
    Builds r (plain [.rule s, .many [Grammar.sign .comma, .rule s]]) := by
  refine Reads.builds (.rule hs (.many (.drop (.rule hs .nil)) .nil))
    (fun x => x.1 :: x.2.1.map Prod.fst) hr (fun x => ?_) fun x => ?_
  · rw [given_of (List.cons_ne_nil _ _), one_mul, List.map_cons, listed, separated_cons,
      List.map_map, List.map_map]
    simp [Spelling.sign, Function.comp_def]
  · simp [Alternative.result, plain, hi, ← List.map_eq_flatMap, Function.comp_def]

theorem AllBuild.arguments : AllBuild .arguments Rule.arguments.alternatives :=
  .cons (.list rfl rfl rfl) .nil

/-! ### Targets and declarations -/

theorem AllBuild.arrayRank : AllBuild .arrayRank Rule.arrayRank.alternatives :=
  .cons (Reads.builds (.drop (.drop .nil)) id rfl
    (fun _ => by simp [brackets, Spelling.sign]) fun _ => rfl) .nil

theorem AllBuild.typeRef : AllBuild .typeRef Rule.typeRef.alternatives := by
  refine .cons (Reads.builds (.keep (.many (.rule rfl .nil) .nil))
    (fun x => ⟨x.1, x.2.1.length⟩) rfl (fun x => ?_) fun x => ?_) .nil
  · simp [ofType, Spelling.name, List.map_const']
  · simp [Alternative.result, plain, Rule.isInlined, Rule.title, Outline.ofType,
      ← List.map_eq_flatMap, List.map_const']

/-- A value after a sign. -/
theorem Reads.value {α : Type} {ps : List Part} {l : α → Language Token}
    {o : α → List Outline} (h : Reads ps l o) :
    Reads (.maybe [Grammar.sign .assign, .rule .expr] :: ps)
      (fun x : Option Expr × α => ofValue x.1 * l x.2)
      fun x => Outline.ofOption Outline.ofExpr x.1 :: o x.2 := by
  refine (Reads.maybe (.drop (.rule rfl .nil)) h).map (fun x => (x.1.map Prod.fst, x.2)) ?_ ?_
  · rintro ⟨_ | x, y⟩
    · rfl
    · simp [ofValue, Spelling.ofOption, Spelling.sign]
  · rintro ⟨_ | x, y⟩ <;> rfl

theorem AllBuild.declaration : AllBuild .declaration Rule.declaration.alternatives := by
  refine .cons (Reads.builds (.rule rfl (.keep (.value .nil)))
    (fun x => ⟨x.1, x.2.1, x.2.2.1⟩) rfl (fun x => ?_) fun x => rfl) .nil
  simp [ofDeclaration, Spelling.name, mul_assoc]

theorem AllBuild.lvalue : AllBuild .lvalue Rule.lvalue.alternatives := by
  refine .cons ?_ (.cons ?_ (.cons ?_ .nil))
  · exact Reads.builds (.keep .nil) (fun x => .name x.1) rfl (fun x => mul_one _) fun x => rfl
  · refine Reads.builds (.rule rfl (.drop (.keep .nil)))
      (fun x => .member x.1.1 x.2.1) rfl (fun x => ?_) fun x => rfl
    rw [ofTarget, given_of x.1.2]
    simp [Spelling.sign, Spelling.name, mul_assoc]
  · refine Reads.builds (.rule rfl (.drop (.rule rfl (.drop .nil))))
      (fun x => .index x.1.1 x.2.1) rfl (fun x => ?_) fun x => rfl
    rw [ofTarget, given_of x.1.2]
    simp [brackets, Spelling.sign, mul_assoc]

theorem Builds.assignment (op : AssignOp) :
    Builds .assignment (infixed (Outline.assignLabel op) .lvalue op.sign .expr) := by
  refine Reads.builds (.rule rfl (.drop (.rule rfl .nil))) (fun x => (x.1, op, x.2.1)) rfl
    (fun x => ?_) fun x => rfl
  simp [ofAssign, Spelling.sign, mul_assoc]

theorem AllBuild.assignment : AllBuild .assignment Rule.assignment.alternatives :=
  .cons (.assignment .set) (.cons (.assignment .add) (.cons (.assignment .sub)
    (.cons (.assignment .mul) (.cons (.assignment .div) (.cons (.assignment .mod) .nil)))))

theorem Builds.incdec (op : StepOp) :
    Builds .incdec (under (Outline.stepLabel op) [.rule .lvalue, Grammar.sign op.sign]) :=
  Reads.builds (.rule rfl (.drop .nil)) (fun x => (x.1, op)) rfl
    (fun x => by simp [ofStep, Spelling.sign]) fun x => rfl

theorem AllBuild.incdec : AllBuild .incdec Rule.incdec.alternatives :=
  .cons (.incdec .increment) (.cons (.incdec .decrement) .nil)

theorem AllBuild.forInit : AllBuild .forInit Rule.forInit.alternatives :=
  .cons (.pass ForInit.declare rfl rfl rfl (fun _ => rfl) fun _ => rfl)
    (.cons (.pass (fun x => ForInit.assign x.1 x.2.1 x.2.2) rfl rfl rfl (fun _ => rfl)
      fun _ => rfl) .nil)

theorem AllBuild.forStep : AllBuild .forStep Rule.forStep.alternatives :=
  .cons (.pass (fun x => ForStep.assign x.1 x.2.1 x.2.2) rfl rfl rfl (fun _ => rfl) fun _ => rfl)
    (.cons (.pass (fun x => ForStep.step x.1 x.2) rfl rfl rfl (fun _ => rfl) fun _ => rfl)
      (.cons (.pass ForStep.expr rfl rfl rfl (fun _ => rfl) fun _ => rfl) .nil))

/-! ### Statements -/

theorem AllBuild.block : AllBuild .block Rule.block.alternatives := by
  refine .cons (Reads.builds (.drop (.many (.rule rfl .nil) (.drop .nil)))
    (fun x => x.1.map Prod.fst) rfl (fun x => ?_) fun x => ?_) .nil
  · simp [ofStmts_eq_prod, braces, Spelling.sign, mul_assoc, Function.comp_def]
  · simp [Alternative.result, plain, Rule.isInlined, Rule.title, Outline.ofStmts_eq_map,
      ← List.map_eq_flatMap, Function.comp_def]

theorem AllBuild.ifStmt : AllBuild .ifStmt Rule.ifStmt.alternatives := by
  refine .cons (Reads.builds (.drop (.drop (.rule rfl (.drop (.rule rfl (.option rfl .nil))))))
    (fun x => (x.1, x.2.1, x.2.2.1.getD .none)) rfl (fun x => ?_) fun x => ?_) .nil
  · obtain ⟨c, b, _ | r, x⟩ := x <;>
      simp [ofStmt, parens, Spelling.ofOption, ofElse, Spelling.word, Spelling.sign, mul_assoc]
  · obtain ⟨c, b, _ | r, x⟩ := x <;> rfl

theorem AllBuild.elseClause : AllBuild .elseClause Rule.elseClause.alternatives := by
  refine .cons ?_ (.cons ?_ .nil)
  · exact Reads.builds (.drop (.rule rfl .nil)) (fun x => .block x.1) rfl
      (fun x => by simp [ofElse, Spelling.word]) fun x => rfl
  · exact Reads.builds (.drop (.rule rfl .nil)) (fun x => .elseIf x.1.1 x.1.2.1 x.1.2.2) rfl
      (fun x => by simp [ofElse, ofStmt, Spelling.word]) fun x => rfl

theorem AllBuild.whileStmt : AllBuild .whileStmt Rule.whileStmt.alternatives := by
  refine .cons (Reads.builds (.drop (.drop (.rule rfl (.drop (.rule rfl .nil)))))
    (fun x => .while x.1 x.2.1) rfl (fun x => ?_) fun x => rfl) .nil
  simp [ofStmt, parens, Spelling.word, Spelling.sign, mul_assoc]

theorem AllBuild.forStmt : AllBuild .forStmt Rule.forStmt.alternatives := by
  refine .cons (Reads.builds (.drop (.drop (.option rfl (.drop (.option rfl (.drop
    (.option rfl (.drop (.rule rfl .nil)))))))))
    (fun x => .for x.1 x.2.1 x.2.2.1 x.2.2.2.1) rfl (fun x => ?_) fun x => rfl) .nil
  simp [ofStmt, parens, Spelling.word, Spelling.sign, mul_assoc]

theorem AllBuild.foreachStmt : AllBuild .foreachStmt Rule.foreachStmt.alternatives := by
  refine .cons (Reads.builds (.drop (.drop (.rule rfl (.keep (.drop (.rule rfl (.drop
    (.rule rfl .nil)))))))) (fun x => .foreach x.1 x.2.1 x.2.2.1 x.2.2.2.1) rfl
    (fun x => ?_) fun x => rfl) .nil
  simp [ofStmt, parens, Spelling.word, Spelling.sign, Spelling.name, mul_assoc]

/-- A keyword, an optional expression and a semicolon. -/
theorem Builds.jump {r : Rule} {k : Keyword} (f : Option Expr → Stmt)
    (hr : Means r = Form ofStmt Outline.ofStmt) (hi : r.isInlined = false)
    (hl : ∀ e, ofStmt (f e) = Spelling.word k * Spelling.ofOption ofExpr e * sign .semicolon)
    (ho : ∀ e, Outline.ofStmt (f e) = .node r.title [Outline.ofOption Outline.ofExpr e]) :
    Builds r (plain [Grammar.word k, .maybe [.rule .expr], Grammar.sign .semicolon]) := by
  refine Reads.builds (.drop (.option rfl (.drop .nil))) (fun x => f x.1) hr (fun x => ?_)
    fun x => ?_
  · simp [hl, Spelling.word, Spelling.sign, mul_assoc]
  · simp [ho, Alternative.result, plain, hi]

theorem AllBuild.returnStmt : AllBuild .returnStmt Rule.returnStmt.alternatives :=
  .cons (.jump .ret rfl rfl (fun _ => rfl) fun _ => rfl) .nil

theorem AllBuild.throwStmt : AllBuild .throwStmt Rule.throwStmt.alternatives :=
  .cons (.jump .throw rfl rfl (fun _ => rfl) fun _ => rfl) .nil

theorem AllBuild.breakStmt : AllBuild .breakStmt Rule.breakStmt.alternatives :=
  .cons (Reads.builds (.drop (.drop .nil)) (fun _ => .brk) rfl
    (fun _ => by simp [ofStmt, Spelling.word, Spelling.sign]) fun _ => rfl) .nil

theorem AllBuild.continueStmt : AllBuild .continueStmt Rule.continueStmt.alternatives :=
  .cons (Reads.builds (.drop (.drop .nil)) (fun _ => .cont) rfl
    (fun _ => by simp [ofStmt, Spelling.word, Spelling.sign]) fun _ => rfl) .nil

theorem AllBuild.tryStmt : AllBuild .tryStmt Rule.tryStmt.alternatives := by
  refine .cons ?_ (.cons ?_ .nil)
  -- at least one handler, or none
  · refine Reads.builds (.drop (.rule rfl (.rule rfl (.many (.rule rfl .nil) (.option rfl .nil)))))
      (fun x => .attempt x.1 (x.2.1 :: x.2.2.1.map Prod.fst) x.2.2.2.1) rfl (fun x => ?_)
      fun x => ?_
    · obtain ⟨b, h, hs, _ | f, x⟩ := x <;>
        simp [ofStmt, ofHandlers_eq_prod, Spelling.ofOption, given_of, Spelling.word, mul_assoc,
          Function.comp_def]
    · obtain ⟨b, h, hs, _ | f, x⟩ := x <;>
        simp [Outline.ofStmt, Outline.ofHandlers_eq_map, Outline.ofOption, Alternative.result,
          plain, Rule.isInlined, Rule.title, ← List.map_eq_flatMap, Function.comp_def]
  · refine Reads.builds (.drop (.rule rfl (.rule rfl .nil)))
      (fun x => .attempt x.1 [] (some x.2.1)) rfl (fun x => ?_) fun x => rfl
    simp [ofStmt, ofHandlers, Spelling.word, mul_assoc]

theorem AllBuild.catchClause : AllBuild .catchClause Rule.catchClause.alternatives := by
  refine .cons (Reads.builds (.drop (.option rfl (.rule rfl .nil))) (fun x => .mk x.1 x.2.1) rfl
    (fun x => ?_) fun x => rfl) .nil
  simp [ofHandler, Spelling.word, mul_assoc]

theorem AllBuild.catchFilter : AllBuild .catchFilter Rule.catchFilter.alternatives := by
  refine .cons (Reads.builds (.drop (.keep (.maybe (.keep .nil) (.drop .nil))))
    (fun x => ⟨x.1, x.2.1.map Prod.fst⟩) rfl (fun x => ?_) fun x => ?_) .nil
  · obtain ⟨t, _ | n, x⟩ := x <;>
      simp [ofFilter, parens, Spelling.ofOption, Spelling.name, Spelling.sign, mul_assoc]
  · obtain ⟨t, _ | n, x⟩ := x <;> rfl

theorem AllBuild.finallyClause : AllBuild .finallyClause Rule.finallyClause.alternatives :=
  .cons (Reads.builds (.drop (.rule rfl .nil)) (fun x => x.1) rfl
    (fun x => by simp [Spelling.word]) fun x => rfl) .nil

theorem AllBuild.localDecl : AllBuild .localDecl Rule.localDecl.alternatives :=
  .cons (Reads.builds (.rule rfl (.drop .nil)) (fun x => .declare x.1) rfl
    (fun x => by simp [ofStmt, Spelling.sign]) fun x => rfl) .nil

theorem AllBuild.assignStmt : AllBuild .assignStmt Rule.assignStmt.alternatives :=
  .cons (Reads.builds (.rule rfl (.drop .nil)) (fun x => .assign x.1.1 x.1.2.1 x.1.2.2) rfl
    (fun x => by simp [ofStmt, Spelling.sign]) fun x => rfl) .nil

theorem AllBuild.incdecStmt : AllBuild .incdecStmt Rule.incdecStmt.alternatives :=
  .cons (Reads.builds (.rule rfl (.drop .nil)) (fun x => .step x.1.1 x.1.2) rfl
    (fun x => by simp [ofStmt, Spelling.sign]) fun x => rfl) .nil

theorem AllBuild.exprStmt : AllBuild .exprStmt Rule.exprStmt.alternatives :=
  .cons (Reads.builds (.rule rfl (.drop .nil)) (fun x => .expr x.1) rfl
    (fun x => by simp [ofStmt, Spelling.sign]) fun x => rfl) .nil

theorem AllBuild.statement : AllBuild .statement Rule.statement.alternatives := by
  have same {r : Rule} (hr : Means r = Form ofStmt Outline.ofStmt) :
      Builds .statement (plain [.rule r]) :=
    .pass id hr rfl rfl (fun _ => rfl) fun _ => rfl
  exact .cons (same rfl) (.cons (same rfl) (.cons (same rfl) (.cons
    (.pass (fun x => .ite x.1 x.2.1 x.2.2) rfl rfl rfl (fun _ => rfl) fun _ => rfl)
    (.cons (same rfl) (.cons (same rfl) (.cons (same rfl) (.cons (same rfl) (.cons (same rfl)
      (.cons (same rfl) (.cons (same rfl) (.cons (same rfl) (.cons (same rfl)
        (.cons (.pass .block rfl rfl rfl (fun _ => rfl) fun _ => rfl) .nil)))))))))))))

/-! ### Classes and files -/

theorem AllBuild.param : AllBuild .param Rule.param.alternatives :=
  .cons (Reads.builds (.rule rfl (.keep .nil)) (fun x => ⟨x.1, x.2.1⟩) rfl
    (fun x => by simp [ofParam, Spelling.name]) fun x => rfl) .nil

theorem AllBuild.params : AllBuild .params Rule.params.alternatives :=
  .cons (.list rfl rfl rfl) .nil

theorem AllBuild.modifiers : AllBuild .modifiers Rule.modifiers.alternatives := by
  refine .cons (Reads.builds (.many (.keep .nil) .nil) (fun x => x.1.map Prod.fst) rfl
    (fun x => ?_) fun x => ?_) .nil
  · simp [ofModifiers, Function.comp_def]
  · simp [Alternative.result, plain, Rule.isInlined, Rule.title, Outline.ofModifiers,
      ← List.map_eq_flatMap, Function.comp_def]

theorem AllBuild.fieldDecl : AllBuild .fieldDecl Rule.fieldDecl.alternatives := by
  refine .cons (Reads.builds (.rule rfl (.rule rfl (.keep (.value (.drop .nil)))))
    (fun x => .field x.1 ⟨x.2.1, x.2.2.1, x.2.2.2.1⟩) rfl (fun x => ?_) fun x => rfl) .nil
  simp [ofMember, ofDeclaration, Spelling.name, Spelling.sign, mul_assoc]

theorem AllBuild.methodDecl : AllBuild .methodDecl Rule.methodDecl.alternatives := by
  refine .cons (Reads.builds
    (.rule rfl (.rule rfl (.keep (.drop (.list rfl (.drop (.rule rfl .nil)))))))
    (fun x => .method x.1 x.2.1 x.2.2.1 x.2.2.2.1 x.2.2.2.2.1) rfl (fun x => ?_) fun x => rfl) .nil
  simp [ofMember, ofParams, parens, Spelling.name, Spelling.sign, mul_assoc]

theorem AllBuild.ctorDecl : AllBuild .ctorDecl Rule.ctorDecl.alternatives := by
  refine .cons (Reads.builds (.rule rfl (.keep (.drop (.list rfl (.drop (.rule rfl .nil))))))
    (fun x => .constructor x.1 x.2.1 x.2.2.1 x.2.2.2.1) rfl (fun x => ?_) fun x => rfl) .nil
  simp [ofMember, ofParams, parens, Spelling.name, Spelling.sign, mul_assoc]

theorem AllBuild.member : AllBuild .member Rule.member.alternatives := by
  have same {r : Rule} (hr : Means r = Form ofMember Outline.ofMember) :
      Builds .member (plain [.rule r]) :=
    .pass id hr rfl rfl (fun _ => rfl) fun _ => rfl
  exact .cons (same rfl) (.cons (same rfl) (.cons (same rfl) .nil))

theorem AllBuild.baseClause : AllBuild .baseClause Rule.baseClause.alternatives :=
  .cons (Reads.builds (.drop (.keep .nil)) (fun x => x.1) rfl
    (fun x => by simp [Spelling.sign, Spelling.name]) fun x => rfl) .nil

theorem AllBuild.typeDecl : AllBuild .typeDecl Rule.typeDecl.alternatives := by
  refine .cons (Reads.builds
    (.rule rfl (.drop (.keep (.option rfl (.drop (.many (.rule rfl .nil) (.drop .nil)))))))
    (fun x => ⟨⟨x.1, x.2.1, x.2.2.1⟩, x.2.2.2.1.map Prod.fst⟩) rfl (fun x => ?_) fun x => ?_) .nil
  · simp [ofClass, ofHead, braces, Spelling.word, Spelling.sign, Spelling.name, mul_assoc,
      Function.comp_def]
  · simp [Alternative.result, plain, Rule.isInlined, Rule.title, Outline.ofClass,
      ← List.map_eq_flatMap, Function.comp_def]

theorem AllBuild.qualifiedName : AllBuild .qualifiedName Rule.qualifiedName.alternatives := by
  refine .cons (Reads.builds (.keep (.many (.drop (.keep .nil)) .nil))
    (fun x => x.1 :: x.2.1.map Prod.fst) rfl (fun x => ?_) fun x => ?_) .nil
  · rw [ofQualified, given_of (List.cons_ne_nil _ _), one_mul, List.map_cons, separated_cons,
      List.map_map, List.map_map]
    simp [Spelling.sign, Spelling.name, Function.comp_def]
  · simp [Alternative.result, plain, Rule.isInlined, Rule.title, ← List.map_eq_flatMap,
      Function.comp_def]

theorem AllBuild.usingDirective : AllBuild .usingDirective Rule.usingDirective.alternatives := by
  refine .cons (Reads.builds (.drop (.rule rfl (.drop .nil))) (fun x => x.1) rfl
    (fun x => ?_) fun x => rfl) .nil
  simp [ofUsing, Spelling.word, Spelling.sign, mul_assoc]

theorem AllBuild.start : AllBuild .start Rule.start.alternatives := by
  refine .cons (Reads.builds (.many (.rule rfl .nil) (.many (.rule rfl .nil) .nil))
    (fun x => ⟨x.1.map Prod.fst, x.2.1.map Prod.fst⟩) rfl (fun x => ?_) fun x => ?_) .nil
  · simp [ofFile, Function.comp_def]
  · simp [Alternative.result, plain, Rule.isInlined, Rule.title, Outline.ofFile,
      ← List.map_eq_flatMap, Function.comp_def]

/-! ## All rules -/

theorem AllBuild.alternatives (r : Rule) : AllBuild r r.alternatives := by
  cases r with
  | start => exact start
  | usingDirective => exact usingDirective
  | qualifiedName => exact qualifiedName
  | typeDecl => exact typeDecl
  | baseClause => exact baseClause
  | modifiers => exact modifiers
  | member => exact member
  | fieldDecl => exact fieldDecl
  | methodDecl => exact methodDecl
  | ctorDecl => exact ctorDecl
  | params => exact params
  | param => exact param
  | typeRef => exact typeRef
  | arrayRank => exact arrayRank
  | block => exact block
  | statement => exact statement
  | localDecl => exact localDecl
  | declaration => exact declaration
  | assignStmt => exact assignStmt
  | assignment => exact assignment
  | incdecStmt => exact incdecStmt
  | incdec => exact incdec
  | lvalue => exact lvalue
  | ifStmt => exact ifStmt
  | elseClause => exact elseClause
  | whileStmt => exact whileStmt
  | forStmt => exact forStmt
  | forInit => exact forInit
  | forStep => exact forStep
  | foreachStmt => exact foreachStmt
  | returnStmt => exact returnStmt
  | breakStmt => exact breakStmt
  | continueStmt => exact continueStmt
  | throwStmt => exact throwStmt
  | tryStmt => exact tryStmt
  | catchClause => exact catchClause
  | catchFilter => exact catchFilter
  | finallyClause => exact finallyClause
  | exprStmt => exact exprStmt
  | expr =>
    exact .cons (.pass (fun e => e.1) (s := .conditional) rfl rfl rfl (fun _ => rfl) fun _ => rfl)
      .nil
  | conditional => exact conditional
  | orExpr => exact orExpr
  | andExpr => exact andExpr
  | equality => exact equality
  | comparison => exact comparison
  | additive => exact additive
  | multiplicative => exact multiplicative
  | unary => exact unary
  | postfixed => exact postfixed
  | primary => exact primary
  | arguments => exact arguments

/-- What a rule derives is what it stands for. -/
theorem Means.of_derives {r : Rule} {ts : List Token} {os : List Outline}
    (h : Derives [.rule r] ts os) : Means r ts os := by
  have hshaped := h.shaped AllBuild.alternatives
  rw [Shaped] at hshaped
  obtain ⟨ts₁, ts₂, os₁, os₂, rfl, rfl, hr, hrest⟩ := hshaped
  rw [Shaped] at hrest
  obtain ⟨rfl, rfl⟩ := hrest
  rwa [List.append_nil, List.append_nil]

/-- The grammar derives exactly the spellings of files, and leaves their outlines. -/
theorem derives_start_iff {ts : List Token} {os : List Outline} :
    Derives [.rule .start] ts os ↔ ∃ f, ts ∈ ofFile f ∧ os = [Outline.ofFile f] := by
  constructor
  · exact Means.of_derives
  · rintro ⟨f, hts, rfl⟩
    exact Yields.file f ts hts

end BraceScript.Syntax
