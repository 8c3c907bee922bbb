import BraceScript.Proofs.Syntax.Parser
import Mathlib

/-!
# Trees with other tokens

An `Exchange` puts other tokens into a tree: others for the names of variables, and others for the
rest. The shape of the tree stays. When every token is exchanged for one of its kind, the spellings
of the new tree are those of the old one with the tokens exchanged (`map_ofFile_le`), so a list of
tokens is read just as the exchanged list is (`parseTokens_map`).
-/

namespace BraceScript.Syntax

/-- Which tokens are put in the place of others: for the names of variables, and for the rest. -/
structure Exchange where
  bare : Token → Token
  other : Token → Token

/-- The exchange that treats all tokens alike. -/
def Exchange.uniform (g : Token → Token) : Exchange := ⟨g, g⟩

@[simp]
theorem Exchange.uniform_bare (g : Token → Token) : (uniform g).bare = g := rfl

@[simp]
theorem Exchange.uniform_other (g : Token → Token) : (uniform g).other = g := rfl

/-! ## Trees -/

mutual

/-- An expression with other tokens. -/
def Expr.exchange (g : Exchange) : Expr → Expr
  | .number t => .number (g.other t)
  | .string t => .string (g.other t)
  | .char t => .char (g.other t)
  | .true => .true
  | .false => .false
  | .null => .null
  | .this => .this
  | .name t => .name (g.bare t)
  | .group e => .group (e.exchange g)
  | .member e n => .member (e.exchange g) (g.other n)
  | .call f as => .call (f.exchange g) (Expr.exchangeAll g as)
  | .index e i => .index (e.exchange g) (i.exchange g)
  | .unary op e => .unary op (e.exchange g)
  | .binary op l r => .binary op (l.exchange g) (r.exchange g)
  | .choice c a b => .choice (c.exchange g) (a.exchange g) (b.exchange g)
  | .newObject t as => .newObject (g.other t) (Expr.exchangeAll g as)
  | .newArray t e => .newArray (g.other t) (e.exchange g)
  | .elements t as => .elements (g.other t) (Expr.exchangeAll g as)

/-- Expressions with other tokens. -/
def Expr.exchangeAll (g : Exchange) : List Expr → List Expr
  | [] => []
  | e :: es => e.exchange g :: Expr.exchangeAll g es

end

/-- A type with another name. -/
def TypeRef.exchange (g : Exchange) (t : TypeRef) : TypeRef := ⟨g.other t.name, t.rank⟩

/-- The declaration of a variable with other tokens. -/
def Declaration.exchange (g : Exchange) (d : Declaration) : Declaration :=
  ⟨d.type.exchange g, g.bare d.name, d.value.map (Expr.exchange g)⟩

/-- The declaration of a field with other tokens. -/
def Declaration.exchangeField (g : Exchange) (d : Declaration) : Declaration :=
  ⟨d.type.exchange g, g.other d.name, d.value.map (Expr.exchange g)⟩

/-- A target with other tokens. -/
def Target.exchange (g : Exchange) : Target → Target
  | .name t => .name (g.bare t)
  | .member e n => .member (e.exchange g) (g.other n)
  | .index e i => .index (e.exchange g) (i.exchange g)

/-- The first part of a `for` head with other tokens. -/
def ForInit.exchange (g : Exchange) : ForInit → ForInit
  | .declare d => .declare (d.exchange g)
  | .assign t op e => .assign (t.exchange g) op (e.exchange g)

/-- The last part of a `for` head with other tokens. -/
def ForStep.exchange (g : Exchange) : ForStep → ForStep
  | .assign t op e => .assign (t.exchange g) op (e.exchange g)
  | .step t op => .step (t.exchange g) op
  | .expr e => .expr (e.exchange g)

/-- A filter with other tokens. -/
def CatchFilter.exchange (g : Exchange) (f : CatchFilter) : CatchFilter :=
  ⟨g.other f.type, f.name.map g.bare⟩

mutual

/-- A statement with other tokens. -/
def Stmt.exchange (g : Exchange) : Stmt → Stmt
  | .declare d => .declare (d.exchange g)
  | .assign t op e => .assign (t.exchange g) op (e.exchange g)
  | .step t op => .step (t.exchange g) op
  | .ite c b r => .ite (c.exchange g) (Stmt.exchangeAll g b) (r.exchange g)
  | .while c b => .while (c.exchange g) (Stmt.exchangeAll g b)
  | .for i c s b => .for (i.map (ForInit.exchange g)) (c.map (Expr.exchange g))
      (s.map (ForStep.exchange g)) (Stmt.exchangeAll g b)
  | .foreach t n e b =>
    .foreach (t.exchange g) (g.bare n) (e.exchange g) (Stmt.exchangeAll g b)
  | .ret e => .ret (e.map (Expr.exchange g))
  | .brk => .brk
  | .cont => .cont
  | .throw e => .throw (e.map (Expr.exchange g))
  | .attempt b hs none => .attempt (Stmt.exchangeAll g b) (Handler.exchangeAll g hs) none
  | .attempt b hs (some f) =>
    .attempt (Stmt.exchangeAll g b) (Handler.exchangeAll g hs) (some (Stmt.exchangeAll g f))
  | .expr e => .expr (e.exchange g)
  | .block b => .block (Stmt.exchangeAll g b)

/-- Statements with other tokens. -/
def Stmt.exchangeAll (g : Exchange) : List Stmt → List Stmt
  | [] => []
  | s :: ss => s.exchange g :: Stmt.exchangeAll g ss

/-- The rest of a conditional with other tokens. -/
def Else.exchange (g : Exchange) : Else → Else
  | .none => .none
  | .block b => .block (Stmt.exchangeAll g b)
  | .elseIf c b r => .elseIf (c.exchange g) (Stmt.exchangeAll g b) (r.exchange g)

/-- Handlers with other tokens. -/
def Handler.exchangeAll (g : Exchange) : List Handler → List Handler
  | [] => []
  | .mk f b :: hs =>
    .mk (f.map (CatchFilter.exchange g)) (Stmt.exchangeAll g b) :: Handler.exchangeAll g hs

end

/-- A parameter with other tokens. -/
def Param.exchange (g : Exchange) (p : Param) : Param := ⟨p.type.exchange g, g.bare p.name⟩

/-- A member with other tokens. -/
def Member.exchange (g : Exchange) : Member → Member
  | .field ms d => .field (ms.map g.other) (d.exchangeField g)
  | .method ms t n ps b => .method (ms.map g.other) (t.exchange g) (g.other n)
      (ps.map (Param.exchange g)) (Stmt.exchangeAll g b)
  | .constructor ms n ps b => .constructor (ms.map g.other) (g.other n)
      (ps.map (Param.exchange g)) (Stmt.exchangeAll g b)

/-- The head of a class with other tokens. -/
def ClassHead.exchange (g : Exchange) (h : ClassHead) : ClassHead :=
  ⟨h.modifiers.map g.other, g.other h.name, h.base.map g.other⟩

/-- A class with other tokens. -/
def ClassDecl.exchange (g : Exchange) (c : ClassDecl) : ClassDecl :=
  ⟨c.toClassHead.exchange g, c.members.map (Member.exchange g)⟩

/-- A file with other tokens. -/
def SourceFile.exchange (g : Exchange) (f : SourceFile) : SourceFile :=
  ⟨f.usings.map (List.map g.other), f.classes.map (ClassDecl.exchange g)⟩

theorem Expr.exchangeAll_eq_map (g : Exchange) (es : List Expr) :
    Expr.exchangeAll g es = es.map (Expr.exchange g) := by
  induction es with
  | nil => rfl
  | cons e es ih => rw [exchangeAll, ih, List.map_cons]

theorem Stmt.exchangeAll_eq_map (g : Exchange) (ss : List Stmt) :
    Stmt.exchangeAll g ss = ss.map (Stmt.exchange g) := by
  induction ss with
  | nil => rfl
  | cons s ss ih => rw [exchangeAll, ih, List.map_cons]

mutual

theorem Expr.exchange_id : ∀ e : Expr, e.exchange (.uniform id) = e
  | .number _ | .string _ | .char _ | .true | .false | .null | .this | .name _ => rfl
  | .group e => by rw [exchange, exchange_id e]
  | .member e _ => by rw [exchange, exchange_id e]; rfl
  | .call f as => by rw [exchange, exchange_id f, exchangeAll_id as]
  | .index e i => by rw [exchange, exchange_id e, exchange_id i]
  | .unary _ e => by rw [exchange, exchange_id e]
  | .binary _ l r => by rw [exchange, exchange_id l, exchange_id r]
  | .choice c a b => by rw [exchange, exchange_id c, exchange_id a, exchange_id b]
  | .newObject _ as => by rw [exchange, exchangeAll_id as]; rfl
  | .newArray _ e => by rw [exchange, exchange_id e]; rfl
  | .elements _ as => by rw [exchange, exchangeAll_id as]; rfl

theorem Expr.exchangeAll_id : ∀ es : List Expr, Expr.exchangeAll (.uniform id) es = es
  | [] => rfl
  | e :: es => by rw [exchangeAll, exchange_id e, exchangeAll_id es]

end

@[simp]
theorem Expr.level_exchange (g : Exchange) (e : Expr) : (e.exchange g).level = e.level := by
  cases e <;> rfl

/-! ## Spellings -/

namespace Spelling

open Grammar (modifierKinds)

/-- What is in one set of token lists is in another one when its tokens are exchanged. -/
def Into (g : Token → Token) (l l' : Language Token) : Prop := ∀ ts ∈ l, ts.map g ∈ l'

namespace Into

variable {g : Token → Token} {k k' l l' : Language Token}

theorem one : Into g 1 1 := by
  rintro _ rfl
  rfl

theorem mul (hk : Into g k k') (hl : Into g l l') : Into g (k * l) (k' * l') := by
  rintro _ ⟨us, hus, vs, hvs, rfl⟩
  exact ⟨us.map g, hk us hus, vs.map g, hl vs hvs, List.map_append.symm⟩

theorem given {p q : Prop} (h : p → q) : Into g (given p) (given q) := by
  rintro _ ⟨hp, rfl⟩
  exact ⟨h hp, rfl⟩

theorem prod {α β : Type} {f : α → Language Token} {f' : β → Language Token} {x : α → β}
    {as : List α} (h : ∀ a ∈ as, Into g (f a) (f' (x a))) :
    Into g (as.map f).prod ((as.map x).map f').prod := by
  induction as with
  | nil => exact one
  | cons a as ih =>
    obtain ⟨ha, has⟩ := List.forall_mem_cons.mp h
    simp only [List.map_cons, List.prod_cons]
    exact ha.mul (ih has)

theorem option {α β : Type} {f : α → Language Token} {f' : β → Language Token} {x : α → β}
    (h : ∀ a, Into g (f a) (f' (x a))) (o : Option α) :
    Into g (ofOption f o) (ofOption f' (o.map x)) := by
  cases o with
  | none => exact one
  | some a => exact h a

theorem separated {α β : Type} {s : Language Token} {f : α → Language Token}
    {f' : β → Language Token} {x : α → β} {as : List α} (hs : Into g s s)
    (h : ∀ a ∈ as, Into g (f a) (f' (x a))) :
    Into g (separated s (as.map f)) (separated s ((as.map x).map f')) := by
  cases as with
  | nil => exact one
  | cons a as =>
    obtain ⟨ha, has⟩ := List.forall_mem_cons.mp h
    have hrest : Into g (as.map fun a => s * f a).prod ((as.map x).map fun b => s * f' b).prod :=
      prod fun a ha => hs.mul (has a ha)
    simp only [List.map_cons, separated_cons, List.map_map] at hrest ⊢
    exact ha.mul hrest

end Into

section

variable {g : Token → Token} (hg : ∀ t, (g t).kind = t.kind)
include hg

theorem Into.fixed {k : Kind} : Into g (fixed k) (fixed k) := by
  rintro _ ⟨t, rfl, rfl⟩
  exact ⟨g t, hg t, rfl⟩

theorem Into.kept {ks : List Kind} {t : Token} : Into g (kept ks t) (kept ks (g t)) := by
  rintro _ ⟨ht, rfl⟩
  exact ⟨by rwa [hg], rfl⟩

theorem Into.parens {l l' : Language Token} (h : Into g l l') : Into g (parens l) (parens l') :=
  ((fixed hg).mul h).mul (fixed hg)

theorem Into.brackets {l l' : Language Token} (h : Into g l l') :
    Into g (brackets l) (brackets l') :=
  ((fixed hg).mul h).mul (fixed hg)

theorem Into.braces {l l' : Language Token} (h : Into g l l') : Into g (braces l) (braces l') :=
  ((fixed hg).mul h).mul (fixed hg)

theorem into_ofExpr (e : Expr) : Into g (ofExpr e) (ofExpr (e.exchange (.uniform g))) := by
  induction e using Expr.byOperands with
  | _ e ih =>
    have hlist : ∀ as : List Expr, (∀ a ∈ as, a ∈ e.operands) →
        Into g (listed (ofExprs as)) (listed (ofExprs (Expr.exchangeAll (.uniform g) as))) := by
      intro as has
      rw [ofExprs_eq_map, ofExprs_eq_map, Expr.exchangeAll_eq_map]
      exact .separated (.fixed hg) fun a ha => ih a (has a ha)
    -- An operand binds as tightly as before.
    have hlevel : ∀ {n : Nat} {e : Expr}, n ≤ e.level →
        n ≤ (e.exchange (.uniform g)).level := fun h => by rwa [Expr.level_exchange]
    cases e with
    | number t | string t | char t | name t => exact .kept hg
    | true | false | null | this => exact .fixed hg
    | group e => exact .parens hg (ih e (by simp [Expr.operands]))
    | member e n =>
      have he := ih e (by simp [Expr.operands])
      exact (((Into.given hlevel).mul he).mul (.fixed hg)).mul (.kept hg)
    | call f as =>
      have hf := ih f (by simp [Expr.operands])
      have has := hlist as (by simp +contextual [Expr.operands])
      exact ((Into.given hlevel).mul hf).mul (.parens hg has)
    | index e i =>
      have he := ih e (by simp [Expr.operands])
      have hi := ih i (by simp [Expr.operands])
      exact ((Into.given hlevel).mul he).mul (.brackets hg hi)
    | unary op e =>
      have he := ih e (by simp [Expr.operands])
      exact ((Into.given hlevel).mul (.fixed hg)).mul he
    | binary op l r =>
      have hl := ih l (by simp [Expr.operands])
      have hr := ih r (by simp [Expr.operands])
      have hlevels : op.level ≤ l.level ∧ op.level < r.level →
          op.level ≤ (l.exchange (.uniform g)).level
            ∧ op.level < (r.exchange (.uniform g)).level :=
        And.imp hlevel hlevel
      exact (((Into.given hlevels).mul hl).mul (.fixed hg)).mul hr
    | choice c a b =>
      have hc := ih c (by simp [Expr.operands])
      have ha := ih a (by simp [Expr.operands])
      have hb := ih b (by simp [Expr.operands])
      exact (((((Into.given hlevel).mul hc).mul (.fixed hg)).mul ha).mul (.fixed hg)).mul hb
    | newObject t as =>
      have has := hlist as (by simp [Expr.operands])
      exact ((Into.fixed hg).mul (.kept hg)).mul (.parens hg has)
    | newArray t e =>
      have he := ih e (by simp [Expr.operands])
      exact ((Into.fixed hg).mul (.kept hg)).mul (.brackets hg he)
    | elements t as =>
      have has := hlist as (by simp [Expr.operands])
      exact (((Into.fixed hg).mul (.kept hg)).mul (.brackets hg .one)).mul (.braces hg has)

theorem into_ofType (t : TypeRef) : Into g (ofType t) (ofType (t.exchange (.uniform g))) := by
  have hranks : ∀ n : ℕ, Into g (brackets 1 ^ n) (brackets 1 ^ n) := by
    intro n
    induction n with
    | zero => exact .one
    | succ n ih =>
      rw [pow_succ]
      exact ih.mul (.brackets hg .one)
  exact (Into.kept hg).mul (hranks t.rank)

theorem into_ofValue (e : Option Expr) :
    Into g (ofValue e) (ofValue (e.map (Expr.exchange (.uniform g)))) := by
  cases e with
  | none => exact .one
  | some e => exact (Into.fixed hg).mul (into_ofExpr hg e)

theorem into_ofDeclaration (d : Declaration) :
    Into g (ofDeclaration d) (ofDeclaration (d.exchange (.uniform g))) :=
  ((into_ofType hg d.type).mul (.kept hg)).mul (into_ofValue hg d.value)

theorem into_ofTarget (t : Target) : Into g (ofTarget t) (ofTarget (t.exchange (.uniform g))) := by
  have hlevel : ∀ {e : Expr}, 8 ≤ e.level → 8 ≤ (e.exchange (.uniform g)).level :=
    fun h => by rwa [Expr.level_exchange]
  cases t with
  | name t => exact .kept hg
  | member e n =>
    exact (((Into.given hlevel).mul (into_ofExpr hg e)).mul (.fixed hg)).mul (.kept hg)
  | index e i =>
    exact ((Into.given hlevel).mul (into_ofExpr hg e)).mul (.brackets hg (into_ofExpr hg i))

theorem into_ofAssign (t : Target) (op : AssignOp) (e : Expr) :
    Into g (ofAssign t op e) (ofAssign (t.exchange (.uniform g)) op (e.exchange (.uniform g))) :=
  ((into_ofTarget hg t).mul (.fixed hg)).mul (into_ofExpr hg e)

theorem into_ofForInit (i : ForInit) :
    Into g (ofForInit i) (ofForInit (i.exchange (.uniform g))) := by
  cases i with
  | declare d => exact into_ofDeclaration hg d
  | assign t op e => exact into_ofAssign hg t op e

theorem into_ofForStep (s : ForStep) :
    Into g (ofForStep s) (ofForStep (s.exchange (.uniform g))) := by
  cases s with
  | assign t op e => exact into_ofAssign hg t op e
  | step t op => exact (into_ofTarget hg t).mul (.fixed hg)
  | expr e => exact into_ofExpr hg e

theorem into_ofFilter (f : CatchFilter) :
    Into g (ofFilter f) (ofFilter (f.exchange (.uniform g))) :=
  .parens hg ((Into.kept hg).mul (.option (fun _ => .kept hg) f.name))

end

mutual

theorem into_ofStmt {g : Token → Token} (hg : ∀ t, (g t).kind = t.kind) :
    ∀ s : Stmt, Into g (ofStmt s) (ofStmt (s.exchange (.uniform g)))
  | .declare d => (into_ofDeclaration hg d).mul (.fixed hg)
  | .assign t op e => (into_ofAssign hg t op e).mul (.fixed hg)
  | .step t op => ((into_ofTarget hg t).mul (.fixed hg)).mul (.fixed hg)
  | .ite c b r =>
    (((Into.fixed hg).mul (.parens hg (into_ofExpr hg c))).mul
      (.braces hg (into_ofStmts hg b))).mul (into_ofElse hg r)
  | .while c b =>
    ((Into.fixed hg).mul (.parens hg (into_ofExpr hg c))).mul (.braces hg (into_ofStmts hg b))
  | .for i c s b =>
    have hhead := ((((Into.option (into_ofForInit hg) i).mul (.fixed hg)).mul
      (.option (into_ofExpr hg) c)).mul (.fixed hg)).mul (.option (into_ofForStep hg) s)
    ((Into.fixed hg).mul (.parens hg hhead)).mul (.braces hg (into_ofStmts hg b))
  | .foreach t n e b =>
    have hhead := (((into_ofType hg t).mul (.kept hg)).mul (.fixed hg)).mul (into_ofExpr hg e)
    ((Into.fixed hg).mul (.parens hg hhead)).mul (.braces hg (into_ofStmts hg b))
  | .ret e => ((Into.fixed hg).mul (.option (into_ofExpr hg) e)).mul (.fixed hg)
  | .brk => (Into.fixed hg).mul (.fixed hg)
  | .cont => (Into.fixed hg).mul (.fixed hg)
  | .throw e => ((Into.fixed hg).mul (.option (into_ofExpr hg) e)).mul (.fixed hg)
  | .attempt b hs none =>
    have hsome : hs ≠ [] → Handler.exchangeAll (.uniform g) hs ≠ [] := by
      intro hne
      cases hs with
      | nil => exact absurd rfl hne
      | cons h hs =>
        obtain ⟨f, b⟩ := h
        simp [Handler.exchangeAll]
    (((Into.given hsome).mul (.fixed hg)).mul (.braces hg (into_ofStmts hg b))).mul
      (into_ofHandlers hg hs)
  | .attempt b hs (some f) =>
    ((((Into.fixed hg).mul (.braces hg (into_ofStmts hg b))).mul (into_ofHandlers hg hs)).mul
      (.fixed hg)).mul (.braces hg (into_ofStmts hg f))
  | .expr e => (into_ofExpr hg e).mul (.fixed hg)
  | .block b => .braces hg (into_ofStmts hg b)

theorem into_ofStmts {g : Token → Token} (hg : ∀ t, (g t).kind = t.kind) :
    ∀ ss : List Stmt, Into g (ofStmts ss) (ofStmts (Stmt.exchangeAll (.uniform g) ss))
  | [] => .one
  | s :: ss => (into_ofStmt hg s).mul (into_ofStmts hg ss)

theorem into_ofElse {g : Token → Token} (hg : ∀ t, (g t).kind = t.kind) :
    ∀ r : Else, Into g (ofElse r) (ofElse (r.exchange (.uniform g)))
  | .none => .one
  | .block b => (Into.fixed hg).mul (.braces hg (into_ofStmts hg b))
  | .elseIf c b r =>
    (Into.fixed hg).mul ((((Into.fixed hg).mul (.parens hg (into_ofExpr hg c))).mul
      (.braces hg (into_ofStmts hg b))).mul (into_ofElse hg r))

theorem into_ofHandlers {g : Token → Token} (hg : ∀ t, (g t).kind = t.kind) :
    ∀ hs : List Handler, Into g (ofHandlers hs) (ofHandlers (Handler.exchangeAll (.uniform g) hs))
  | [] => .one
  | .mk f b :: hs =>
    (((Into.fixed hg).mul (.option (into_ofFilter hg) f)).mul (.braces hg (into_ofStmts hg b))).mul
      (into_ofHandlers hg hs)

end

section

variable {g : Token → Token} (hg : ∀ t, (g t).kind = t.kind)
include hg

theorem into_ofModifiers (ms : List Token) : Into g (ofModifiers ms) (ofModifiers (ms.map g)) :=
  .prod fun _ _ => .kept hg

theorem into_ofParams (ps : List Param) :
    Into g (ofParams ps) (ofParams (ps.map (Param.exchange (.uniform g)))) :=
  .parens hg (.separated (.fixed hg) fun p _ => (into_ofType hg p.type).mul (.kept hg))

theorem into_ofMember (m : Member) :
    Into g (ofMember m) (ofMember (m.exchange (.uniform g))) := by
  cases m with
  | field ms d =>
    exact ((into_ofModifiers hg ms).mul (into_ofDeclaration hg d)).mul (.fixed hg)
  | method ms t n ps b =>
    exact ((((into_ofModifiers hg ms).mul (into_ofType hg t)).mul (.kept hg)).mul
      (into_ofParams hg ps)).mul (.braces hg (into_ofStmts hg b))
  | constructor ms n ps b =>
    exact (((into_ofModifiers hg ms).mul (.kept hg)).mul (into_ofParams hg ps)).mul
      (.braces hg (into_ofStmts hg b))

theorem into_ofHead (h : ClassHead) : Into g (ofHead h) (ofHead (h.exchange (.uniform g))) := by
  have hbase : Into g (ofOption (fun b => sign .colon * name b) h.base)
      (ofOption (fun b => sign .colon * name b) (h.base.map g)) := by
    cases h.base with
    | none => exact .one
    | some b => exact (Into.fixed hg).mul (.kept hg)
  exact (((into_ofModifiers hg h.modifiers).mul (.fixed hg)).mul (.kept hg)).mul hbase

theorem into_ofClass (c : ClassDecl) :
    Into g (ofClass c) (ofClass (c.exchange (.uniform g))) :=
  (into_ofHead hg c.toClassHead).mul (.braces hg (.prod fun m _ => into_ofMember hg m))

theorem into_ofUsing (ns : List Token) : Into g (ofUsing ns) (ofUsing (ns.map g)) := by
  have hsome : ns ≠ [] → ns.map g ≠ [] := fun h => by simpa using h
  have hnames : Into g (separated (sign .dot) (ns.map name))
      (separated (sign .dot) ((ns.map g).map name)) :=
    .separated (.fixed hg) fun _ _ => .kept hg
  exact ((Into.fixed hg).mul ((Into.given hsome).mul hnames)).mul (.fixed hg)

/-- A file with other tokens is spelled with these tokens. -/
theorem into_ofFile (f : SourceFile) : Into g (ofFile f) (ofFile (f.exchange (.uniform g))) :=
  (Into.prod fun ns _ => into_ofUsing hg ns).mul (.prod fun c _ => into_ofClass hg c)

end

end Spelling

/-- A list of tokens is read as the tree with the tokens that stand in it. -/
theorem parseTokens_map {g : Token → Token} (hg : ∀ t, (g t).kind = t.kind) {ts : List Token}
    {f : SourceFile} (h : parseTokens ts = .ok f) :
    parseTokens (ts.map g) = .ok (f.exchange (.uniform g)) := by
  rw [parseTokens_eq_ok_iff] at h ⊢
  exact Spelling.into_ofFile hg f ts h

end BraceScript.Syntax
