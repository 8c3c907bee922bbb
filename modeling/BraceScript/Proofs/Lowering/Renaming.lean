import BraceScript.Lowering.Class
import BraceScript.Proofs.Syntax.Exchange
import Mathlib

/-!
# Other names in code

`Expr.rename` and `Stmt.rename` put other names into generated code: for what is read, for what is
assigned, and for the types of handlers. Attributes keep their names. When the names of variables
are exchanged in a tree, the code of the new tree is the old code with other names
(`stmtCode_exchange`), as long as the new names fit (`Fits`): each bare name has to be read as the
renamed one, and what is no variable has to keep its name. When all names stay, so does the code.
-/

namespace BraceScript.Code

/-! ## Code -/

mutual

/-- An expression with other names. -/
def Expr.rename (r : String → String) : Expr → Expr
  | .name x => .name (r x)
  | .number t => .number t
  | .text t => .text t
  | .true => .true
  | .false => .false
  | .none => .none
  | .group e => .group (e.rename r)
  | .list es => .list (Expr.renameAll r es)
  | .attr e x => .attr (e.rename r) x
  | .call f es => .call (f.rename r) (Expr.renameAll r es)
  | .index e i => .index (e.rename r) (i.rename r)
  | .unary op e => .unary op (e.rename r)
  | .binary op a b => .binary op (a.rename r) (b.rename r)
  | .choose v c o => .choose (v.rename r) (c.rename r) (o.rename r)

/-- Expressions with other names. -/
def Expr.renameAll (r : String → String) : List Expr → List Expr
  | [] => []
  | e :: es => e.rename r :: Expr.renameAll r es

end

mutual

/-- A statement with other names. -/
def Stmt.rename (r : String → String) : Stmt → Stmt
  | .pass => .pass
  | .expr e => .expr (e.rename r)
  | .assign t e => .assign (t.rename r) (e.rename r)
  | .augment t op e => .augment (t.rename r) op (e.rename r)
  | .ret e => .ret (e.map (Expr.rename r))
  | .raise e => .raise (e.map (Expr.rename r))
  | .brk => .brk
  | .cont => .cont
  | .ite c b t => .ite (c.rename r) (Stmt.renameAll r b) (t.rename r)
  | .while c b => .while (c.rename r) (Stmt.renameAll r b)
  | .forIn x e b => .forIn (r x) (e.rename r) (Stmt.renameAll r b)
  | .attempt b hs none => .attempt (Stmt.renameAll r b) (Handler.renameAll r hs) none
  | .attempt b hs (some f) =>
    .attempt (Stmt.renameAll r b) (Handler.renameAll r hs) (some (Stmt.renameAll r f))

/-- Statements with other names. -/
def Stmt.renameAll (r : String → String) : List Stmt → List Stmt
  | [] => []
  | s :: ss => s.rename r :: Stmt.renameAll r ss

/-- The rest of a conditional with other names. -/
def Tail.rename (r : String → String) : Tail → Tail
  | .none => .none
  | .otherwise b => .otherwise (Stmt.renameAll r b)
  | .elif c b t => .elif (c.rename r) (Stmt.renameAll r b) (t.rename r)

/-- Handlers with other names. -/
def Handler.renameAll (r : String → String) : List Handler → List Handler
  | [] => []
  | .mk t x b :: hs => .mk (r t) (x.map r) (Stmt.renameAll r b) :: Handler.renameAll r hs

end

/-- A function with other names; it is still called the same. -/
def Function.rename (r : String → String) (f : Function) : Function :=
  ⟨f.name, f.params.map fun p => ⟨r p.name, p.hint⟩, f.isStatic, Stmt.renameAll r f.body⟩

@[simp]
theorem Stmt.renameAll_append (r : String → String) (ss ts : List Stmt) :
    Stmt.renameAll r (ss ++ ts) = Stmt.renameAll r ss ++ Stmt.renameAll r ts := by
  induction ss with
  | nil => rfl
  | cons s ss ih => rw [List.cons_append, renameAll, ih, renameAll, List.cons_append]

@[simp]
theorem Stmt.isEmpty_renameAll (r : String → String) (ss : List Stmt) :
    (Stmt.renameAll r ss).isEmpty = ss.isEmpty := by
  cases ss <;> rfl

/-! ## Keeping all names -/

mutual

theorem Expr.rename_id : ∀ e : Expr, e.rename id = e
  | .name _ | .number _ | .text _ | .true | .false | .none => rfl
  | .group e => by rw [rename, rename_id e]
  | .list es => by rw [rename, renameAll_id es]
  | .attr e x => by rw [rename, rename_id e]
  | .call f es => by rw [rename, rename_id f, renameAll_id es]
  | .index e i => by rw [rename, rename_id e, rename_id i]
  | .unary op e => by rw [rename, rename_id e]
  | .binary op a b => by rw [rename, rename_id a, rename_id b]
  | .choose v c o => by rw [rename, rename_id v, rename_id c, rename_id o]

theorem Expr.renameAll_id : ∀ es : List Expr, Expr.renameAll id es = es
  | [] => rfl
  | e :: es => by rw [renameAll, rename_id e, renameAll_id es]

end

theorem Expr.map_rename_id (e : Option Expr) : e.map (Expr.rename id) = e := by
  cases e with
  | none => rfl
  | some e => rw [Option.map_some, rename_id]

mutual

theorem Stmt.rename_id : ∀ s : Stmt, s.rename id = s
  | .pass | .brk | .cont => rfl
  | .expr e => by rw [Stmt.rename, Expr.rename_id]
  | .assign t e => by rw [Stmt.rename, Expr.rename_id, Expr.rename_id]
  | .augment t op e => by rw [Stmt.rename, Expr.rename_id, Expr.rename_id]
  | .ret e => by rw [Stmt.rename, Expr.map_rename_id]
  | .raise e => by rw [Stmt.rename, Expr.map_rename_id]
  | .ite c b t => by rw [Stmt.rename, Expr.rename_id, Stmt.renameAll_id b, Tail.rename_id t]
  | .while c b => by rw [Stmt.rename, Expr.rename_id, Stmt.renameAll_id b]
  | .forIn x e b => by rw [Stmt.rename, Expr.rename_id, Stmt.renameAll_id b, id]
  | .attempt b hs none => by rw [Stmt.rename, Stmt.renameAll_id b, Handler.renameAll_id hs]
  | .attempt b hs (some f) => by
    rw [Stmt.rename, Stmt.renameAll_id b, Handler.renameAll_id hs, Stmt.renameAll_id f]

theorem Stmt.renameAll_id : ∀ ss : List Stmt, Stmt.renameAll id ss = ss
  | [] => rfl
  | s :: ss => by rw [Stmt.renameAll, Stmt.rename_id s, Stmt.renameAll_id ss]

theorem Tail.rename_id : ∀ t : Tail, t.rename id = t
  | .none => rfl
  | .otherwise b => by rw [Tail.rename, Stmt.renameAll_id b]
  | .elif c b t => by rw [Tail.rename, Expr.rename_id, Stmt.renameAll_id b, Tail.rename_id t]

theorem Handler.renameAll_id : ∀ hs : List Handler, Handler.renameAll id hs = hs
  | [] => rfl
  | .mk t x b :: hs => by
    rw [Handler.renameAll, Stmt.renameAll_id b, Handler.renameAll_id hs, Option.map_id]
    rfl

end

/-! ## Composed expressions -/

namespace Expr

variable {r : String → String}

theorem rename_apply {f : String} (hf : r f = f) (es : List Expr) :
    (apply f es).rename r = apply f (renameAll r es) := by
  rw [apply, rename, rename, hf]
  rfl

/-- A trailer goes to the same place in the renamed expression. -/
theorem rename_trail (f f' : Expr → Expr) (hf : ∀ e, (f e).rename r = f' (e.rename r))
    (e : Expr) : (e.trail f).rename r = (e.rename r).trail f' := by
  fun_induction trail f e with
  | case1 a b ih =>
    rw [rename, ih, rename, trail]
  | case2 e hne =>
    rw [hf]
    cases e with
    | binary op a b =>
      rw [rename, trail]
      rintro a' b' ⟨⟩
      exact hne a b rfl
    | _ => simp only [rename, trail]

theorem rename_times (l e : Expr) : (l.times e).rename r = (l.rename r).times (e.rename r) := by
  fun_induction times l e with
  | case1 a b ih => rw [rename, ih, rename, times]
  | case2 e hne =>
    cases e with
    | binary op a b =>
      rw [rename, rename, times]
      rintro a' b' ⟨⟩
      exact hne a b rfl
    | _ => simp only [rename, times]

theorem rename_negated (e : Expr) : e.negated.rename r = (e.rename r).negated := by
  fun_induction negated e with
  | case1 a b ih => rw [rename, ih, rename, negated]
  | case2 e hne =>
    cases e with
    | binary op a b =>
      rw [rename, rename, negated]
      rintro a' b' ⟨⟩
      exact hne a b rfl
    | _ => simp only [rename, negated]

theorem rename_withAttr (x : String) (e : Expr) :
    (e.withAttr x).rename r = (e.rename r).withAttr x := by
  cases e with
  | number n =>
    simp only [rename, withAttr]
    split <;> rfl
  | _ => simp only [rename, withAttr]

end Expr

end BraceScript.Code

namespace BraceScript.Lowering

open Syntax
open Code (ident)

/-! ## Names in trees -/

/-- What a tree uses a name for. -/
inductive NameUse
  /-- It is read or assigned to. -/
  | bare (x : String)
  /-- It is declared as a variable. -/
  | declared (x : String)
  /-- It names a type whose value is needed. -/
  | type (x : String)

mutual

/-- The names in an expression. -/
def uses : Expr → List NameUse
  | .name t => [.bare t.text]
  | .group e | .member e _ | .unary _ e | .newArray _ e => uses e
  | .call f as => uses f ++ allUses as
  | .index l r | .binary _ l r => uses l ++ uses r
  | .choice c a b => uses c ++ uses a ++ uses b
  | .newObject t as => .type t.text :: allUses as
  | .elements _ as => allUses as
  | .number _ | .string _ | .char _ | .true | .false | .null | .this => []

/-- The names in expressions. -/
def allUses : List Expr → List NameUse
  | [] => []
  | e :: es => uses e ++ allUses es

end

/-- The names in an optional expression. -/
def optionUses : Option Expr → List NameUse
  | none => []
  | some e => uses e

/-- The names in a target. -/
def targetUses : Target → List NameUse
  | .name t => [.bare t.text]
  | .member e _ => uses e
  | .index e i => uses e ++ uses i

/-- The names in the declaration of a variable. -/
def declarationUses (d : Declaration) : List NameUse :=
  .declared d.name.text :: optionUses d.value

/-- The names in the first part of a `for` head. -/
def forInitUses : Option ForInit → List NameUse
  | none => []
  | some (.declare d) => declarationUses d
  | some (.assign t _ e) => targetUses t ++ uses e

/-- The names in the last part of a `for` head. -/
def forStepUses : Option ForStep → List NameUse
  | none => []
  | some (.assign t _ e) => targetUses t ++ uses e
  | some (.step t _) => targetUses t
  | some (.expr e) => uses e

/-- The names in a filter. -/
def filterUses : Option CatchFilter → List NameUse
  | none => []
  | some ⟨t, none⟩ => [.type t.text]
  | some ⟨t, some x⟩ => [.type t.text, .declared x.text]

mutual

/-- The names in a statement. -/
def stmtUses : Stmt → List NameUse
  | .declare d => declarationUses d
  | .assign t _ e => targetUses t ++ uses e
  | .step t _ => targetUses t
  | .ite c b r => uses c ++ bodyUses b ++ elseUses r
  | .while c b => uses c ++ bodyUses b
  | .for i c s b => forInitUses i ++ optionUses c ++ forStepUses s ++ bodyUses b
  | .foreach _ x e b => .declared x.text :: uses e ++ bodyUses b
  | .ret e => optionUses e
  | .brk | .cont => []
  | .throw e => optionUses e
  | .attempt b hs none => bodyUses b ++ handlerUses hs
  | .attempt b hs (some f) => bodyUses b ++ handlerUses hs ++ bodyUses f
  | .expr e => uses e
  | .block b => bodyUses b

/-- The names in statements. -/
def bodyUses : List Stmt → List NameUse
  | [] => []
  | s :: ss => stmtUses s ++ bodyUses ss

/-- The names in the rest of a conditional. -/
def elseUses : Else → List NameUse
  | .none => []
  | .block b => bodyUses b
  | .elseIf c b r => uses c ++ bodyUses b ++ elseUses r

/-- The names in handlers. -/
def handlerUses : List Handler → List NameUse
  | [] => []
  | .mk f b :: hs => filterUses f ++ bodyUses b ++ handlerUses hs

end

/-! ## Renaming -/

/-- The names that lowering puts into code by itself. -/
def helperIdents : List String :=
  [Code.selfName, "len", "_cs_str", "_cs_add", "_cs_div", "_cs_mod", "Exception"]

/-- An exchange that renames variables by `ρ`, and identifiers of code by `r`. -/
structure Renames (g : Exchange) (ρ r : String → String) : Prop where
  bare : ∀ t, (g.bare t).text = ρ t.text
  other : ∀ t, (g.other t).text = t.text
  helper : ∀ x ∈ helperIdents, r x = x

/-- A renaming that keeps the names of flags. -/
def KeepsFlags (r : String → String) : Prop := ∀ n, r (flagName n) = flagName n

/-- A name is used alike in a scope `s` and, renamed, in a scope `s'`. -/
def Fits (ρ r : String → String) (s s' : Scope) : NameUse → Prop
  | .bare x => s'.codeOf (ρ x) = (s.codeOf x).rename r
  | .declared x => ident (ρ x) = r (ident x)
  | .type x => r (ident x) = ident x

section

variable {g : Exchange} {ρ r : String → String} {s s' : Scope}

theorem rename_defaultValue (name : String) (rank : Nat) :
    (defaultValue name rank).rename r = defaultValue name rank := by
  have hvalues : ∀ v ∈ defaultValues, v.2.rename r = v.2 := by
    intro v hv
    simp only [defaultValues, List.mem_cons, List.not_mem_nil, or_false] at hv
    rcases hv with rfl | rfl | rfl | rfl | rfl | rfl | rfl | rfl <;> rfl
  unfold defaultValue
  split
  · rfl
  · cases hv : defaultValues.lookup name with
    | none => rfl
    | some v =>
      obtain ⟨k, hk⟩ : ∃ k, (k, v) ∈ defaultValues := by
        obtain ⟨l₁, l₂, h, -⟩ := List.lookup_eq_some_iff.mp hv
        exact ⟨name, by rw [h]; simp⟩
      exact hvalues _ hk

theorem rename_binaryCode (hg : Renames g ρ r) (op : BinaryOp) (a b : Code.Expr) :
    (binaryCode op a b).rename r = binaryCode op (a.rename r) (b.rename r) := by
  cases op with
  | add | div | mod => exact Code.Expr.rename_apply (hg.helper _ (by decide)) _
  | mul =>
    show Code.Expr.group ((a.times b).rename r) = _
    rw [Code.Expr.rename_times]
    rfl
  | _ => rfl

theorem rename_unaryCode (op : UnaryOp) (e : Code.Expr) :
    (unaryCode op e).rename r = unaryCode op (e.rename r) := by
  cases op with
  | not => rfl
  | neg =>
    show Code.Expr.group (e.negated.rename r) = _
    rw [Code.Expr.rename_negated]
    rfl

theorem rename_memberCode (hg : Renames g ρ r) (e : Code.Expr) (x : String) :
    (memberCode e x).rename r = memberCode (e.rename r) x := by
  unfold memberCode
  split
  · exact Code.Expr.rename_apply (hg.helper _ (by decide)) _
  · exact Code.Expr.rename_trail _ _ (Code.Expr.rename_withAttr _) e

theorem rename_callCode (hg : Renames g ρ r) (text : Option Code.Expr) (callee : Code.Expr)
    (as : List Code.Expr) : (callCode text callee as).rename r
      = callCode (text.map (Code.Expr.rename r)) (callee.rename r) (Code.Expr.renameAll r as) := by
  have hcall : ∀ as, (callee.trail (.call · as)).rename r
      = (callee.rename r).trail (.call · (Code.Expr.renameAll r as)) := fun as =>
    Code.Expr.rename_trail (.call · as) (.call · (Code.Expr.renameAll r as)) (fun _ => rfl) callee
  cases text with
  | none => exact hcall as
  | some e =>
    cases as with
    | nil => exact Code.Expr.rename_apply (hg.helper _ (by decide)) _
    | cons a as => exact hcall (a :: as)

mutual

theorem codeOf_exchange (hg : Renames g ρ r) : ∀ e : Expr, (∀ u ∈ uses e, Fits ρ r s s' u) →
    codeOf s' (e.exchange g) = (codeOf s e).rename r
  | .number t, _ | .string t, _ | .char t, _ => by
    simp only [Expr.exchange, codeOf, hg.other, Code.Expr.rename]
  | .true, _ | .false, _ | .null, _ => rfl
  | .this, _ => by
    simp only [Expr.exchange, codeOf, Code.Expr.rename]
    rw [hg.helper _ (by decide)]
  | .name t, h => by
    rw [Expr.exchange, codeOf, hg.bare]
    exact h (.bare t.text) (List.mem_singleton.mpr rfl)
  | .group e, h => codeOf_exchange hg e h
  | .member e x, h => by
    rw [Expr.exchange, codeOf, codeOf_exchange hg e h, hg.other, codeOf, rename_memberCode hg]
  | .call f as, h => by
    have hf := fun u hu => h u (List.mem_append_left _ hu)
    have has := fun u hu => h u (List.mem_append_right _ hu)
    rw [Expr.exchange, codeOf, codeOf_exchange hg f hf, codesOf_exchange hg as has,
      textCode_exchange hg f hf, codeOf, rename_callCode hg]
  | .index e i, h => by
    have he := codeOf_exchange hg e fun u hu => h u (List.mem_append_left _ hu)
    have hi := codeOf_exchange hg i fun u hu => h u (List.mem_append_right _ hu)
    rw [Expr.exchange, codeOf, he, hi, codeOf]
    exact (Code.Expr.rename_trail (.index · (codeOf s i)) _ (fun _ => rfl) _).symm
  | .unary op e, h => by
    rw [Expr.exchange, codeOf, codeOf_exchange hg e h, codeOf, rename_unaryCode]
  | .binary op a b, h => by
    have ha := codeOf_exchange hg a fun u hu => h u (List.mem_append_left _ hu)
    have hb := codeOf_exchange hg b fun u hu => h u (List.mem_append_right _ hu)
    rw [Expr.exchange, codeOf, ha, hb, codeOf, rename_binaryCode hg]
  | .choice c a b, h => by
    have hc := codeOf_exchange hg c fun u hu =>
      h u (List.mem_append_left _ (List.mem_append_left _ hu))
    have ha := codeOf_exchange hg a fun u hu =>
      h u (List.mem_append_left _ (List.mem_append_right _ hu))
    have hb := codeOf_exchange hg b fun u hu => h u (List.mem_append_right _ hu)
    rw [Expr.exchange, codeOf, hc, ha, hb]
    rfl
  | .newObject t as, h => by
    have ht : r (ident t.text) = ident t.text := h (.type t.text) (List.mem_cons_self ..)
    have has := codesOf_exchange hg as fun u hu => h u (List.mem_cons_of_mem _ hu)
    rw [Expr.exchange, codeOf, hg.other, has, codeOf, Code.Expr.rename_apply ht]
  | .newArray t e, h => by
    rw [Expr.exchange, codeOf, hg.other, codeOf_exchange hg e h]
    simp only [codeOf, Code.Expr.rename, Code.Expr.renameAll, rename_defaultValue]
  | .elements t as, h => by
    rw [Expr.exchange, codeOf, codesOf_exchange hg as h]
    rfl

theorem codesOf_exchange (hg : Renames g ρ r) : ∀ es : List Expr,
    (∀ u ∈ allUses es, Fits ρ r s s' u) →
    codesOf s' (Expr.exchangeAll g es) = Code.Expr.renameAll r (codesOf s es)
  | [], _ => rfl
  | e :: es, h => by
    have he := codeOf_exchange hg e fun u hu => h u (List.mem_append_left _ hu)
    have hes := codesOf_exchange hg es fun u hu => h u (List.mem_append_right _ hu)
    rw [Expr.exchangeAll, codesOf, he, hes]
    rfl

theorem textCode_exchange (hg : Renames g ρ r) : ∀ e : Expr, (∀ u ∈ uses e, Fits ρ r s s' u) →
    textCode s' (e.exchange g) = (textCode s e).map (Code.Expr.rename r)
  | .group e, h => textCode_exchange hg e h
  | .member e x, h => by
    simp only [Expr.exchange, textCode, hg.other]
    split
    · rw [codeOf_exchange hg e h, Option.map_some]
    · rfl
  | .number _, _ | .string _, _ | .char _, _ | .true, _ | .false, _ | .null, _ | .this, _
  | .name _, _ | .call .., _ | .index .., _ | .unary .., _ | .binary .., _ | .choice .., _
  | .newObject .., _ | .newArray .., _ | .elements .., _ => rfl

end

end

/-! ## Statements -/

mutual

theorem continues_rename (r : String → String) : ∀ s : Code.Stmt,
    continues (s.rename r) = continues s
  | .pass | .expr _ | .assign .. | .augment .. | .ret _ | .raise _ | .brk | .cont => rfl
  | .ite c b t => by
    rw [Code.Stmt.rename, continues, anyContinues_rename r b, tailContinues_rename r t, continues]
  | .while c b => by rw [Code.Stmt.rename, continues, anyContinues_rename r b, continues]
  | .forIn x e b => by rw [Code.Stmt.rename, continues, anyContinues_rename r b, continues]
  | .attempt b hs none => by
    rw [Code.Stmt.rename, continues, anyContinues_rename r b, handlersContinue_rename r hs,
      continues]
  | .attempt b hs (some f) => by
    rw [Code.Stmt.rename, continues, anyContinues_rename r b, handlersContinue_rename r hs,
      anyContinues_rename r f, continues]

theorem anyContinues_rename (r : String → String) : ∀ ss : List Code.Stmt,
    anyContinues (Code.Stmt.renameAll r ss) = anyContinues ss
  | [] => rfl
  | s :: ss => by
    rw [Code.Stmt.renameAll, anyContinues, continues_rename r s, anyContinues_rename r ss,
      anyContinues]

theorem tailContinues_rename (r : String → String) : ∀ t : Code.Tail,
    tailContinues (t.rename r) = tailContinues t
  | .none => rfl
  | .otherwise b => by
    rw [Code.Tail.rename, tailContinues, anyContinues_rename r b, tailContinues]
  | .elif c b t => by
    rw [Code.Tail.rename, tailContinues, anyContinues_rename r b, tailContinues_rename r t,
      tailContinues]

theorem handlersContinue_rename (r : String → String) : ∀ hs : List Code.Handler,
    handlersContinue (Code.Handler.renameAll r hs) = handlersContinue hs
  | [] => rfl
  | .mk t x b :: hs => by
    rw [Code.Handler.renameAll, handlersContinue, anyContinues_rename r b,
      handlersContinue_rename r hs, handlersContinue]

end

section

variable {g : Exchange} {ρ r : String → String} {s s' : Scope}

theorem rename_blockCode (ss : List Code.Stmt) :
    Code.Stmt.renameAll r (blockCode ss) = blockCode (Code.Stmt.renameAll r ss) := by
  unfold blockCode
  rw [Code.Stmt.isEmpty_renameAll]
  split <;> rfl

theorem rename_assignCode (hg : Renames g ρ r) (op : AssignOp) (t e : Code.Expr) :
    (assignCode op t e).rename r = assignCode op (t.rename r) (e.rename r) := by
  cases op with
  | set | sub | mul => rfl
  | add | div | mod =>
    simp only [assignCode, Code.Stmt.rename]
    rw [Code.Expr.rename_apply (hg.helper _ (by decide))]
    rfl

theorem rename_stepCode (op : StepOp) (t : Code.Expr) :
    (stepCode op t).rename r = stepCode op (t.rename r) := by
  cases op <;> rfl

/-- A loop with other names is made of parts with other names; its flag keeps its name. -/
theorem rename_loopCode (hr : KeepsFlags r) (c : Option Code.Expr) (st : Option Code.Stmt)
    (b : List Code.Stmt) (n : Nat) :
    Prod.map (Code.Stmt.renameAll r) id (loopCode c st b n)
      = loopCode (c.map (Code.Expr.rename r)) (st.map (Code.Stmt.rename r))
        (Code.Stmt.renameAll r b) n := by
  have hc : (c.map (Code.Expr.rename r)).getD .true = (c.getD .true).rename r := by
    cases c <;> rfl
  unfold loopCode
  rw [hc]
  cases st with
  | none => rfl
  | some st =>
    simp only [Option.map_some, anyContinues_rename]
    split
    · simp only [flaggedLoop, Prod.map_apply, Code.Stmt.renameAll, Code.Stmt.rename,
        Code.Expr.rename, Code.Tail.rename, hr _, id]
    · simp only [Prod.map_apply, Code.Stmt.renameAll, Code.Stmt.rename,
        Code.Stmt.renameAll_append, id]

theorem option_exchange (hg : Renames g ρ r) (e : Option Expr)
    (h : ∀ u ∈ optionUses e, Fits ρ r s s' u) :
    (e.map (Expr.exchange g)).map (codeOf s') = (e.map (codeOf s)).map (Code.Expr.rename r) := by
  cases e with
  | none => rfl
  | some e =>
    have he := codeOf_exchange hg e h
    simp only [Option.map_some, he]

theorem targetCode_exchange (hg : Renames g ρ r) (t : Target)
    (h : ∀ u ∈ targetUses t, Fits ρ r s s' u) :
    targetCode s' (t.exchange g) = (targetCode s t).rename r := by
  cases t with
  | name t => exact codeOf_exchange hg (.name t) h
  | member e x => exact codeOf_exchange hg (.member e x) h
  | index e i => exact codeOf_exchange hg (.index e i) h

theorem declareCode_exchange (hg : Renames g ρ r) (d : Declaration)
    (h : ∀ u ∈ declarationUses d, Fits ρ r s s' u) :
    declareCode s' (d.exchange g) = (declareCode s d).rename r := by
  obtain ⟨hname, hvalue⟩ := List.forall_mem_cons.mp h
  have hname : ident (ρ d.name.text) = r (ident d.name.text) := hname
  obtain ⟨t, x, v⟩ := d
  simp only [Declaration.exchange, declareCode, hg.bare, hname, Code.Stmt.rename, Code.Expr.rename]
  cases v with
  | none =>
    simp only [Option.map_none, TypeRef.exchange, hg.other, rename_defaultValue]
  | some e =>
    simp only [Option.map_some, codeOf_exchange hg e hvalue]

theorem forInitCode_exchange (hg : Renames g ρ r) (i : Option ForInit)
    (h : ∀ u ∈ forInitUses i, Fits ρ r s s' u) :
    forInitCode s' (i.map (ForInit.exchange g)) = Code.Stmt.renameAll r (forInitCode s i) := by
  match i with
  | none => rfl
  | some (.declare d) =>
    simp only [Option.map_some, ForInit.exchange, forInitCode, declareCode_exchange hg d h,
      Code.Stmt.renameAll]
  | some (.assign t op e) =>
    have ht := targetCode_exchange hg t fun u hu => h u (List.mem_append_left _ hu)
    have he := codeOf_exchange hg e fun u hu => h u (List.mem_append_right _ hu)
    simp only [Option.map_some, ForInit.exchange, forInitCode, ht, he, ← rename_assignCode hg,
      Code.Stmt.renameAll]

theorem forStepCode_exchange (hg : Renames g ρ r) (st : Option ForStep)
    (h : ∀ u ∈ forStepUses st, Fits ρ r s s' u) :
    (st.map (ForStep.exchange g)).map (forStepCode s')
      = (st.map (forStepCode s)).map (Code.Stmt.rename r) := by
  match st with
  | none => rfl
  | some (.assign t op e) =>
    have ht := targetCode_exchange hg t fun u hu => h u (List.mem_append_left _ hu)
    have he := codeOf_exchange hg e fun u hu => h u (List.mem_append_right _ hu)
    simp only [Option.map_some, ForStep.exchange, forStepCode, ht, he, ← rename_assignCode hg]
  | some (.step t op) =>
    simp only [Option.map_some, ForStep.exchange, forStepCode, targetCode_exchange hg t h,
      ← rename_stepCode]
  | some (.expr e) =>
    simp only [Option.map_some, ForStep.exchange, forStepCode, codeOf_exchange hg e h,
      Code.Stmt.rename]

theorem filterCode_exchange (hg : Renames g ρ r) (f : Option CatchFilter)
    (h : ∀ u ∈ filterUses f, Fits ρ r s s' u) :
    filterCode (f.map (CatchFilter.exchange g))
      = Prod.map r (Option.map r) (filterCode f) := by
  match f with
  | none =>
    show ("Exception", none) = (r "Exception", none)
    rw [hg.helper _ (by decide)]
  | some ⟨t, none⟩ =>
    have ht : r (ident t.text) = ident t.text := h (.type t.text) (List.mem_cons_self ..)
    simp [filterCode, CatchFilter.exchange, hg.other, ht]
  | some ⟨t, some x⟩ =>
    have ht : r (ident t.text) = ident t.text := h (.type t.text) (List.mem_cons_self ..)
    have hx : ident (ρ x.text) = r (ident x.text) := h (.declared x.text) (by simp [filterUses])
    simp [filterCode, CatchFilter.exchange, hg.other, hg.bare, ht, hx]

mutual

/-- The code of a statement with other names for variables. -/
theorem stmtCode_exchange (hg : Renames g ρ r) (hr : KeepsFlags r) (n : Nat) : ∀ st : Stmt,
    (∀ u ∈ stmtUses st, Fits ρ r s s' u) →
    stmtCode s' n (st.exchange g) = (stmtCode s n st).map (Code.Stmt.renameAll r) id
  | .declare d, h => by
    simp only [Stmt.exchange, stmtCode, declareCode_exchange hg d h]
    rfl
  | .assign t op e, h => by
    obtain ⟨ht, he⟩ := List.forall_mem_append.mp h
    simp only [Stmt.exchange, stmtCode, targetCode_exchange hg t ht, codeOf_exchange hg e he,
      ← rename_assignCode hg]
    rfl
  | .step t op, h => by
    simp only [Stmt.exchange, stmtCode, targetCode_exchange hg t h, ← rename_stepCode]
    rfl
  | .ite c b e, h => by
    obtain ⟨h, he⟩ := List.forall_mem_append.mp h
    obtain ⟨hc, hb⟩ := List.forall_mem_append.mp h
    simp only [Stmt.exchange, stmtCode, codeOf_exchange hg c hc, bodyCode_exchange hg hr n b hb,
      elseCode_exchange hg hr _ e he, Prod.map_fst, Prod.map_snd, id, ← rename_blockCode]
    rfl
  | .while c b, h => by
    obtain ⟨hc, hb⟩ := List.forall_mem_append.mp h
    simp only [Stmt.exchange, stmtCode, codeOf_exchange hg c hc, bodyCode_exchange hg hr n b hb,
      Prod.map_fst, Prod.map_snd, id, ← rename_blockCode]
    rfl
  | .for i c st b, h => by
    obtain ⟨h, hb⟩ := List.forall_mem_append.mp h
    obtain ⟨h, hst⟩ := List.forall_mem_append.mp h
    obtain ⟨hi, hc⟩ := List.forall_mem_append.mp h
    simp only [Stmt.exchange, stmtCode, forInitCode_exchange hg i hi, option_exchange hg c hc,
      forStepCode_exchange hg st hst, bodyCode_exchange hg hr n b hb, Prod.map_fst, Prod.map_snd, id,
      ← rename_blockCode, ← rename_loopCode hr]
    simp only [Prod.map_apply, Code.Stmt.renameAll_append, id]
  | .foreach t x e b, h => by
    obtain ⟨hx, h⟩ := List.forall_mem_cons.mp h
    obtain ⟨he, hb⟩ := List.forall_mem_append.mp h
    have hx : ident (ρ x.text) = r (ident x.text) := hx
    simp only [Stmt.exchange, stmtCode, hg.bare, hx, codeOf_exchange hg e he,
      bodyCode_exchange hg hr n b hb, Prod.map_fst, Prod.map_snd, id, ← rename_blockCode]
    rfl
  | .ret e, h => by
    simp only [Stmt.exchange, stmtCode, option_exchange hg e h]
    rfl
  | .brk, _ | .cont, _ => rfl
  | .throw e, h => by
    simp only [Stmt.exchange, stmtCode, option_exchange hg e h]
    rfl
  | .attempt b hs none, h => by
    obtain ⟨hb, hhs⟩ := List.forall_mem_append.mp h
    simp only [Stmt.exchange, stmtCode, bodyCode_exchange hg hr n b hb,
      handlersCode_exchange hg hr _ hs hhs, Prod.map_fst, Prod.map_snd, id, ← rename_blockCode]
    rfl
  | .attempt b hs (some f), h => by
    obtain ⟨h, hf⟩ := List.forall_mem_append.mp h
    obtain ⟨hb, hhs⟩ := List.forall_mem_append.mp h
    simp only [Stmt.exchange, stmtCode, bodyCode_exchange hg hr n b hb,
      handlersCode_exchange hg hr _ hs hhs, bodyCode_exchange hg hr _ f hf, Prod.map_fst,
      Prod.map_snd, id, ← rename_blockCode]
    rfl
  | .expr e, h => by
    simp only [Stmt.exchange, stmtCode, codeOf_exchange hg e h]
    rfl
  | .block b, h => by
    simp only [Stmt.exchange, stmtCode, bodyCode_exchange hg hr n b h, Prod.map_fst, Prod.map_snd,
      id, ← rename_blockCode]
    rfl

/-- The code of statements with other names for variables. -/
theorem bodyCode_exchange (hg : Renames g ρ r) (hr : KeepsFlags r) (n : Nat) : ∀ ss : List Stmt,
    (∀ u ∈ bodyUses ss, Fits ρ r s s' u) →
    bodyCode s' n (Stmt.exchangeAll g ss) = (bodyCode s n ss).map (Code.Stmt.renameAll r) id
  | [], _ => rfl
  | st :: ss, h => by
    obtain ⟨hst, hss⟩ := List.forall_mem_append.mp h
    simp only [Stmt.exchangeAll, bodyCode, stmtCode_exchange hg hr n st hst,
      bodyCode_exchange hg hr _ ss hss, Prod.map_fst, Prod.map_snd, id, Prod.map_apply,
      Code.Stmt.renameAll_append]

theorem elseCode_exchange (hg : Renames g ρ r) (hr : KeepsFlags r) (n : Nat) : ∀ e : Else,
    (∀ u ∈ elseUses e, Fits ρ r s s' u) →
    elseCode s' n (e.exchange g) = (elseCode s n e).map (Code.Tail.rename r) id
  | .none, _ => rfl
  | .block b, h => by
    simp only [Else.exchange, elseCode, bodyCode_exchange hg hr n b h, Prod.map_fst, Prod.map_snd,
      id, ← rename_blockCode]
    rfl
  | .elseIf c b e, h => by
    obtain ⟨h, he⟩ := List.forall_mem_append.mp h
    obtain ⟨hc, hb⟩ := List.forall_mem_append.mp h
    simp only [Else.exchange, elseCode, codeOf_exchange hg c hc, bodyCode_exchange hg hr n b hb,
      elseCode_exchange hg hr _ e he, Prod.map_fst, Prod.map_snd, id, ← rename_blockCode]
    rfl

theorem handlersCode_exchange (hg : Renames g ρ r) (hr : KeepsFlags r) (n : Nat) : ∀ hs : List Handler,
    (∀ u ∈ handlerUses hs, Fits ρ r s s' u) →
    handlersCode s' n (Handler.exchangeAll g hs)
      = (handlersCode s n hs).map (Code.Handler.renameAll r) id
  | [], _ => rfl
  | .mk f b :: hs, h => by
    obtain ⟨h, hhs⟩ := List.forall_mem_append.mp h
    obtain ⟨hf, hb⟩ := List.forall_mem_append.mp h
    simp only [Handler.exchangeAll, handlersCode, filterCode_exchange hg f hf,
      bodyCode_exchange hg hr n b hb, handlersCode_exchange hg hr _ hs hhs, Prod.map_fst, Prod.map_snd,
      id, ← rename_blockCode]
    rfl

end

end

/-! ## Variables and leaves -/

section

variable {g : Exchange} {ρ r : String → String}

theorem forInitVariables_exchange (hg : Renames g ρ r) (i : Option ForInit) :
    forInitVariables (i.map (ForInit.exchange g)) = (forInitVariables i).map ρ := by
  match i with
  | none => rfl
  | some (.declare d) => exact congrArg (List.cons · []) (hg.bare d.name)
  | some (.assign ..) => rfl

theorem filterVariables_exchange (hg : Renames g ρ r) (f : Option CatchFilter) :
    filterVariables (f.map (CatchFilter.exchange g)) = (filterVariables f).map ρ := by
  match f with
  | none => rfl
  | some ⟨_, none⟩ => rfl
  | some ⟨_, some x⟩ => exact congrArg (List.cons · []) (hg.bare x)

mutual

theorem declared_exchange (hg : Renames g ρ r) : ∀ st : Stmt,
    declared (st.exchange g) = (declared st).map ρ
  | .declare d => congrArg (List.cons · []) (hg.bare d.name)
  | .ite c b e => by
    rw [Stmt.exchange, declared, allDeclared_exchange hg b, elseDeclared_exchange hg e, declared,
      List.map_append]
  | .while c b => by rw [Stmt.exchange, declared, allDeclared_exchange hg b, declared]
  | .for i c st b => by
    rw [Stmt.exchange, declared, forInitVariables_exchange hg, allDeclared_exchange hg b, declared,
      List.map_append]
  | .foreach t x e b => by
    rw [Stmt.exchange, declared, hg.bare, allDeclared_exchange hg b, declared, List.map_cons]
  | .attempt b hs none => by
    rw [Stmt.exchange, declared, allDeclared_exchange hg b, handlersDeclared_exchange hg hs,
      declared, List.map_append]
  | .attempt b hs (some f) => by
    rw [Stmt.exchange, declared, allDeclared_exchange hg b, handlersDeclared_exchange hg hs,
      allDeclared_exchange hg f, declared, List.map_append, List.map_append]
  | .block b => by rw [Stmt.exchange, declared, allDeclared_exchange hg b, declared]
  | .assign .. | .step .. | .ret _ | .brk | .cont | .throw _ | .expr _ => rfl

theorem allDeclared_exchange (hg : Renames g ρ r) : ∀ ss : List Stmt,
    allDeclared (Stmt.exchangeAll g ss) = (allDeclared ss).map ρ
  | [] => rfl
  | st :: ss => by
    rw [Stmt.exchangeAll, allDeclared, declared_exchange hg st, allDeclared_exchange hg ss,
      allDeclared, List.map_append]

theorem elseDeclared_exchange (hg : Renames g ρ r) : ∀ e : Else,
    elseDeclared (e.exchange g) = (elseDeclared e).map ρ
  | .none => rfl
  | .block b => by rw [Else.exchange, elseDeclared, allDeclared_exchange hg b, elseDeclared]
  | .elseIf c b e => by
    rw [Else.exchange, elseDeclared, allDeclared_exchange hg b, elseDeclared_exchange hg e,
      elseDeclared, List.map_append]

theorem handlersDeclared_exchange (hg : Renames g ρ r) : ∀ hs : List Handler,
    handlersDeclared (Handler.exchangeAll g hs) = (handlersDeclared hs).map ρ
  | [] => rfl
  | .mk f b :: hs => by
    rw [Handler.exchangeAll, handlersDeclared, filterVariables_exchange hg,
      allDeclared_exchange hg b, handlersDeclared_exchange hg hs, handlersDeclared,
      List.map_append, List.map_append]

end

/-- The variables of a member with other names for variables. -/
theorem memberVariables_exchange (hg : Renames g ρ r) (ps : List Param) (b : List Stmt) :
    memberVariables (ps.map (Param.exchange g)) (Stmt.exchangeAll g b)
      = (memberVariables ps b).map ρ := by
  unfold memberVariables
  rw [allDeclared_exchange hg, List.map_append, List.map_map, List.map_map]
  congr 1
  exact List.map_congr_left fun p _ => hg.bare p.name

end

/-- A leaf with other tokens. -/
def Leaf.exchange (g : Exchange) : Leaf → Leaf
  | .name t => .name (g.bare t)
  | .number t => .number (g.other t)

section

variable (g : Exchange)

mutual

theorem leaves_exchange : ∀ e : Expr, leaves (e.exchange g) = (leaves e).map (Leaf.exchange g)
  | .number _ | .name _ | .string _ | .char _ | .true | .false | .null | .this => rfl
  | .group e => leaves_exchange e
  | .member e _ => leaves_exchange e
  | .unary _ e => leaves_exchange e
  | .newArray _ e => leaves_exchange e
  | .call f as => by
    rw [Expr.exchange, leaves, leaves_exchange f, allLeaves_exchange as, leaves, List.map_append]
  | .index e i => by
    rw [Expr.exchange, leaves, leaves_exchange e, leaves_exchange i, leaves, List.map_append]
  | .binary _ a b => by
    rw [Expr.exchange, leaves, leaves_exchange a, leaves_exchange b, leaves, List.map_append]
  | .choice c a b => by
    rw [Expr.exchange, leaves, leaves_exchange c, leaves_exchange a, leaves_exchange b, leaves,
      List.map_append, List.map_append]
  | .newObject _ as => allLeaves_exchange as
  | .elements _ as => allLeaves_exchange as

theorem allLeaves_exchange : ∀ es : List Expr,
    allLeaves (Expr.exchangeAll g es) = (allLeaves es).map (Leaf.exchange g)
  | [] => rfl
  | e :: es => by
    rw [Expr.exchangeAll, allLeaves, leaves_exchange e, allLeaves_exchange es, allLeaves,
      List.map_append]

end

theorem optionLeaves_exchange (e : Option Expr) :
    optionLeaves (e.map (Expr.exchange g)) = (optionLeaves e).map (Leaf.exchange g) := by
  cases e with
  | none => rfl
  | some e => exact leaves_exchange g e

theorem targetLeaves_exchange (t : Target) :
    targetLeaves (t.exchange g) = (targetLeaves t).map (Leaf.exchange g) := by
  cases t with
  | name t => rfl
  | member e x => exact leaves_exchange g e
  | index e i => exact leaves_exchange g (.index e i)

theorem forInitLeaves_exchange (i : Option ForInit) :
    forInitLeaves (i.map (ForInit.exchange g)) = (forInitLeaves i).map (Leaf.exchange g) := by
  match i with
  | none => rfl
  | some (.declare d) => exact optionLeaves_exchange g d.value
  | some (.assign t _ e) =>
    simp only [Option.map_some, ForInit.exchange, forInitLeaves, targetLeaves_exchange,
      leaves_exchange, List.map_append]

theorem forStepLeaves_exchange (st : Option ForStep) :
    forStepLeaves (st.map (ForStep.exchange g)) = (forStepLeaves st).map (Leaf.exchange g) := by
  match st with
  | none => rfl
  | some (.assign t _ e) =>
    simp only [Option.map_some, ForStep.exchange, forStepLeaves, targetLeaves_exchange,
      leaves_exchange, List.map_append]
  | some (.step t _) => exact targetLeaves_exchange g t
  | some (.expr e) => exact leaves_exchange g e

mutual

theorem stmtLeaves_exchange : ∀ st : Stmt,
    stmtLeaves (st.exchange g) = (stmtLeaves st).map (Leaf.exchange g)
  | .declare d => optionLeaves_exchange g d.value
  | .assign t _ e => by
    rw [Stmt.exchange, stmtLeaves, targetLeaves_exchange, leaves_exchange, stmtLeaves,
      List.map_append]
  | .step t _ => targetLeaves_exchange g t
  | .ite c b e => by
    rw [Stmt.exchange, stmtLeaves, leaves_exchange, bodyLeaves_exchange b, elseLeaves_exchange e,
      stmtLeaves, List.map_append, List.map_append]
  | .while c b => by
    rw [Stmt.exchange, stmtLeaves, leaves_exchange, bodyLeaves_exchange b, stmtLeaves,
      List.map_append]
  | .for i c st b => by
    rw [Stmt.exchange, stmtLeaves, forInitLeaves_exchange, optionLeaves_exchange,
      forStepLeaves_exchange, bodyLeaves_exchange b, stmtLeaves, List.map_append, List.map_append,
      List.map_append]
  | .foreach _ _ e b => by
    rw [Stmt.exchange, stmtLeaves, leaves_exchange, bodyLeaves_exchange b, stmtLeaves,
      List.map_append]
  | .ret e => optionLeaves_exchange g e
  | .brk | .cont => rfl
  | .throw e => optionLeaves_exchange g e
  | .attempt b hs none => by
    rw [Stmt.exchange, stmtLeaves, bodyLeaves_exchange b, handlerLeaves_exchange hs, stmtLeaves,
      List.map_append]
  | .attempt b hs (some f) => by
    rw [Stmt.exchange, stmtLeaves, bodyLeaves_exchange b, handlerLeaves_exchange hs,
      bodyLeaves_exchange f, stmtLeaves, List.map_append, List.map_append]
  | .expr e => leaves_exchange g e
  | .block b => bodyLeaves_exchange b

theorem bodyLeaves_exchange : ∀ ss : List Stmt,
    bodyLeaves (Stmt.exchangeAll g ss) = (bodyLeaves ss).map (Leaf.exchange g)
  | [] => rfl
  | st :: ss => by
    rw [Stmt.exchangeAll, bodyLeaves, stmtLeaves_exchange st, bodyLeaves_exchange ss, bodyLeaves,
      List.map_append]

theorem elseLeaves_exchange : ∀ e : Else,
    elseLeaves (e.exchange g) = (elseLeaves e).map (Leaf.exchange g)
  | .none => rfl
  | .block b => bodyLeaves_exchange b
  | .elseIf c b e => by
    rw [Else.exchange, elseLeaves, leaves_exchange, bodyLeaves_exchange b, elseLeaves_exchange e,
      elseLeaves, List.map_append, List.map_append]

theorem handlerLeaves_exchange : ∀ hs : List Handler,
    handlerLeaves (Handler.exchangeAll g hs) = (handlerLeaves hs).map (Leaf.exchange g)
  | [] => rfl
  | .mk f b :: hs => by
    rw [Handler.exchangeAll, handlerLeaves, bodyLeaves_exchange b, handlerLeaves_exchange hs,
      handlerLeaves, List.map_append]

end

end

end BraceScript.Lowering
