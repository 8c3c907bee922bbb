import BraceScript.Proofs.Lowering.Hygiene
import Mathlib

/-!
# Templates of members

A template of a member is its code with holes for names: for the names that are read or assigned to,
for the variables that are declared, and for the types of new objects. It is the code of the member
with marked names, in a class without members. A class decides nothing but what goes into the holes
(`memberCodeOf_filled`): into a hole for a variable or a type goes its identifier, and into a hole
for a bare name goes its code in the scope of the member, wherever it stands.
-/

namespace BraceScript.Lowering

open Syntax

/-! ## Holes -/

namespace NameUse

/-- A name with a mark for what it is used for. No name of a script begins with a mark. -/
def hole : NameUse → String
  | .bare x => "#" ++ x
  | .declared x => "@" ++ x
  | .type x => "$" ++ x

/-- What a name with a mark is used for. -/
def ofHole? (i : String) : Option NameUse :=
  match i.toList with
  | '#' :: cs => some (.bare (.ofList cs))
  | '@' :: cs => some (.declared (.ofList cs))
  | '$' :: cs => some (.type (.ofList cs))
  | _ => none

@[simp]
theorem ofHole?_hole (u : NameUse) : ofHole? u.hole = some u := by
  cases u <;> simp [hole, ofHole?]

/-- A marked name is no reserved word. -/
@[simp]
theorem ident_hole (u : NameUse) : Code.ident u.hole = u.hole := by
  have hwords : ∀ w ∈ Code.selfName :: Code.reservedWords, ofHole? w = none := by decide
  have hother : u.hole ∉ Code.selfName :: Code.reservedWords := by
    intro h
    have hnone := hwords _ h
    rw [ofHole?_hole] at hnone
    cases hnone
  rw [List.mem_cons, not_or] at hother
  unfold Code.ident
  rw [if_neg]
  simp [hother.1, hother.2]

@[simp]
theorem globalIdent_hole (u : NameUse) : Scope.globalIdent u.hole = u.hole := by
  have hne : u.hole ≠ "string" := by
    intro h
    have hnone : ofHole? "string" = none := by decide
    rw [← h, ofHole?_hole] at hnone
    cases hnone
  rw [Scope.globalIdent, beq_false_of_ne hne]
  exact ident_hole u

end NameUse

/-- A token with a marked name. -/
def holeAt (use : String → NameUse) (t : Token) : Token := { t with text := (use t.text).hole }

@[simp]
theorem text_holeAt (use : String → NameUse) (t : Token) :
    (holeAt use t).text = (use t.text).hole := rfl

end BraceScript.Lowering

/-! ## Trees with holes -/

namespace BraceScript.Syntax

open Lowering (holeAt)

mutual

/-- An expression with holes for its names. -/
def Expr.holed : Expr → Expr
  | .number t => .number t
  | .string t => .string t
  | .char t => .char t
  | .true => .true
  | .false => .false
  | .null => .null
  | .this => .this
  | .name t => .name (holeAt .bare t)
  | .group e => .group e.holed
  | .member e n => .member e.holed n
  | .call f as => .call f.holed (Expr.allHoled as)
  | .index e i => .index e.holed i.holed
  | .unary op e => .unary op e.holed
  | .binary op l r => .binary op l.holed r.holed
  | .choice c a b => .choice c.holed a.holed b.holed
  | .newObject t as => .newObject (holeAt .type t) (Expr.allHoled as)
  | .newArray t e => .newArray t e.holed
  | .elements t as => .elements t (Expr.allHoled as)

/-- Expressions with holes for their names. -/
def Expr.allHoled : List Expr → List Expr
  | [] => []
  | e :: es => e.holed :: Expr.allHoled es

end

/-- The declaration of a variable with holes for its names. -/
def Declaration.holed (d : Declaration) : Declaration :=
  ⟨d.type, holeAt .declared d.name, d.value.map Expr.holed⟩

/-- A target with holes for its names. -/
def Target.holed : Target → Target
  | .name t => .name (holeAt .bare t)
  | .member e n => .member e.holed n
  | .index e i => .index e.holed i.holed

/-- The first part of a `for` head with holes for its names. -/
def ForInit.holed : ForInit → ForInit
  | .declare d => .declare d.holed
  | .assign t op e => .assign t.holed op e.holed

/-- The last part of a `for` head with holes for its names. -/
def ForStep.holed : ForStep → ForStep
  | .assign t op e => .assign t.holed op e.holed
  | .step t op => .step t.holed op
  | .expr e => .expr e.holed

/-- A filter with a hole for the name of what is caught. -/
def CatchFilter.holed (f : CatchFilter) : CatchFilter := ⟨f.type, f.name.map (holeAt .declared)⟩

mutual

/-- A statement with holes for its names. -/
def Stmt.holed : Stmt → Stmt
  | .declare d => .declare d.holed
  | .assign t op e => .assign t.holed op e.holed
  | .step t op => .step t.holed op
  | .ite c b r => .ite c.holed (Stmt.allHoled b) r.holed
  | .while c b => .while c.holed (Stmt.allHoled b)
  | .for i c s b =>
    .for (i.map ForInit.holed) (c.map Expr.holed) (s.map ForStep.holed) (Stmt.allHoled b)
  | .foreach t n e b => .foreach t (holeAt .declared n) e.holed (Stmt.allHoled b)
  | .ret e => .ret (e.map Expr.holed)
  | .brk => .brk
  | .cont => .cont
  | .throw e => .throw (e.map Expr.holed)
  | .attempt b hs none => .attempt (Stmt.allHoled b) (Handler.allHoled hs) none
  | .attempt b hs (some f) =>
    .attempt (Stmt.allHoled b) (Handler.allHoled hs) (some (Stmt.allHoled f))
  | .expr e => .expr e.holed
  | .block b => .block (Stmt.allHoled b)

/-- Statements with holes for their names. -/
def Stmt.allHoled : List Stmt → List Stmt
  | [] => []
  | s :: ss => s.holed :: Stmt.allHoled ss

/-- The rest of a conditional with holes for its names. -/
def Else.holed : Else → Else
  | .none => .none
  | .block b => .block (Stmt.allHoled b)
  | .elseIf c b r => .elseIf c.holed (Stmt.allHoled b) r.holed

/-- Handlers with holes for their names. -/
def Handler.allHoled : List Handler → List Handler
  | [] => []
  | .mk f b :: hs => .mk (f.map CatchFilter.holed) (Stmt.allHoled b) :: Handler.allHoled hs

end

/-- A parameter with a hole for its name. -/
def Param.holed (p : Param) : Param := ⟨p.type, holeAt .declared p.name⟩

/-- A member with holes for the names in it. The member itself keeps its name. -/
def Member.holed : Member → Member
  | .field ms d => .field ms { d with value := d.value.map Expr.holed }
  | .method ms t n ps b => .method ms t n (ps.map Param.holed) (Stmt.allHoled b)
  | .constructor ms n ps b => .constructor ms n (ps.map Param.holed) (Stmt.allHoled b)

end BraceScript.Syntax

/-! ## Filling templates -/

namespace BraceScript.Code

open Lowering (NameUse)

/-- The identifier in the place of a name: that of the variable or type, if it is a hole for one. -/
def fillIdent (i : String) : String :=
  match NameUse.ofHole? i with
  | some (.declared x) | some (.type x) => ident x
  | _ => i

mutual

/-- An expression with filled holes; `κ` gives the codes of bare names. -/
def Expr.fill (κ : String → Expr) : Expr → Expr
  | .name i =>
    match NameUse.ofHole? i with
    | some (.bare x) => κ x
    | _ => .name (fillIdent i)
  | .number t => .number t
  | .text t => .text t
  | .true => .true
  | .false => .false
  | .none => .none
  | .group e => .group (e.fill κ)
  | .list es => .list (Expr.fillAll κ es)
  | .attr e x => .attr (e.fill κ) x
  | .call f es => .call (f.fill κ) (Expr.fillAll κ es)
  | .index e i => .index (e.fill κ) (i.fill κ)
  | .unary op e => .unary op (e.fill κ)
  | .binary op a b => .binary op (a.fill κ) (b.fill κ)
  | .choose v c o => .choose (v.fill κ) (c.fill κ) (o.fill κ)

/-- Expressions with filled holes. -/
def Expr.fillAll (κ : String → Expr) : List Expr → List Expr
  | [] => []
  | e :: es => e.fill κ :: Expr.fillAll κ es

end

mutual

/-- A statement with filled holes. -/
def Stmt.fill (κ : String → Expr) : Stmt → Stmt
  | .pass => .pass
  | .expr e => .expr (e.fill κ)
  | .assign t e => .assign (t.fill κ) (e.fill κ)
  | .augment t op e => .augment (t.fill κ) op (e.fill κ)
  | .ret e => .ret (e.map (Expr.fill κ))
  | .raise e => .raise (e.map (Expr.fill κ))
  | .brk => .brk
  | .cont => .cont
  | .ite c b t => .ite (c.fill κ) (Stmt.fillAll κ b) (t.fill κ)
  | .while c b => .while (c.fill κ) (Stmt.fillAll κ b)
  | .forIn x e b => .forIn (fillIdent x) (e.fill κ) (Stmt.fillAll κ b)
  | .attempt b hs none => .attempt (Stmt.fillAll κ b) (Handler.fillAll κ hs) none
  | .attempt b hs (some f) =>
    .attempt (Stmt.fillAll κ b) (Handler.fillAll κ hs) (some (Stmt.fillAll κ f))

/-- Statements with filled holes. -/
def Stmt.fillAll (κ : String → Expr) : List Stmt → List Stmt
  | [] => []
  | s :: ss => s.fill κ :: Stmt.fillAll κ ss

/-- The rest of a conditional with filled holes. -/
def Tail.fill (κ : String → Expr) : Tail → Tail
  | .none => .none
  | .otherwise b => .otherwise (Stmt.fillAll κ b)
  | .elif c b t => .elif (c.fill κ) (Stmt.fillAll κ b) (t.fill κ)

/-- Handlers with filled holes. -/
def Handler.fillAll (κ : String → Expr) : List Handler → List Handler
  | [] => []
  | .mk t x b :: hs => .mk t (x.map fillIdent) (Stmt.fillAll κ b) :: Handler.fillAll κ hs

end

/-- A parameter with a filled hole. -/
def Param.fill (p : Param) : Param := ⟨fillIdent p.name, p.hint⟩

/-- A function with filled holes. -/
def Function.fill (κ : String → Expr) (f : Function) : Function :=
  ⟨f.name, f.params.map Param.fill, f.isStatic, Stmt.fillAll κ f.body⟩

@[simp]
theorem Stmt.fillAll_append (κ : String → Expr) (ss ts : List Stmt) :
    Stmt.fillAll κ (ss ++ ts) = Stmt.fillAll κ ss ++ Stmt.fillAll κ ts := by
  induction ss with
  | nil => rfl
  | cons s ss ih => rw [List.cons_append, fillAll, ih, fillAll, List.cons_append]

@[simp]
theorem Stmt.isEmpty_fillAll (κ : String → Expr) (ss : List Stmt) :
    (Stmt.fillAll κ ss).isEmpty = ss.isEmpty := by
  cases ss <;> rfl

theorem fillIdent_of_none {i : String} (h : NameUse.ofHole? i = none) : fillIdent i = i := by
  rw [fillIdent, h]

/-- A name that is no hole stays. -/
theorem Expr.fill_name {κ : String → Expr} {i : String} (h : NameUse.ofHole? i = Option.none) :
    (Expr.name i).fill κ = .name i := by
  rw [fill, h, fillIdent_of_none h]

/-- A code that a trailer, a factor or a sign stands beside as it is. -/
inductive Expr.IsPlace : Expr → Prop
  | name (i : String) : IsPlace (.name i)
  | attr (e : Expr) (x : String) : IsPlace (.attr e x)

namespace Expr

variable {κ : String → Expr}

theorem IsPlace.trail {e : Expr} (h : e.IsPlace) (f : Expr → Expr) : e.trail f = f e := by
  cases h <;> rfl

theorem IsPlace.times {e : Expr} (h : e.IsPlace) (l : Expr) : l.times e = .binary .mul l e := by
  cases h <;> rfl

theorem IsPlace.negated {e : Expr} (h : e.IsPlace) : e.negated = .unary .neg e := by
  cases h <;> rfl

theorem IsPlace.withAttr {e : Expr} (h : e.IsPlace) (x : String) : e.withAttr x = .attr e x := by
  cases h <;> rfl

theorem fill_apply {f : String} (hf : NameUse.ofHole? f = Option.none) (es : List Expr) :
    (apply f es).fill κ = apply f (fillAll κ es) := by
  rw [apply, fill, fill_name hf]
  rfl

theorem isPlace_fill (hκ : ∀ x, (κ x).IsPlace) (i : String) : ((name i).fill κ).IsPlace := by
  rw [fill]
  split
  · exact hκ _
  · exact .name _

/-- A trailer goes to the same place behind the filled expression. -/
theorem fill_trail (hκ : ∀ x, (κ x).IsPlace) (f f' : Expr → Expr)
    (hf : ∀ e, (f e).fill κ = f' (e.fill κ)) (e : Expr) :
    (e.trail f).fill κ = (e.fill κ).trail f' := by
  fun_induction trail f e with
  | case1 a b ih =>
    rw [fill, ih, fill, trail]
  | case2 e hne =>
    rw [hf]
    cases e with
    | name i => exact ((isPlace_fill hκ i).trail f').symm
    | binary op a b =>
      rw [fill, trail]
      rintro a' b' ⟨⟩
      exact hne a b rfl
    | _ => simp only [fill, trail]

theorem fill_times (hκ : ∀ x, (κ x).IsPlace) (l e : Expr) :
    (l.times e).fill κ = (l.fill κ).times (e.fill κ) := by
  fun_induction times l e with
  | case1 a b ih => rw [fill, ih, fill, times]
  | case2 e hne =>
    rw [fill]
    cases e with
    | name i => exact ((isPlace_fill hκ i).times _).symm
    | binary op a b =>
      rw [fill, times]
      rintro a' b' ⟨⟩
      exact hne a b rfl
    | _ => simp only [fill, times]

theorem fill_negated (hκ : ∀ x, (κ x).IsPlace) (e : Expr) :
    e.negated.fill κ = (e.fill κ).negated := by
  fun_induction negated e with
  | case1 a b ih => rw [fill, ih, fill, negated]
  | case2 e hne =>
    rw [fill]
    cases e with
    | name i => exact (isPlace_fill hκ i).negated.symm
    | binary op a b =>
      rw [fill, negated]
      rintro a' b' ⟨⟩
      exact hne a b rfl
    | _ => simp only [fill, negated]

theorem fill_withAttr (hκ : ∀ x, (κ x).IsPlace) (x : String) (e : Expr) :
    (e.withAttr x).fill κ = (e.fill κ).withAttr x := by
  cases e with
  | name i => exact ((isPlace_fill hκ i).withAttr x).symm
  | number n =>
    simp only [fill, withAttr]
    split <;> rfl
  | _ => simp only [fill, withAttr]

end Expr

end BraceScript.Code

/-! ## Expressions -/

namespace BraceScript.Lowering

open Syntax

/-- The class that templates are made in. -/
def noMembers : ClassNames := ⟨"", [], []⟩

theorem isPlace_codeOf (s : Scope) (x : String) : (s.codeOf x).IsPlace := by
  unfold Scope.codeOf
  split
  · split
    · exact .name _
    · exact .attr _ _
  · exact .attr _ _
  · exact .name _
  · exact .name _

/-- In a class without members a hole stays a hole. -/
theorem codeOf_hole {s : Scope} (hs : s.names = noMembers) (u : NameUse) :
    s.codeOf u.hole = .name u.hole := by
  have hmeaning : s.meaning u.hole = .variable ∨ s.meaning u.hole = .global := by
    unfold Scope.meaning
    rw [hs]
    by_cases hlocal : s.locals.contains u.hole
    · rw [if_pos hlocal]
      exact .inl rfl
    · rw [if_neg hlocal]
      exact .inr rfl
  unfold Scope.codeOf
  rcases hmeaning with h | h
  · rw [h, NameUse.globalIdent_hole]
  · rw [h, NameUse.globalIdent_hole]

section

variable {κ : String → Code.Expr}

theorem fill_hole (u : NameUse) : (Code.Expr.name u.hole).fill κ
    = match u with
      | .bare x => κ x
      | .declared x | .type x => .name (Code.ident x) := by
  rw [Code.Expr.fill, Code.fillIdent, NameUse.ofHole?_hole]
  cases u <;> rfl

theorem fillIdent_declared (x : String) :
    Code.fillIdent (NameUse.declared x).hole = Code.ident x := by
  rw [Code.fillIdent, NameUse.ofHole?_hole]

theorem fill_defaultValue (name : String) (rank : Nat) :
    (defaultValue name rank).fill κ = defaultValue name rank := by
  have hvalues : ∀ v ∈ defaultValues, v.2.fill κ = v.2 := by
    intro v hv
    simp only [defaultValues, List.mem_cons, List.not_mem_nil, or_false] at hv
    rcases hv with rfl | rfl | rfl | rfl | rfl | rfl | rfl | rfl <;> rfl
  unfold defaultValue
  split
  · rfl
  · cases hv : defaultValues.lookup name with
    | none => rfl
    | some v =>
      obtain ⟨front, back, hsplit, -⟩ := List.lookup_eq_some_iff.mp hv
      exact hvalues (name, v) (by rw [hsplit]; simp)

variable (hκ : ∀ x, (κ x).IsPlace)
include hκ

theorem fill_binaryCode (op : BinaryOp) (a b : Code.Expr) :
    (binaryCode op a b).fill κ = binaryCode op (a.fill κ) (b.fill κ) := by
  cases op with
  | add | div | mod => exact Code.Expr.fill_apply (by decide) _
  | mul => exact congrArg Code.Expr.group (Code.Expr.fill_times hκ a b)
  | or | and | eq | ne | lt | le | gt | ge | sub => rfl

theorem fill_unaryCode (op : UnaryOp) (e : Code.Expr) :
    (unaryCode op e).fill κ = unaryCode op (e.fill κ) := by
  cases op with
  | not => rfl
  | neg => exact congrArg Code.Expr.group (Code.Expr.fill_negated hκ e)

theorem fill_memberCode (e : Code.Expr) (x : String) :
    (memberCode e x).fill κ = memberCode (e.fill κ) x := by
  unfold memberCode
  split
  · exact Code.Expr.fill_apply (by decide) _
  · exact Code.Expr.fill_trail hκ _ _ (Code.Expr.fill_withAttr hκ _) e

theorem fill_callCode (text : Option Code.Expr) (callee : Code.Expr) (as : List Code.Expr) :
    (callCode text callee as).fill κ
      = callCode (text.map (Code.Expr.fill κ)) (callee.fill κ) (Code.Expr.fillAll κ as) := by
  have hcall (as : List Code.Expr) : (callee.trail (.call · as)).fill κ
      = (callee.fill κ).trail (.call · (Code.Expr.fillAll κ as)) :=
    Code.Expr.fill_trail hκ (.call · as) (.call · (Code.Expr.fillAll κ as)) (fun _ => rfl) callee
  cases text with
  | none => exact hcall as
  | some e =>
    cases as with
    | nil => exact Code.Expr.fill_apply (by decide) _
    | cons a as => exact hcall (a :: as)

end

section

variable {s s₀ : Scope}

mutual

/-- The code of an expression is its template with the codes of its bare names. -/
theorem codeOf_filled (h₀ : s₀.names = noMembers) : ∀ e : Expr,
    codeOf s e = (codeOf s₀ e.holed).fill s.codeOf
  | .number t | .string t | .char t | .true | .false | .null => rfl
  | .this => (Code.Expr.fill_name (by decide)).symm
  | .name t => by
    rw [Expr.holed, codeOf, codeOf, text_holeAt, codeOf_hole h₀, fill_hole]
  | .group e => codeOf_filled h₀ e
  | .member e x => by
    rw [Expr.holed, codeOf, codeOf, fill_memberCode (isPlace_codeOf s), codeOf_filled h₀ e]
  | .call f as => by
    rw [Expr.holed, codeOf, codeOf, fill_callCode (isPlace_codeOf s), codeOf_filled h₀ f,
      codesOf_filled h₀ as, textCode_filled h₀ f]
  | .index e i => by
    rw [Expr.holed, codeOf, codeOf, codeOf_filled h₀ e, codeOf_filled h₀ i]
    exact (Code.Expr.fill_trail (isPlace_codeOf s) (.index · (codeOf s₀ i.holed)) _
      (fun _ => rfl) _).symm
  | .unary op e => by
    rw [Expr.holed, codeOf, codeOf, fill_unaryCode (isPlace_codeOf s), codeOf_filled h₀ e]
  | .binary op l r => by
    rw [Expr.holed, codeOf, codeOf, fill_binaryCode (isPlace_codeOf s), codeOf_filled h₀ l,
      codeOf_filled h₀ r]
  | .choice c a b => by
    rw [Expr.holed, codeOf, codeOf, codeOf_filled h₀ c, codeOf_filled h₀ a, codeOf_filled h₀ b]
    rfl
  | .newObject t as => by
    rw [Expr.holed, codeOf, codeOf, text_holeAt, NameUse.ident_hole, codesOf_filled h₀ as,
      Code.Expr.apply, Code.Expr.apply, Code.Expr.fill, fill_hole]
  | .newArray t e => by
    rw [Expr.holed, codeOf, codeOf, codeOf_filled h₀ e]
    simp only [Code.Expr.fill, Code.Expr.fillAll, fill_defaultValue]
  | .elements t es => by
    rw [Expr.holed, codeOf, codeOf, codesOf_filled h₀ es]
    rfl

theorem codesOf_filled (h₀ : s₀.names = noMembers) : ∀ es : List Expr,
    codesOf s es = Code.Expr.fillAll s.codeOf (codesOf s₀ (Expr.allHoled es))
  | [] => rfl
  | e :: es => by
    rw [Expr.allHoled, codesOf, codesOf, codeOf_filled h₀ e, codesOf_filled h₀ es]
    rfl

theorem textCode_filled (h₀ : s₀.names = noMembers) : ∀ e : Expr,
    textCode s e = (textCode s₀ e.holed).map (Code.Expr.fill s.codeOf)
  | .member e x => by
    rw [Expr.holed, textCode, textCode]
    split
    · rw [codeOf_filled h₀ e, Option.map_some]
    · rfl
  | .group e => textCode_filled h₀ e
  | .number _ | .string _ | .char _ | .true | .false | .null | .this | .name _ | .call ..
  | .index .. | .unary .. | .binary .. | .choice .. | .newObject .. | .newArray ..
  | .elements .. => rfl

end

end

/-! ## Statements -/

section

variable (κ : String → Code.Expr)

mutual

theorem continues_fill : ∀ s : Code.Stmt, continues (s.fill κ) = continues s
  | .pass | .expr _ | .assign .. | .augment .. | .ret _ | .raise _ | .brk | .cont => rfl
  | .ite c b t => by
    rw [Code.Stmt.fill, continues, anyContinues_fill b, tailContinues_fill t, continues]
  | .while c b => by rw [Code.Stmt.fill, continues, anyContinues_fill b, continues]
  | .forIn x e b => by rw [Code.Stmt.fill, continues, anyContinues_fill b, continues]
  | .attempt b hs none => by
    rw [Code.Stmt.fill, continues, anyContinues_fill b, handlersContinue_fill hs, continues]
  | .attempt b hs (some f) => by
    rw [Code.Stmt.fill, continues, anyContinues_fill b, handlersContinue_fill hs,
      anyContinues_fill f, continues]

theorem anyContinues_fill : ∀ ss : List Code.Stmt,
    anyContinues (Code.Stmt.fillAll κ ss) = anyContinues ss
  | [] => rfl
  | s :: ss => by
    rw [Code.Stmt.fillAll, anyContinues, continues_fill s, anyContinues_fill ss, anyContinues]

theorem tailContinues_fill : ∀ t : Code.Tail, tailContinues (t.fill κ) = tailContinues t
  | .none => rfl
  | .otherwise b => by rw [Code.Tail.fill, tailContinues, anyContinues_fill b, tailContinues]
  | .elif c b t => by
    rw [Code.Tail.fill, tailContinues, anyContinues_fill b, tailContinues_fill t, tailContinues]

theorem handlersContinue_fill : ∀ hs : List Code.Handler,
    handlersContinue (Code.Handler.fillAll κ hs) = handlersContinue hs
  | [] => rfl
  | .mk t x b :: hs => by
    rw [Code.Handler.fillAll, handlersContinue, anyContinues_fill b, handlersContinue_fill hs,
      handlersContinue]

end

theorem fill_blockCode (ss : List Code.Stmt) :
    Code.Stmt.fillAll κ (blockCode ss) = blockCode (Code.Stmt.fillAll κ ss) := by
  unfold blockCode
  rw [Code.Stmt.isEmpty_fillAll]
  split <;> rfl

theorem fill_assignCode (op : AssignOp) (t e : Code.Expr) :
    (assignCode op t e).fill κ = assignCode op (t.fill κ) (e.fill κ) := by
  cases op with
  | set | sub | mul => rfl
  | add | div | mod =>
    rw [assignCode, Code.Stmt.fill, Code.Expr.fill_apply (by decide)]
    rfl

theorem fill_stepCode (op : StepOp) (t : Code.Expr) :
    (stepCode op t).fill κ = stepCode op (t.fill κ) := by
  cases op <;> rfl

theorem fill_flag (n : Nat) : (Code.Expr.name (flagName n)).fill κ = .name (flagName n) := by
  refine Code.Expr.fill_name ?_
  simp [NameUse.ofHole?, flagName]

/-- A loop with filled holes is made of filled parts. -/
theorem fill_loopCode (c : Option Code.Expr) (st : Option Code.Stmt) (b : List Code.Stmt)
    (n : Nat) : Prod.map (Code.Stmt.fillAll κ) id (loopCode c st b n)
      = loopCode (c.map (Code.Expr.fill κ)) (st.map (Code.Stmt.fill κ))
        (Code.Stmt.fillAll κ b) n := by
  have hc : (c.map (Code.Expr.fill κ)).getD .true = (c.getD .true).fill κ := by
    cases c <;> rfl
  unfold loopCode
  rw [hc]
  cases st with
  | none => rfl
  | some st =>
    simp only [Option.map_some, anyContinues_fill]
    split
    · simp only [flaggedLoop, Prod.map_apply, Code.Stmt.fillAll, Code.Stmt.fill, fill_flag,
        Code.Tail.fill, id]
      rfl
    · simp only [Prod.map_apply, Code.Stmt.fillAll, Code.Stmt.fill, Code.Stmt.fillAll_append, id]

end

section

variable {s s₀ : Scope} (h₀ : s₀.names = noMembers)
include h₀

theorem option_filled (e : Option Expr) :
    e.map (codeOf s) = ((e.map Expr.holed).map (codeOf s₀)).map (Code.Expr.fill s.codeOf) := by
  cases e with
  | none => rfl
  | some e => exact congrArg some (codeOf_filled h₀ e)

theorem targetCode_filled (t : Target) :
    targetCode s t = (targetCode s₀ t.holed).fill s.codeOf := by
  cases t with
  | name t => exact codeOf_filled h₀ (.name t)
  | member e x => exact codeOf_filled h₀ (.member e x)
  | index e i => exact codeOf_filled h₀ (.index e i)

theorem declareCode_filled (d : Declaration) :
    declareCode s d = (declareCode s₀ d.holed).fill s.codeOf := by
  obtain ⟨t, x, v⟩ := d
  simp only [Declaration.holed, declareCode, text_holeAt, NameUse.ident_hole, Code.Stmt.fill,
    fill_hole]
  cases v with
  | none => simp only [Option.map_none, fill_defaultValue]
  | some e => simp only [Option.map_some, codeOf_filled h₀ e]

theorem forInitCode_filled (i : Option ForInit) : forInitCode s i
    = Code.Stmt.fillAll s.codeOf (forInitCode s₀ (i.map ForInit.holed)) := by
  match i with
  | none => rfl
  | some (.declare d) => exact congrArg (List.cons · []) (declareCode_filled h₀ d)
  | some (.assign t op e) =>
    simp only [Option.map_some, ForInit.holed, forInitCode, Code.Stmt.fillAll, fill_assignCode,
      targetCode_filled h₀ t, codeOf_filled h₀ e]

theorem forStepCode_filled (st : ForStep) :
    forStepCode s st = (forStepCode s₀ st.holed).fill s.codeOf := by
  cases st with
  | assign t op e =>
    rw [ForStep.holed, forStepCode, forStepCode, fill_assignCode, targetCode_filled h₀ t,
      codeOf_filled h₀ e]
  | step t op => rw [ForStep.holed, forStepCode, forStepCode, fill_stepCode, targetCode_filled h₀ t]
  | expr e => exact congrArg Code.Stmt.expr (codeOf_filled h₀ e)

theorem forStepCodes_filled (st : Option ForStep) : st.map (forStepCode s)
    = ((st.map ForStep.holed).map (forStepCode s₀)).map (Code.Stmt.fill s.codeOf) := by
  cases st with
  | none => rfl
  | some st => exact congrArg some (forStepCode_filled h₀ st)

omit h₀ in
theorem filterCode_filled (f : Option CatchFilter) : filterCode f
    = (filterCode (f.map CatchFilter.holed)).map id (Option.map Code.fillIdent) := by
  match f with
  | none => rfl
  | some ⟨t, none⟩ => rfl
  | some ⟨t, some x⟩ =>
    simp only [filterCode, Option.map_some, CatchFilter.holed, text_holeAt, NameUse.ident_hole,
      Prod.map_apply, fillIdent_declared, id]

end

section

variable {s s₀ : Scope}

mutual

/-- The code of a statement is its template with the codes of its bare names. -/
theorem stmtCode_filled (h₀ : s₀.names = noMembers) (n : Nat) : ∀ st : Stmt,
    stmtCode s n st = (stmtCode s₀ n st.holed).map (Code.Stmt.fillAll s.codeOf) id
  | .declare d => by
    rw [Stmt.holed, stmtCode, stmtCode, declareCode_filled h₀ d]
    rfl
  | .assign t op e => by
    rw [Stmt.holed, stmtCode, stmtCode, targetCode_filled h₀ t, codeOf_filled h₀ e,
      ← fill_assignCode]
    rfl
  | .step t op => by
    rw [Stmt.holed, stmtCode, stmtCode, targetCode_filled h₀ t, ← fill_stepCode]
    rfl
  | .ite c b r => by
    simp only [Stmt.holed, stmtCode, codeOf_filled h₀ c, bodyCode_filled h₀ n b,
      elseCode_filled h₀ _ r, Prod.map_fst, Prod.map_snd, id, ← fill_blockCode]
    rfl
  | .while c b => by
    simp only [Stmt.holed, stmtCode, codeOf_filled h₀ c, bodyCode_filled h₀ n b, Prod.map_fst,
      Prod.map_snd, id, ← fill_blockCode]
    rfl
  | .for i c st b => by
    simp only [Stmt.holed, stmtCode, forInitCode_filled h₀ i, option_filled h₀ c,
      forStepCodes_filled h₀ st, bodyCode_filled h₀ n b, Prod.map_fst, Prod.map_snd, id,
      ← fill_blockCode, ← fill_loopCode]
    simp only [Prod.map_apply, Code.Stmt.fillAll_append, id]
  | .foreach t x e b => by
    simp only [Stmt.holed, stmtCode, codeOf_filled h₀ e, bodyCode_filled h₀ n b, Prod.map_fst,
      Prod.map_snd, id, ← fill_blockCode, text_holeAt, NameUse.ident_hole, Prod.map_apply,
      Code.Stmt.fillAll, Code.Stmt.fill, fillIdent_declared]
  | .ret e => by
    rw [Stmt.holed, stmtCode, stmtCode, option_filled h₀ e]
    rfl
  | .brk | .cont => rfl
  | .throw e => by
    rw [Stmt.holed, stmtCode, stmtCode, option_filled h₀ e]
    rfl
  | .attempt b hs none => by
    simp only [Stmt.holed, stmtCode, bodyCode_filled h₀ n b, handlersCode_filled h₀ _ hs,
      Prod.map_fst, Prod.map_snd, id, ← fill_blockCode]
    rfl
  | .attempt b hs (some f) => by
    simp only [Stmt.holed, stmtCode, bodyCode_filled h₀ n b, handlersCode_filled h₀ _ hs,
      bodyCode_filled h₀ _ f, Prod.map_fst, Prod.map_snd, id, ← fill_blockCode]
    rfl
  | .expr e => by
    rw [Stmt.holed, stmtCode, stmtCode, codeOf_filled h₀ e]
    rfl
  | .block b => by
    simp only [Stmt.holed, stmtCode, bodyCode_filled h₀ n b, Prod.map_fst, Prod.map_snd, id,
      ← fill_blockCode]
    rfl

theorem bodyCode_filled (h₀ : s₀.names = noMembers) (n : Nat) : ∀ ss : List Stmt,
    bodyCode s n ss = (bodyCode s₀ n (Stmt.allHoled ss)).map (Code.Stmt.fillAll s.codeOf) id
  | [] => rfl
  | st :: ss => by
    simp only [Stmt.allHoled, bodyCode, stmtCode_filled h₀ n st, bodyCode_filled h₀ _ ss,
      Prod.map_fst, Prod.map_snd, id, Prod.map_apply, Code.Stmt.fillAll_append]

theorem elseCode_filled (h₀ : s₀.names = noMembers) (n : Nat) : ∀ r : Else,
    elseCode s n r = (elseCode s₀ n r.holed).map (Code.Tail.fill s.codeOf) id
  | .none => rfl
  | .block b => by
    simp only [Else.holed, elseCode, bodyCode_filled h₀ n b, Prod.map_fst, Prod.map_snd, id,
      ← fill_blockCode]
    rfl
  | .elseIf c b r => by
    simp only [Else.holed, elseCode, codeOf_filled h₀ c, bodyCode_filled h₀ n b,
      elseCode_filled h₀ _ r, Prod.map_fst, Prod.map_snd, id, ← fill_blockCode]
    rfl

theorem handlersCode_filled (h₀ : s₀.names = noMembers) (n : Nat) : ∀ hs : List Handler,
    handlersCode s n hs
      = (handlersCode s₀ n (Handler.allHoled hs)).map (Code.Handler.fillAll s.codeOf) id
  | [] => rfl
  | .mk f b :: hs => by
    simp only [Handler.allHoled, handlersCode, filterCode_filled f, bodyCode_filled h₀ n b,
      handlersCode_filled h₀ _ hs, Prod.map_fst, Prod.map_snd, id, ← fill_blockCode]
    rfl

end

end

/-! ## Members -/

/-- A class in progress with filled holes. -/
def Pieces.fill (κ : String → Code.Expr) (p : Pieces) : Pieces where
  methods := p.methods.map (Code.Function.fill κ)
  constructor? := p.constructor?.map fun c => (c.1.map Code.Param.fill, Code.Stmt.fillAll κ c.2)
  instanceFields := Code.Stmt.fillAll κ p.instanceFields
  staticFields := p.staticFields.map fun f => (f.1, f.2.fill κ)

/-- No code. -/
def Pieces.none : Pieces := ⟨[], Option.none, [], []⟩

/-- What is in one class in progress, then what is in another. The first constructor counts. -/
def Pieces.join (p q : Pieces) : Pieces where
  methods := p.methods ++ q.methods
  constructor? := p.constructor?.or q.constructor?
  instanceFields := p.instanceFields ++ q.instanceFields
  staticFields := p.staticFields ++ q.staticFields

/-- Whether a member is left out: it is a constructor, and there has been one. -/
def Pieces.leavesOut (p : Pieces) (m : Member) : Bool := isConstructor m && p.constructor?.isSome

/-- A member adds the code that it has by itself. -/
theorem memberCodeOf_eq (names : ClassNames) (p : Pieces) (n : Nat) (m : Member) :
    memberCodeOf names p n m = if p.leavesOut m then (p, n)
      else (memberCodeOf names .none n m).map p.join id := by
  cases m with
  | field ms d =>
    rw [if_neg (by simp [Pieces.leavesOut, isConstructor])]
    simp only [memberCodeOf]
    split <;> simp [Pieces.join, Pieces.none]
  | method ms t x ps b =>
    rw [if_neg (by simp [Pieces.leavesOut, isConstructor])]
    simp [memberCodeOf, Pieces.join, Pieces.none]
  | constructor ms x ps b =>
    simp only [Pieces.leavesOut, isConstructor, Bool.true_and]
    cases hp : p.constructor? with
    | none => simp [memberCodeOf, hp, Pieces.join, Pieces.none]
    | some c => simp [memberCodeOf, hp]


theorem paramsCode_filled (ps : List Param) :
    paramsCode ps = (paramsCode (ps.map Param.holed)).map Code.Param.fill := by
  unfold paramsCode
  simp only [List.map_map]
  refine List.map_congr_left fun p _ => ?_
  simp only [Function.comp_apply, Param.holed, text_holeAt, NameUse.ident_hole, Code.Param.fill,
    fillIdent_declared]

/-- The code of a member is its template with the codes of its bare names. -/
theorem memberCodeOf_filled (names : ClassNames) (n : Nat) (m : Member) :
    memberCodeOf names .none n m = (memberCodeOf noMembers .none n m.holed).map
      (Pieces.fill (memberScope names m).codeOf) id := by
  cases m with
  | field ms d =>
    have hvalue : fieldCode (fieldScope names (isStatic ms)) d
        = (fieldCode (fieldScope noMembers (isStatic ms))
          ⟨d.type, d.name, d.value.map Expr.holed⟩).fill
            (fieldScope names (isStatic ms)).codeOf := by
      obtain ⟨t, x, v⟩ := d
      cases v with
      | none => exact (fill_defaultValue _ _).symm
      | some e => exact codeOf_filled rfl e
    simp only [memberCodeOf, Member.holed, memberScope, hvalue]
    split
    · rfl
    · simp only [Prod.map_apply, Pieces.fill, Pieces.none, List.nil_append, Code.Stmt.fillAll,
        Code.Stmt.fill, Code.Expr.fill]
      rfl
  | method ms t x ps b =>
    have hscope : (bodyScope noMembers (isStatic ms) (ps.map Param.holed) (Stmt.allHoled b)).names
        = noMembers := rfl
    have hbody := bodyCode_filled (s := bodyScope names (isStatic ms) ps b) hscope n b
    have hself : selfParam.fill = selfParam :=
      congrArg (Code.Param.mk · none) (Code.fillIdent_of_none (by decide))
    simp only [memberCodeOf, Member.holed, memberScope, paramsCode_filled ps, hbody,
      Prod.map_fst, Prod.map_snd, id, ← fill_blockCode]
    split
    · rfl
    · rw [← hself]
      rfl
  | constructor ms x ps b =>
    have hscope : (bodyScope noMembers false (ps.map Param.holed) (Stmt.allHoled b)).names
        = noMembers := rfl
    have hbody := bodyCode_filled (s := bodyScope names false ps b) hscope n b
    simp only [memberCodeOf, Member.holed, memberScope, paramsCode_filled ps, hbody,
      Prod.map_fst, Prod.map_snd, id, ← fill_blockCode]
    rfl

end BraceScript.Lowering
