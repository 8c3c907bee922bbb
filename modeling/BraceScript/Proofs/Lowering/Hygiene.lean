import BraceScript.Proofs.Lowering.Renaming
import Mathlib

/-!
# Renaming a variable

A variable of a method or constructor can have another name. When neither name is mixed up with
anything else in the code of the member (`Hygienic`), the file with the new name has the problems
of the old file, and its code is the old code, where the identifiers of the two names are swapped
in one function (`lowerFile_rename`). What has to be kept apart from the names are the helpers
that lowering puts into code by itself, the flags of loops, and identifiers of other names: a
reserved word and its escaped form share one, and so do the two names of the type of texts.
-/

namespace BraceScript.Lowering

open Syntax
open Code (ident)

/-! ## The new name -/

/-- The name of a variable after `x` was renamed to `y`. -/
def newName (x y : String) (z : String) : String := if z = x then y else z

/-- The exchange that renames the variable `x` to `y`. -/
def variableExchange (x y : String) : Exchange :=
  ⟨fun t => { t with text := newName x y t.text }, id⟩

/-- The change of identifiers when `x` is renamed to `y`. -/
def swapped (x y : String) : String → String := Equiv.swap (ident x) (ident y)

theorem newName_self (x y : String) : newName x y x = y := if_pos rfl

theorem newName_of_ne {x z : String} (y : String) (h : z ≠ x) : newName x y z = z := if_neg h

theorem swapped_self (x y : String) : swapped x y (ident x) = ident y := Equiv.swap_apply_left ..

/-- Whether an identifier is that of neither name. -/
def Apart (x y : String) (i : String) : Prop := i ≠ ident x ∧ i ≠ ident y

theorem Apart.swapped_eq {x y i : String} (h : Apart x y i) : swapped x y i = i :=
  Equiv.swap_apply_of_ne_of_ne h.1 h.2

/-! ## Names that are kept apart -/

/-- The identifier that a name in a scope is looked up by. -/
def NameUse.ident (s : Scope) : NameUse → String
  | .bare z =>
    match s.meaning z with
    | .staticMember => if s.inClassBody then Code.ident z else Code.ident s.names.type
    | .instanceMember => Code.selfName
    | .variable | .global => Scope.globalIdent z
  | .declared z => Code.ident z
  | .type z => Code.ident z

/-- In a member with some scope and some names, the variable `x` and the name `y`, which does not
occur, become identifiers of their own. -/
structure Hygienic (s : Scope) (x y : String) (us : List NameUse) : Prop where
  isLocal : x ∈ s.locals
  notLocal : y ∉ s.locals
  unused : .bare y ∉ us
  notAlias : x ≠ "string" ∧ y ≠ "string"
  helpers : ∀ i ∈ helperIdents, Apart x y i
  flags : ∀ n, Apart x y (flagName n)
  others : ∀ u ∈ us, u ≠ .bare x → u ≠ .declared x → Apart x y (u.ident s)

/-- A scope after a variable was renamed. -/
def Scope.renamed (x y : String) (s : Scope) : Scope :=
  { s with locals := s.locals.map (newName x y) }

section

variable {s : Scope} {x y : String} {us : List NameUse}

theorem mem_map_newName {l : List String} {z : String} (hx : z ≠ x) (hy : z ≠ y) :
    z ∈ l.map (newName x y) ↔ z ∈ l := by
  rw [List.mem_map]
  constructor
  · rintro ⟨w, hw, rfl⟩
    by_cases hwx : w = x
    · exact absurd (by rw [hwx, newName_self]) hy
    · rwa [newName_of_ne y hwx]
  · exact fun hz => ⟨z, hz, newName_of_ne y hx⟩

theorem meaning_of_mem {z : String} (h : z ∈ s.locals) : s.meaning z = .variable := by
  rw [Scope.meaning, if_pos (List.contains_iff_mem.mpr h)]

/-- Other names mean what they meant. -/
theorem meaning_renamed {z : String} (hx : z ≠ x) (hy : z ≠ y) :
    (s.renamed x y).meaning z = s.meaning z := by
  have hlocals : (s.renamed x y).locals.contains z = s.locals.contains z := by
    rw [Bool.eq_iff_iff, List.contains_iff_mem, List.contains_iff_mem]
    exact mem_map_newName hx hy
  unfold Scope.meaning
  rw [hlocals]
  rfl

theorem meaning_new (h : x ∈ s.locals) : (s.renamed x y).meaning y = .variable :=
  meaning_of_mem (List.mem_map.mpr ⟨x, h, newName_self x y⟩)

theorem codeOf_renamed {z : String} (hx : z ≠ x) (hy : z ≠ y) :
    (s.renamed x y).codeOf z = s.codeOf z := by
  unfold Scope.codeOf
  rw [meaning_renamed hx hy]
  rfl

theorem codeOf_variable {z : String} (h : s.meaning z = .variable) (hz : z ≠ "string") :
    s.codeOf z = .name (ident z) := by
  have hglobal : Scope.globalIdent z = ident z := if_neg fun h => hz (beq_iff_eq.mp h)
  unfold Scope.codeOf
  rw [h, hglobal]

/-- Code of a bare name is kept when the identifier that it begins with is. -/
theorem rename_codeOf {r : String → String} {z : String}
    (h : r ((NameUse.bare z).ident s) = (NameUse.bare z).ident s) :
    (s.codeOf z).rename r = s.codeOf z := by
  simp only [NameUse.ident] at h
  unfold Scope.codeOf
  cases hm : s.meaning z with
  | staticMember =>
    simp only [hm] at h ⊢
    split at h
    · next hbody => rw [if_pos hbody, Code.Expr.rename, h]
    · next hbody => rw [if_neg hbody, Code.Expr.rename, Code.Expr.rename, h]
  | instanceMember | «variable» | global =>
    simp only [hm] at h ⊢
    simp only [Code.Expr.rename, h]

/-- With a new name for the variable, every name of the member is used as it was. -/
theorem Hygienic.fits (h : Hygienic s x y us) :
    ∀ u ∈ us, Fits (newName x y) (swapped x y) s (s.renamed x y) u := by
  intro u hu
  cases u with
  | bare z =>
    show (s.renamed x y).codeOf (newName x y z) = (s.codeOf z).rename (swapped x y)
    by_cases hz : z = x
    · subst hz
      rw [newName_self, codeOf_variable (meaning_new h.isLocal) h.notAlias.2,
        codeOf_variable (meaning_of_mem h.isLocal) h.notAlias.1, Code.Expr.rename, swapped_self]
    · have hy : z ≠ y := fun hy => h.unused (hy ▸ hu)
      have hapart := h.others _ hu (fun he => hz (NameUse.bare.inj he)) nofun
      rw [newName_of_ne y hz, codeOf_renamed hz hy, rename_codeOf hapart.swapped_eq]
  | declared z =>
    show ident (newName x y z) = swapped x y (ident z)
    by_cases hz : z = x
    · rw [hz, newName_self, swapped_self]
    · have hapart := h.others _ hu nofun fun he => hz (NameUse.declared.inj he)
      rw [newName_of_ne y hz]
      exact hapart.swapped_eq.symm
  | type z => exact (h.others _ hu nofun nofun).swapped_eq

theorem Hygienic.keepsFlags (h : Hygienic s x y us) : KeepsFlags (swapped x y) := fun n =>
  (h.flags n).swapped_eq

theorem Hygienic.renames (h : Hygienic s x y us) :
    Renames (variableExchange x y) (newName x y) (swapped x y) where
  bare := fun _ => rfl
  other := fun _ => rfl
  helper := fun i hi => (h.helpers i hi).swapped_eq

end

/-! ## Leaves are names in use -/

section

variable {t : Token}

mutual

theorem bare_mem_uses : ∀ {e : Expr}, .name t ∈ leaves e → .bare t.text ∈ uses e
  | .name u, h => by
    obtain rfl : t = u := by simpa [leaves] using h
    exact List.mem_singleton_self _
  | .group e, h => bare_mem_uses (e := e) h
  | .member e _, h => bare_mem_uses (e := e) h
  | .unary _ e, h => bare_mem_uses (e := e) h
  | .newArray _ e, h => bare_mem_uses (e := e) h
  | .elements _ es, h => bare_mem_allUses (l := es) h
  | .newObject _ es, h => List.mem_cons_of_mem _ (bare_mem_allUses (l := es) h)
  | .call f es, h => by
    rw [leaves, List.mem_append] at h
    rw [uses, List.mem_append]
    exact h.imp bare_mem_uses bare_mem_allUses
  | .index a b, h | .binary _ a b, h => by
    rw [leaves, List.mem_append] at h
    rw [uses, List.mem_append]
    exact h.imp bare_mem_uses bare_mem_uses
  | .choice c a b, h => by
    rw [leaves, List.mem_append, List.mem_append] at h
    rw [uses, List.mem_append, List.mem_append]
    exact h.imp (Or.imp bare_mem_uses bare_mem_uses) bare_mem_uses
  | .number _, h => by simp [leaves] at h
  | .string _, h | .char _, h | .true, h | .false, h | .null, h | .this, h => nomatch h

theorem bare_mem_allUses : ∀ {l : List Expr}, .name t ∈ allLeaves l → .bare t.text ∈ allUses l
  | [], h => nomatch h
  | e :: es, h => by
    rw [allLeaves, List.mem_append] at h
    rw [allUses, List.mem_append]
    exact h.imp bare_mem_uses bare_mem_allUses

end

theorem bare_mem_optionUses {e : Option Expr} (h : .name t ∈ optionLeaves e) :
    .bare t.text ∈ optionUses e := by
  cases e with
  | none => cases h
  | some e => exact bare_mem_uses h

theorem bare_mem_targetUses {u : Target} (h : .name t ∈ targetLeaves u) :
    .bare t.text ∈ targetUses u := by
  cases u with
  | name u =>
    obtain rfl : t = u := by simpa [targetLeaves] using h
    exact List.mem_singleton_self _
  | member e _ => exact bare_mem_uses (e := e) h
  | index e i => exact bare_mem_uses (e := .index e i) h

theorem bare_mem_forInitUses : ∀ {i : Option ForInit}, .name t ∈ forInitLeaves i →
    .bare t.text ∈ forInitUses i
  | none, h => nomatch h
  | some (.declare _), h => List.mem_cons_of_mem _ (bare_mem_optionUses h)
  | some (.assign u _ e), h => by
    rw [forInitLeaves, List.mem_append] at h
    rw [forInitUses, List.mem_append]
    exact h.imp bare_mem_targetUses bare_mem_uses

theorem bare_mem_forStepUses : ∀ {i : Option ForStep}, .name t ∈ forStepLeaves i →
    .bare t.text ∈ forStepUses i
  | none, h => nomatch h
  | some (.assign u _ e), h => by
    rw [forStepLeaves, List.mem_append] at h
    rw [forStepUses, List.mem_append]
    exact h.imp bare_mem_targetUses bare_mem_uses
  | some (.step u _), h => bare_mem_targetUses h
  | some (.expr e), h => bare_mem_uses h

mutual

theorem bare_mem_stmtUses : ∀ {st : Stmt}, .name t ∈ stmtLeaves st → .bare t.text ∈ stmtUses st
  | .declare _, h => List.mem_cons_of_mem _ (bare_mem_optionUses h)
  | .assign u _ e, h => by
    rw [stmtLeaves, List.mem_append] at h
    rw [stmtUses, List.mem_append]
    exact h.imp bare_mem_targetUses bare_mem_uses
  | .step u _, h => bare_mem_targetUses h
  | .ite c b e, h => by
    rw [stmtLeaves, List.mem_append, List.mem_append] at h
    rw [stmtUses, List.mem_append, List.mem_append]
    exact h.imp (Or.imp bare_mem_uses bare_mem_bodyUses) bare_mem_elseUses
  | .while c b, h => by
    rw [stmtLeaves, List.mem_append] at h
    rw [stmtUses, List.mem_append]
    exact h.imp bare_mem_uses bare_mem_bodyUses
  | .for i c st b, h => by
    simp only [stmtLeaves, List.mem_append] at h
    simp only [stmtUses, List.mem_append]
    exact h.imp (Or.imp (Or.imp bare_mem_forInitUses bare_mem_optionUses) bare_mem_forStepUses)
      bare_mem_bodyUses
  | .foreach _ x e b, h => by
    rw [stmtLeaves, List.mem_append] at h
    rw [stmtUses, List.mem_append]
    exact h.imp (fun h => List.mem_cons_of_mem _ (bare_mem_uses h)) bare_mem_bodyUses
  | .ret e, h | .throw e, h => bare_mem_optionUses h
  | .brk, h | .cont, h => nomatch h
  | .attempt b hs none, h => by
    rw [stmtLeaves, List.mem_append] at h
    rw [stmtUses, List.mem_append]
    exact h.imp bare_mem_bodyUses bare_mem_handlerUses
  | .attempt b hs (some f), h => by
    rw [stmtLeaves, List.mem_append, List.mem_append] at h
    rw [stmtUses, List.mem_append, List.mem_append]
    exact h.imp (Or.imp bare_mem_bodyUses bare_mem_handlerUses) bare_mem_bodyUses
  | .expr e, h => bare_mem_uses h
  | .block b, h => bare_mem_bodyUses (l := b) h

theorem bare_mem_bodyUses : ∀ {l : List Stmt}, .name t ∈ bodyLeaves l → .bare t.text ∈ bodyUses l
  | [], h => nomatch h
  | st :: ss, h => by
    rw [bodyLeaves, List.mem_append] at h
    rw [bodyUses, List.mem_append]
    exact h.imp bare_mem_stmtUses bare_mem_bodyUses

theorem bare_mem_elseUses : ∀ {e : Else}, .name t ∈ elseLeaves e → .bare t.text ∈ elseUses e
  | .none, h => nomatch h
  | .block b, h => bare_mem_bodyUses (l := b) h
  | .elseIf c b e, h => by
    rw [elseLeaves, List.mem_append, List.mem_append] at h
    rw [elseUses, List.mem_append, List.mem_append]
    exact h.imp (Or.imp bare_mem_uses bare_mem_bodyUses) bare_mem_elseUses

theorem bare_mem_handlerUses : ∀ {l : List Handler}, .name t ∈ handlerLeaves l →
    .bare t.text ∈ handlerUses l
  | [], h => nomatch h
  | .mk f b :: hs, h => by
    rw [handlerLeaves, List.mem_append] at h
    rw [handlerUses, List.mem_append, List.mem_append]
    exact h.imp (fun h => .inr (bare_mem_bodyUses h)) bare_mem_handlerUses

end

end

/-! ## Members -/

/-- The scope of what is written in a member. -/
def memberScope (names : ClassNames) : Member → Scope
  | .field ms _ => fieldScope names (isStatic ms)
  | .method ms _ _ ps b => bodyScope names (isStatic ms) ps b
  | .constructor _ _ ps b => bodyScope names false ps b

/-- The names in a member. -/
def memberUses : Member → List NameUse
  | .field _ d => optionUses d.value
  | .method _ _ _ ps b | .constructor _ _ ps b =>
    ps.map (fun p => .declared p.name.text) ++ bodyUses b

/-- A function that is called as before takes its parameters and does its work under other
names. -/
def renamedParams (r : String → String) (ps : List Code.Param) : List Code.Param :=
  ps.map fun p => ⟨r p.name, p.hint⟩

section

variable {x y : String} {names : ClassNames}

theorem bodyScope_exchange {static : Bool} {ps : List Param} {b : List Stmt} {us : List NameUse}
    (h : Hygienic (bodyScope names static ps b) x y us) :
    bodyScope names static (ps.map (Param.exchange (variableExchange x y)))
      (Stmt.exchangeAll (variableExchange x y) b) = (bodyScope names static ps b).renamed x y := by
  unfold bodyScope Scope.renamed
  rw [memberVariables_exchange h.renames]

theorem paramsCode_exchange {s : Scope} {ps : List Param} {us : List NameUse}
    (h : Hygienic s x y (ps.map (fun p => .declared p.name.text) ++ us)) :
    paramsCode (ps.map (Param.exchange (variableExchange x y)))
      = renamedParams (swapped x y) (paramsCode ps) := by
  unfold paramsCode renamedParams
  rw [List.map_map, List.map_map]
  refine List.map_congr_left fun p hp => ?_
  have hname : ident (newName x y p.name.text) = swapped x y (ident p.name.text) :=
    h.fits (.declared p.name.text)
      (List.mem_append_left _ (List.mem_map.mpr ⟨p, hp, rfl⟩))
  simp only [Function.comp_apply, Param.exchange, TypeRef.exchange, variableExchange, id, hname]

theorem bodyCode_rename {s : Scope} {ps : List Param} {b : List Stmt}
    (h : Hygienic s x y (ps.map (fun p => .declared p.name.text) ++ bodyUses b)) (n : Nat) :
    bodyCode (s.renamed x y) n (Stmt.exchangeAll (variableExchange x y) b)
      = (bodyCode s n b).map (Code.Stmt.renameAll (swapped x y)) id :=
  bodyCode_exchange h.renames h.keepsFlags n b fun u hu => h.fits u (List.mem_append_right _ hu)

theorem isStatic_exchange (ms : List Token) :
    isStatic (ms.map (variableExchange x y).other) = isStatic ms := by
  show isStatic (ms.map id) = _
  rw [List.map_id]

/-- A method whose variable is renamed becomes the function with other names. -/
theorem memberCodeOf_method {ms : List Token} {t : TypeRef} {name : Token} {ps : List Param}
    {b : List Stmt} (h : Hygienic (bodyScope names (isStatic ms) ps b) x y
      (memberUses (.method ms t name ps b))) (p : Pieces) (n : Nat) :
    ∃ f k, memberCodeOf names p n (.method ms t name ps b)
        = ({ p with methods := p.methods ++ [f] }, k)
      ∧ memberCodeOf names p n ((Member.method ms t name ps b).exchange (variableExchange x y))
        = ({ p with methods := p.methods ++ [f.rename (swapped x y)] }, k) := by
  have hself : swapped x y Code.selfName = Code.selfName :=
    h.renames.helper _ (by decide)
  refine ⟨_, _, rfl, ?_⟩
  simp only [Member.exchange, memberCodeOf, isStatic_exchange, bodyScope_exchange h,
    paramsCode_exchange h, bodyCode_rename h, Prod.map_fst, Prod.map_snd, id, ← rename_blockCode]
  cases isStatic ms with
  | true => rfl
  | false =>
    simp only [Code.Function.rename, renamedParams, selfParam, hself, variableExchange, id,
      Bool.false_eq_true, if_false, List.map_cons]

/-- So does a constructor, unless there is one already. -/
theorem memberCodeOf_constructor {ms : List Token} {name : Token} {ps : List Param}
    {b : List Stmt} (h : Hygienic (bodyScope names false ps b) x y
      (memberUses (.constructor ms name ps b))) {p : Pieces} (hp : p.constructor? = none) (n : Nat) :
    ∃ params body k, memberCodeOf names p n (.constructor ms name ps b)
        = ({ p with constructor? := some (params, body) }, k)
      ∧ memberCodeOf names p n ((Member.constructor ms name ps b).exchange (variableExchange x y))
        = ({ p with constructor? := some (renamedParams (swapped x y) params,
            Code.Stmt.renameAll (swapped x y) body) }, k) := by
  let code := bodyCode (bodyScope names false ps b) n b
  refine ⟨paramsCode ps, blockCode code.1, code.2, ?_, ?_⟩
  · simp only [memberCodeOf, hp, Option.isSome_none, Bool.false_eq_true, if_false, code]
  · simp only [Member.exchange, memberCodeOf, hp, Option.isSome_none, Bool.false_eq_true, if_false,
      bodyScope_exchange h, paramsCode_exchange h, bodyCode_rename h, Prod.map_fst, Prod.map_snd,
      id, ← rename_blockCode, code]

/-! ## Pieces of a class -/

theorem modify_append_of_lt {α : Type} (f : α → α) {l : List α} {i : Nat} (hi : i < l.length)
    (l' : List α) : (l ++ l').modify i f = l.modify i f ++ l' := by
  induction l generalizing i with
  | nil => cases hi
  | cons a l ih =>
    cases i with
    | zero => rfl
    | succ i =>
      rw [List.cons_append, List.modify_succ_cons, ih (Nat.lt_of_succ_lt_succ hi),
        List.modify_succ_cons, List.cons_append]

theorem modify_append_length {α : Type} (f : α → α) (l l' : List α) (i : Nat) :
    (l ++ l').modify (l.length + i) f = l ++ l'.modify i f := by
  induction l with
  | nil => rw [List.length_nil, Nat.zero_add, List.nil_append, List.nil_append]
  | cons a l ih =>
    rw [List.cons_append, List.length_cons, Nat.add_right_comm, List.modify_succ_cons, ih,
      List.cons_append]

/-- Pieces of a class where one function has other names. It is the constructor only if `init`
holds. -/
inductive Changed (r : String → String) (init : Prop) : Pieces → Pieces → Prop
  | same (p : Pieces) : Changed r init p p
  | method (p : Pieces) {i : Nat} : i < p.methods.length →
    Changed r init p { p with methods := p.methods.modify i (Code.Function.rename r) }
  | constructor (p : Pieces) {params : List Code.Param} {body : List Code.Stmt} : init →
    p.constructor? = some (params, body) → Changed r init p
      { p with constructor? := some (renamedParams r params, Code.Stmt.renameAll r body) }

section

variable {r : String → String} {init : Prop} {p q : Pieces}

/-- One more member on both sides. -/
theorem Changed.member (h : Changed r init p q) (names : ClassNames) (n : Nat) (m : Member) :
    Changed r init (memberCodeOf names p n m).1 (memberCodeOf names q n m).1
      ∧ (memberCodeOf names q n m).2 = (memberCodeOf names p n m).2 := by
  cases h with
  | same => exact ⟨.same _, rfl⟩
  | method hi =>
    cases m with
    | method ms t x ps b =>
      refine ⟨?_, rfl⟩
      have hlonger : Changed r init _ _ :=
        .method (memberCodeOf names p n (.method ms t x ps b)).1 (hi.trans (by simp [memberCodeOf]))
      simp only [memberCodeOf, modify_append_of_lt _ hi] at hlonger
      exact hlonger
    | field ms _ | constructor ms _ _ _ =>
      unfold memberCodeOf
      dsimp only
      split <;> exact ⟨.method _ hi, rfl⟩
  | constructor hinit hc =>
    cases m with
    | field ms d =>
      unfold memberCodeOf
      dsimp only
      split <;> exact ⟨.constructor _ hinit hc, rfl⟩
    | method ms t x ps b => exact ⟨.constructor _ hinit hc, rfl⟩
    | constructor ms x ps b =>
      simp only [memberCodeOf, hc, Option.isSome_some, if_true]
      exact ⟨.constructor _ hinit hc, trivial⟩

theorem Changed.members (h : Changed r init p q) (n : Nat) (ms : List Member) :
    Changed r init (membersCode names p n ms).1 (membersCode names q n ms).1
      ∧ (membersCode names q n ms).2 = (membersCode names p n ms).2 := by
  induction ms generalizing p q n with
  | nil => exact ⟨h, rfl⟩
  | cons m ms ih =>
    obtain ⟨hpieces, hflags⟩ := h.member names n m
    rw [membersCode, membersCode, hflags]
    exact ih hpieces _

end

/-- The pieces of a class with a member whose variable is renamed. -/
theorem membersCode_rename {m : Member} (h : Hygienic (memberScope names m) x y (memberUses m))
    (pre post : List Member) (p : Pieces) (n : Nat) :
    Changed (swapped x y) (isConstructor m = true) (membersCode names p n (pre ++ m :: post)).1
        (membersCode names p n (pre ++ m.exchange (variableExchange x y) :: post)).1
      ∧ (membersCode names p n (pre ++ m.exchange (variableExchange x y) :: post)).2
        = (membersCode names p n (pre ++ m :: post)).2 := by
  induction pre generalizing p n with
  | cons k pre ih =>
    rw [List.cons_append, List.cons_append, membersCode, membersCode]
    exact ih _ _
  | nil =>
    rw [List.nil_append, List.nil_append, membersCode, membersCode]
    cases m with
    | field ms d => exact absurd h.isLocal List.not_mem_nil
    | method ms t name ps b =>
      obtain ⟨f, k, hold, hnew⟩ := memberCodeOf_method h p n
      have hlast : (p.methods ++ [f]).modify p.methods.length (Code.Function.rename (swapped x y))
          = p.methods ++ [f.rename (swapped x y)] :=
        modify_append_length _ p.methods [f] 0
      have hlength : p.methods.length < (p.methods ++ [f]).length := by simp
      have hchanged : Changed (swapped x y) (false = true) _ _ :=
        .method { p with methods := p.methods ++ [f] } hlength
      rw [hold, hnew]
      rw [hlast] at hchanged
      exact hchanged.members k post
    | constructor ms name ps b =>
      by_cases hp : p.constructor? = none
      · obtain ⟨params, body, k, hold, hnew⟩ := memberCodeOf_constructor h hp n
        rw [hold, hnew]
        exact (Changed.constructor { p with constructor? := some (params, body) } rfl rfl).members
          k post
      · have hsome : p.constructor?.isSome = true := by
          rwa [← Option.isNone_iff_eq_none, ← Option.not_isSome, Bool.not_eq_true',
            Bool.not_eq_false] at hp
        simp only [Member.exchange, memberCodeOf, hsome, if_true]
        exact ⟨.same _, trivial⟩

/-! ## The initialiser -/

section

variable {r : String → String}

theorem isPass_renameAll (b : List Code.Stmt) : isPass (Code.Stmt.renameAll r b) = isPass b := by
  match b with
  | [] => rfl
  | [s] => cases s with
    | attempt b hs f => cases f <;> rfl
    | _ => rfl
  | s :: t :: b => cases s with
    | attempt b hs f => cases f <;> rfl
    | _ => rfl

/-- The initialiser of a class with a constructor, when its other lines keep their names. -/
theorem initCode_rename {p : Pieces} {params : List Code.Param} {body : List Code.Stmt}
    (hp : p.constructor? = some (params, body)) (hself : r Code.selfName = Code.selfName)
    (hsuper : r "super" = "super")
    (hfields : Code.Stmt.renameAll r p.instanceFields = p.instanceFields) (hasBase : Bool) :
    initCode hasBase { p with
        constructor? := some (renamedParams r params, Code.Stmt.renameAll r body) }
      = (initCode hasBase p).map (Code.Function.rename r) := by
  have hbase : baseInit.rename r = baseInit := by
    show Code.Stmt.expr (.call (.attr ((Code.Expr.apply "super" []).rename r) initName) []) = _
    rw [Code.Expr.rename_apply hsuper]
    rfl
  have hlines : Code.Stmt.renameAll r ((if hasBase then [baseInit] else []) ++ p.instanceFields)
      = (if hasBase then [baseInit] else []) ++ p.instanceFields := by
    rw [Code.Stmt.renameAll_append, hfields]
    cases hasBase with
    | false => rfl
    | true =>
      show [baseInit.rename r] ++ _ = _
      rw [hbase]
      rfl
  have hparams : renamedParams r (selfParam :: params) = selfParam :: renamedParams r params := by
    simp only [renamedParams, selfParam, hself, List.map_cons]
  simp only [initCode, hp, Option.isNone_some, Bool.false_and, Bool.false_eq_true, if_false,
    Option.getD_some, isPass_renameAll, List.map_cons, List.map_nil, Code.Function.rename]
  rw [← hparams]
  generalize (if hasBase then [baseInit] else []) ++ p.instanceFields = lines at hlines ⊢
  split
  · rw [hlines]
    rfl
  · rw [Code.Stmt.renameAll_append, hlines]
    rfl

end

/-! ## Classes -/

/-- In a class the variable `x` of a member and the name `y` become identifiers of their own. The
constructor shares its function with the values of fields and with the call of the base class. -/
structure ClassHygienic (c : ClassDecl) (m : Member) (x y : String) : Prop where
  inside : Hygienic (memberScope (ClassNames.of c) m) x y (memberUses m)
  base : isConstructor m → Apart x y "super"
  fields : isConstructor m → ∀ ms d, .field ms d ∈ c.members → isStatic ms = false →
    ∀ u ∈ optionUses d.value, Apart x y (u.ident (fieldScope (ClassNames.of c) false))

theorem Hygienic.keeps {s : Scope} {us : List NameUse} (h : Hygienic s x y us) :
    Renames (.uniform id) id (swapped x y) where
  bare := fun _ => rfl
  other := fun _ => rfl
  helper := h.renames.helper

theorem rename_fieldCode {r : String → String} (hr : Renames (.uniform id) id r) {s : Scope}
    {d : Declaration} (h : ∀ u ∈ optionUses d.value, r (u.ident s) = u.ident s) :
    (fieldCode s d).rename r = fieldCode s d := by
  obtain ⟨type, name, value⟩ := d
  cases value with
  | none => exact rename_defaultValue _ _
  | some e =>
    have hfits : ∀ u ∈ uses e, Fits id r s s u := by
      intro u hu
      cases u with
      | bare z => exact (rename_codeOf (h (.bare z) hu)).symm
      | declared z => exact (h (.declared z) hu).symm
      | type z => exact h (.type z) hu
    have hcode := codeOf_exchange hr e hfits
    rw [Expr.exchange_id] at hcode
    exact hcode.symm

/-- The lines that set the fields keep their names when the values of the fields do. -/
theorem renameAll_instanceFields {r : String → String} (hr : Renames (.uniform id) id r)
    {ms : List Member} (h : ∀ mods d, .field mods d ∈ ms → isStatic mods = false →
      ∀ u ∈ optionUses d.value, r (u.ident (fieldScope names false))
        = u.ident (fieldScope names false))
    {p : Pieces} (hp : Code.Stmt.renameAll r p.instanceFields = p.instanceFields) (n : Nat) :
    Code.Stmt.renameAll r (membersCode names p n ms).1.instanceFields
      = (membersCode names p n ms).1.instanceFields := by
  induction ms generalizing p n with
  | nil => exact hp
  | cons m ms ih =>
    refine ih (fun mods d hd => h mods d (List.mem_cons_of_mem m hd)) ?_ _
    cases m with
    | method => exact hp
    | constructor mods x ps b =>
      unfold memberCodeOf
      dsimp only
      split <;> exact hp
    | field mods d =>
      unfold memberCodeOf
      dsimp only
      split
      · exact hp
      · next hstatic =>
        have hstatic : isStatic mods = false := Bool.eq_false_of_not_eq_true hstatic
        have hvalue := rename_fieldCode hr (h mods d List.mem_cons_self hstatic)
        have hself : r Code.selfName = Code.selfName := hr.helper _ (by decide)
        rw [Code.Stmt.renameAll_append, hp, hstatic]
        simp only [Code.Stmt.renameAll, Code.Stmt.rename, Code.Expr.rename, hself, hvalue]

theorem Changed.staticFields {r : String → String} {init : Prop} {p q : Pieces}
    (h : Changed r init p q) : q.staticFields = p.staticFields := by
  cases h <;> rfl

/-- The functions of a class where one has other names. -/
theorem Changed.functions {r : String → String} {init : Prop} {p q : Pieces}
    (h : Changed r init p q) (hself : r Code.selfName = Code.selfName)
    (hinit : init → r "super" = "super"
      ∧ Code.Stmt.renameAll r p.instanceFields = p.instanceFields) (hasBase : Bool) :
    ∃ i, q.methods ++ initCode hasBase q
      = (p.methods ++ initCode hasBase p).modify i (Code.Function.rename r) := by
  cases h with
  | same => exact ⟨_, (List.modify_eq_self (le_refl _)).symm⟩
  | method hi => exact ⟨_, (modify_append_of_lt _ hi _).symm⟩
  | constructor hc hp =>
    obtain ⟨hsuper, hfields⟩ := hinit hc
    refine ⟨p.methods.length, ?_⟩
    have hcode := initCode_rename hp hself hsuper hfields hasBase
    have hone : ∃ f, initCode hasBase p = [f] := by
      unfold initCode
      rw [hp]
      exact ⟨_, rfl⟩
    obtain ⟨f, hf⟩ := hone
    rw [hf] at hcode ⊢
    rw [hcode]
    exact (modify_append_length _ p.methods [f] 0).symm

theorem memberName?_exchange (m : Member) :
    memberName? (m.exchange (variableExchange x y)) = memberName? m := by
  cases m with
  | constructor => rfl
  | field ms d | method ms _ d _ _ =>
    simp only [Member.exchange, memberName?, isStatic_exchange]
    rfl

variable {c : ClassDecl} {m : Member} {pre post : List Member}

/-- A class where a variable of one member is renamed. -/
def renamedClass (c : ClassDecl) (pre : List Member) (m : Member) (post : List Member)
    (x y : String) : ClassDecl :=
  { c with members := pre ++ m.exchange (variableExchange x y) :: post }

theorem classNames_rename (hc : c.members = pre ++ m :: post) :
    ClassNames.of (renamedClass c pre m post x y) = ClassNames.of c := by
  have hnames : (pre ++ m.exchange (variableExchange x y) :: post).filterMap memberName?
      = (pre ++ m :: post).filterMap memberName? := by
    rw [List.filterMap_append, List.filterMap_append, List.filterMap_cons, List.filterMap_cons,
      memberName?_exchange]
  unfold ClassNames.of renamedClass
  rw [hc]
  simp only [hnames]

/-- The code of a class with other names in one function. -/
def functionRenamed (i : Nat) (r : String → String) (code : Code.Class) : Code.Class :=
  { code with functions := code.functions.modify i (Code.Function.rename r) }

/-- When a variable of a member is renamed, one function of the class changes its names. -/
theorem classCode_rename (hc : c.members = pre ++ m :: post) (h : ClassHygienic c m x y)
    (n : Nat) : ∃ i, classCode (renamedClass c pre m post x y) n
      = (functionRenamed i (swapped x y) (classCode c n).1, (classCode c n).2) := by
  have hchanged := membersCode_rename h.inside pre post ⟨[], none, [], []⟩ n
  rw [← hc] at hchanged
  have hself : swapped x y Code.selfName = Code.selfName :=
    h.inside.renames.helper _ (by decide)
  have hinit : isConstructor m = true → swapped x y "super" = "super"
      ∧ Code.Stmt.renameAll (swapped x y)
          (membersCode (ClassNames.of c) ⟨[], none, [], []⟩ n c.members).1.instanceFields
        = (membersCode (ClassNames.of c) ⟨[], none, [], []⟩ n c.members).1.instanceFields := by
    intro hm
    refine ⟨(h.base hm).swapped_eq, renameAll_instanceFields h.inside.keeps ?_ rfl n⟩
    exact fun mods d hd hstatic u hu => (h.fields hm mods d hd hstatic u hu).swapped_eq
  obtain ⟨hpieces, hflags⟩ := hchanged
  obtain ⟨i, hfunctions⟩ := hpieces.functions hself hinit c.base.isSome
  refine ⟨i, ?_⟩
  unfold classCode functionRenamed
  rw [classNames_rename hc]
  simp only [renamedClass, hfunctions, hflags, hpieces.staticFields]

/-! ## Problems -/

/-- What is wrong with the leaves of a member does not change with the name of a variable. -/
theorem leavesFindings_rename {s : Scope} {us : List NameUse} (h : Hygienic s x y us)
    (file : String) {ls : List Leaf} (hls : ∀ t, .name t ∈ ls → .bare t.text ∈ us) :
    (ls.map (Leaf.exchange (variableExchange x y))).filterMap (leafFinding file (s.renamed x y))
      = ls.filterMap (leafFinding file s) := by
  rw [List.filterMap_map]
  refine List.filterMap_congr fun l hl => ?_
  cases l with
  | number t => rfl
  | name t =>
    have hnone : ∀ {s : Scope} {t : Token}, s.meaning t.text = .variable →
        leafFinding file s (.name t) = none := by
      intro s t hm
      rw [leafFinding, hm]
      rfl
    by_cases ht : t.text = x
    · have hnew : (Leaf.exchange (variableExchange x y) (.name t))
          = .name { t with text := y } := by
        show Leaf.name { t with text := newName x y t.text } = _
        rw [ht, newName_self]
      have hvariable : (s.renamed x y).meaning ({ t with text := y } : Token).text = .variable :=
        meaning_new h.isLocal
      rw [Function.comp_apply, hnew, hnone hvariable, hnone (meaning_of_mem (ht ▸ h.isLocal))]
    · have hy : t.text ≠ y := fun hy => h.unused (hy ▸ hls t hl)
      have hold : (Leaf.exchange (variableExchange x y) (.name t)) = .name t := by
        show Leaf.name { t with text := newName x y t.text } = _
        rw [newName_of_ne y ht]
      rw [Function.comp_apply, hold, leafFinding, leafFinding, meaning_renamed ht hy]
      rfl

theorem memberFindings_rename (h : Hygienic (memberScope names m) x y (memberUses m))
    (file : String) (first : Bool) :
    memberFindings file names first (m.exchange (variableExchange x y))
      = memberFindings file names first m := by
  cases m with
  | field ms d => exact absurd h.isLocal List.not_mem_nil
  | method ms t name ps b =>
    simp only [Member.exchange, memberFindings, isStatic_exchange, bodyScope_exchange h,
      bodyLeaves_exchange]
    exact leavesFindings_rename h file fun t ht => List.mem_append_right _ (bare_mem_bodyUses ht)
  | constructor ms name ps b =>
    have hleaves := leavesFindings_rename h file fun t ht =>
      List.mem_append_right _ (bare_mem_bodyUses ht)
    simp only [Member.exchange, memberFindings, bodyScope_exchange h, bodyLeaves_exchange]
    cases first with
    | false => rfl
    | true => exact congrArg _ hleaves

theorem isConstructor_renamed (m : Member) :
    isConstructor (m.exchange (variableExchange x y)) = isConstructor m := by
  cases m <;> rfl

theorem membersFindings_rename (h : Hygienic (memberScope names m) x y (memberUses m))
    (file : String) (seen : Bool) :
    membersFindings file names seen (pre ++ m.exchange (variableExchange x y) :: post)
      = membersFindings file names seen (pre ++ m :: post) := by
  induction pre generalizing seen with
  | nil =>
    rw [List.nil_append, List.nil_append, membersFindings, membersFindings,
      memberFindings_rename h, isConstructor_renamed]
  | cons k pre ih =>
    rw [List.cons_append, List.cons_append, membersFindings, membersFindings, ih]

theorem repeatedMembers_rename (type : String) (seen : List String) :
    repeatedMembers type seen (pre ++ m.exchange (variableExchange x y) :: post)
      = repeatedMembers type seen (pre ++ m :: post) := by
  have hkey : memberKey type (m.exchange (variableExchange x y)) = memberKey type m := by
    cases m <;> rfl
  induction pre generalizing seen with
  | nil => rw [List.nil_append, List.nil_append, repeatedMembers, repeatedMembers, hkey]
  | cons k pre ih =>
    rw [List.cons_append, List.cons_append, repeatedMembers, repeatedMembers]
    simp only [ih]

theorem classFindings_rename (hc : c.members = pre ++ m :: post) (h : ClassHygienic c m x y)
    (file : String) : classFindings file (renamedClass c pre m post x y) = classFindings file c := by
  unfold classFindings
  rw [classNames_rename hc, hc]
  simp only [renamedClass, repeatedMembers_rename, membersFindings_rename h.inside]

/-! ## Files -/

/-- A class with other names in one function of its code. -/
def TypeDecl.renamedIn (i : Nat) (r : String → String) (d : TypeDecl) : TypeDecl :=
  { d with code := functionRenamed i r d.code }

/-- The code of a file where a variable is renamed. -/
theorem classesCode_rename (hc : c.members = pre ++ m :: post) (h : ClassHygienic c m x y)
    (file : String) (before after : List ClassDecl) (n : Nat) :
    ∃ i, classesCode file n (before ++ renamedClass c pre m post x y :: after)
      = (classesCode file n (before ++ c :: after)).modify before.length
          (TypeDecl.renamedIn i (swapped x y)) := by
  induction before generalizing n with
  | nil =>
    obtain ⟨i, hcode⟩ := classCode_rename hc h n
    refine ⟨i, ?_⟩
    rw [List.nil_append, List.nil_append, classesCode, classesCode, hcode]
    rfl
  | cons b before ih =>
    rcases hb : classCode b n with ⟨code, k⟩
    obtain ⟨i, hrest⟩ := ih k
    refine ⟨i, ?_⟩
    rw [List.cons_append, List.cons_append, classesCode, classesCode, hb]
    dsimp only
    rw [hrest, List.length_cons, List.modify_succ_cons]

end

end BraceScript.Lowering
