import BraceScript.Proofs.Lowering.Initialisers

/-!
# What a class is made of

Every method becomes a function with the code of its body. The instance fields become assignments,
in the order of the text, and these stand in the initialiser between the call of that of the base
class and the body of the constructor (`exists_initialiser`). A class with neither has no
initialiser. A body that does nothing is left out behind other statements (`TrimsTo`).
-/

namespace BraceScript.Lowering

open Syntax
open Code (ident)

/-! ## Fields, methods and constructors -/

/-- The instance fields among members, in the order of the text. -/
def instanceFields (ms : List Member) : List Declaration :=
  ms.filterMap fun
    | .field ts d => if isStatic ts then none else some d
    | _ => none

/-- The assignment that gives an instance field its value. -/
def fieldSet (names : ClassNames) (d : Declaration) : Code.Stmt :=
  .assign (.attr (.name Code.selfName) (ident d.name.text)) (fieldCode (fieldScope names false) d)

/-- The parameters and the body of the first constructor. -/
def firstConstructor? : List Member → Option (List Param × List Stmt)
  | [] => none
  | .constructor _ _ ps b :: _ => some (ps, b)
  | .field .. :: ms | .method .. :: ms => firstConstructor? ms

/-- The code of a constructor; `k` is the number of flags used before. -/
def constructorCode (names : ClassNames) (k : Nat) (c : List Param × List Stmt) :
    List Code.Param × List Code.Stmt :=
  (paramsCode c.1, blockCode (bodyCode (bodyScope names false c.1 c.2) k c.2).1)

section
variable (names : ClassNames) (p : Pieces) (n : Nat) (ms : List Member)

theorem instanceFields_membersCode : (membersCode names p n ms).1.instanceFields
    = p.instanceFields ++ (instanceFields ms).map (fieldSet names) := by
  induction ms generalizing p n with
  | nil => simp [membersCode, instanceFields]
  | cons m ms ih =>
    rw [membersCode, ih]
    cases m with
    | field ts d =>
      by_cases hstatic : isStatic ts <;> simp [memberCodeOf, instanceFields, fieldSet, hstatic]
    | method => simp [memberCodeOf, instanceFields]
    | constructor =>
      simp only [memberCodeOf]
      split <;> simp [instanceFields]

/-- What is known of the constructor of a class in progress stays. -/
theorem constructor_kept {r : List Code.Param × List Code.Stmt} (h : p.constructor? = some r) :
    (membersCode names p n ms).1.constructor? = some r := by
  induction ms generalizing p n with
  | nil => exact h
  | cons m ms ih =>
    rw [membersCode]
    refine ih _ _ ?_
    cases m with
    | field ts =>
      simp only [memberCodeOf]
      split <;> exact h
    | method => exact h
    | constructor =>
      simp only [memberCodeOf, h]
      exact h

theorem constructor_membersCode (h : p.constructor? = none) :
    ∃ k, (membersCode names p n ms).1.constructor?
      = (firstConstructor? ms).map (constructorCode names k) := by
  induction ms generalizing p n with
  | nil => exact ⟨n, h⟩
  | cons m ms ih =>
    rw [membersCode]
    cases m with
    | field ts =>
      refine ih _ _ ?_
      simp only [memberCodeOf]
      split <;> exact h
    | method => exact ih _ _ h
    | constructor ts t ps b =>
      refine ⟨n, constructor_kept names _ _ ms ?_⟩
      simp only [memberCodeOf, h]
      rfl

/-- The methods that a class in progress has stay. -/
theorem method_kept {f : Code.Function} (h : f ∈ p.methods) :
    f ∈ (membersCode names p n ms).1.methods :=
  (membersCode_gathers names p n ms).kept h

end

/-- A method becomes a function with the code of its body. -/
theorem method_membersCode (names : ClassNames) (p : Pieces) (n : Nat) {ms : List Member}
    {ts : List Token} {t : TypeRef} {x : Token} {ps : List Param} {b : List Stmt}
    (h : .method ts t x ps b ∈ ms) :
    ∃ k, ⟨ident x.text, if isStatic ts then paramsCode ps else selfParam :: paramsCode ps,
      isStatic ts, blockCode (bodyCode (bodyScope names (isStatic ts) ps b) k b).1⟩
      ∈ (membersCode names p n ms).1.methods := by
  induction ms generalizing p n with
  | nil => cases h
  | cons m ms ih =>
    rw [membersCode]
    rcases List.mem_cons.mp h with rfl | h
    · exact ⟨n, method_kept names _ _ ms (List.mem_append_right _ List.mem_cons_self)⟩
    · exact ih _ _ h

/-! ## The initialiser -/

/-- Statements without a statement that does nothing at their end, if there are others. -/
inductive TrimsTo (body : List Code.Stmt) : List Code.Stmt → Prop
  | whole : TrimsTo body body
  | dropped {front : List Code.Stmt} (h : body = front ++ [.pass]) (hfront : front ≠ []) :
    TrimsTo body front

/-- All statements of the initialiser: the call of that of the base class, the instance fields, and
the body of the constructor; `k` is the number of flags used before. -/
def initBody (c : ClassDecl) (k : Nat) : List Code.Stmt :=
  (if c.base.isSome then [baseInit] else [])
    ++ (instanceFields c.members).map (fieldSet (ClassNames.of c))
    ++ match firstConstructor? c.members with
      | none => [.pass]
      | some r => (constructorCode (ClassNames.of c) k r).2

/-- The parameters of the constructor of a class. -/
def initParams (c : ClassDecl) : List Param := ((firstConstructor? c.members).map (·.1)).getD []

theorem isPass_iff {body : List Code.Stmt} : isPass body = true ↔ body = [.pass] := by
  constructor
  · intro h
    unfold isPass at h
    split at h
    · rfl
    · cases h
  · rintro rfl
    rfl

/-- A body behind lines, where a body that does nothing is left out if there are lines. -/
theorem trimsTo_body (lines body : List Code.Stmt) :
    TrimsTo (lines ++ body) (if isPass body && !lines.isEmpty then lines else lines ++ body) := by
  split
  · next h =>
    obtain ⟨hpass, hlines⟩ := Bool.and_eq_true_iff.mp h
    exact .dropped (by rw [isPass_iff.mp hpass]) (by simpa using hlines)
  · exact .whole

/-- A class with an instance field or a constructor has one initialiser, and any other one has
none. -/
theorem exists_initialiser (c : ClassDecl) (n : Nat) :
    ∃ methods inits, (classCode c n).1.functions = methods ++ inits
      ∧ (∀ f ∈ methods, ∃ m ∈ c.members, BecomesFunction m f)
      ∧ ((inits = [] ∧ firstConstructor? c.members = none ∧ instanceFields c.members = [])
        ∨ ((firstConstructor? c.members).isSome ∨ instanceFields c.members ≠ [])
          ∧ ∃ k body, TrimsTo (initBody c k) body
            ∧ inits = [⟨initName, selfParam :: paramsCode (initParams c), false, body⟩]) := by
  have hgathers := membersCode_gathers (ClassNames.of c) ⟨[], none, [], []⟩ n c.members
  have hfields := instanceFields_membersCode (ClassNames.of c) ⟨[], none, [], []⟩ n c.members
  obtain ⟨k, hconstructor⟩ :=
    constructor_membersCode (ClassNames.of c) ⟨[], none, [], []⟩ n c.members rfl
  refine ⟨_, _, rfl, fun f hf => (hgathers.methods f hf).resolve_left List.not_mem_nil, ?_⟩
  rw [List.nil_append] at hfields
  generalize (membersCode (ClassNames.of c) ⟨[], none, [], []⟩ n c.members).1 = q at *
  unfold initCode
  simp only [hfields, hconstructor, Option.isNone_map, List.isEmpty_map]
  by_cases hnone : (firstConstructor? c.members).isNone && (instanceFields c.members).isEmpty
  · rw [if_pos hnone]
    obtain ⟨hconstructor, hfields⟩ := Bool.and_eq_true_iff.mp hnone
    exact .inl ⟨rfl, Option.isNone_iff_eq_none.mp hconstructor, List.isEmpty_iff.mp hfields⟩
  · rw [if_neg hnone]
    refine .inr ⟨?_, k, ?_⟩
    · simpa [Option.isSome_iff_ne_none, ← not_and_or] using hnone
    · have htrims := trimsTo_body ((if c.base.isSome then [baseInit] else [])
        ++ (instanceFields c.members).map (fieldSet (ClassNames.of c)))
      unfold initBody initParams
      cases firstConstructor? c.members with
      | none => exact ⟨_, htrims [.pass], rfl⟩
      | some r => exact ⟨_, htrims (constructorCode (ClassNames.of c) k r).2, rfl⟩

end BraceScript.Lowering
