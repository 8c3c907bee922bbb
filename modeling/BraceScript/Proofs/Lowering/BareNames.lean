import BraceScript.Proofs.Lowering.InstanceRequired
import BraceScript.Proofs.Lowering.Templates

/-!
# What bare names become

A bare name that a member declares as a variable, in whatever block, is the variable. Any other is a
static member of its class if there is one of that name, else an instance member, else a global
(`StandsFor`). What it is translated to depends on nothing else, and not on where in the member it
stands (`bareName_resolved`). So a variable of one block hides a static member outside of the block
too (`static_hidden`).
-/

namespace BraceScript.Lowering

open Syntax
open Code (ident selfName)

/-- A class has a field or method of a name. -/
def HasMember (c : ClassDecl) (x : String) (static : Bool) : Prop :=
  ∃ k ∈ c.members, memberName? k = some (x, static)

/-- A member is a static field. -/
def IsStaticField : Member → Prop
  | .field ms _ => isStatic ms = true
  | _ => False

/-- What a bare name in a member of a class is translated to. Nothing is said of a variable with the
name that is an alias. -/
inductive StandsFor (c : ClassDecl) (m : Member) (x : String) : Code.Expr → Prop
  | variable (hdeclared : Declares (Outline.ofMember m) x) (halias : x ≠ "string") :
    StandsFor c m x (.name (ident x))
  | staticMember (hdeclared : ¬Declares (Outline.ofMember m) x) (hstatic : HasMember c x true)
    (hfield : ¬IsStaticField m) : StandsFor c m x (.attr (.name (ident c.name.text)) (ident x))
  | inClassBody (hdeclared : ¬Declares (Outline.ofMember m) x) (hstatic : HasMember c x true)
    (hfield : IsStaticField m) : StandsFor c m x (.name (ident x))
  | instanceMember (hdeclared : ¬Declares (Outline.ofMember m) x) (hstatic : ¬HasMember c x true)
    (hinstance : HasMember c x false) : StandsFor c m x (.attr (.name selfName) (ident x))
  | global (hdeclared : ¬Declares (Outline.ofMember m) x) (hstatic : ¬HasMember c x true)
    (hinstance : ¬HasMember c x false) : StandsFor c m x (.name (Scope.globalIdent x))
  | alias (hdeclared : Declares (Outline.ofMember m) x) (halias : x = "string") (e : Code.Expr) :
    StandsFor c m x e

theorem inClassBody_iff (names : ClassNames) (m : Member) :
    (memberScope names m).inClassBody = true ↔ IsStaticField m := by
  cases m with
  | field ms d => exact Iff.rfl
  | method ms t x ps b | constructor ms x ps b => exact iff_of_false Bool.false_ne_true id

/-- The code of a name in the scope of a member is what the name stands for. -/
theorem standsFor_codeOf (c : ClassDecl) (m : Member) (x : String) :
    StandsFor c m x ((memberScope (ClassNames.of c) m).codeOf x) := by
  have hlocals : (memberScope (ClassNames.of c) m).locals.contains x = true
      ↔ Declares (Outline.ofMember m) x := by
    rw [List.contains_iff_mem, mem_locals_iff]
  have hstatics : (ClassNames.of c).statics.contains x = true ↔ HasMember c x true := by
    rw [List.contains_iff_mem, mem_statics_iff, HasMember]
  have hinstances : (ClassNames.of c).instances.contains x = true ↔ HasMember c x false := by
    rw [List.contains_iff_mem, mem_instances_iff, HasMember]
  have hbody := inClassBody_iff (ClassNames.of c) m
  unfold Scope.codeOf Scope.meaning
  rw [names_memberScope]
  by_cases hdeclared : Declares (Outline.ofMember m) x
  · rw [if_pos (hlocals.mpr hdeclared)]
    by_cases halias : x = "string"
    · exact .alias hdeclared halias _
    · have hident : Scope.globalIdent x = ident x := by
        rw [Scope.globalIdent, beq_false_of_ne halias]
        rfl
      simp only [hident]
      exact .variable hdeclared halias
  rw [if_neg (mt hlocals.mp hdeclared)]
  by_cases hstatic : HasMember c x true
  · rw [if_pos (hstatics.mpr hstatic)]
    by_cases hfield : IsStaticField m
    · simp only [hbody.mpr hfield, if_true]
      exact .inClassBody hdeclared hstatic hfield
    · simp only [mt hbody.mp hfield]
      exact .staticMember hdeclared hstatic hfield
  rw [if_neg (mt hstatics.mp hstatic)]
  by_cases hinstance : HasMember c x false
  · rw [if_pos (hinstances.mpr hinstance)]
    exact .instanceMember hdeclared hstatic hinstance
  · rw [if_neg (mt hinstances.mp hinstance)]
    exact .global hdeclared hstatic hinstance

/-- The code that a member adds to its class is its template, in which each variable is named by its
identifier where it is declared, and each bare name by what it stands for. -/
theorem bareName_resolved (c : ClassDecl) (m : Member) : ∃ κ : String → Code.Expr,
    (∀ x, StandsFor c m x (κ x))
      ∧ ∀ p n, memberCodeOf (ClassNames.of c) p n m = if p.leavesOut m then (p, n)
        else (memberCodeOf noMembers .none n m.holed).map (fun t => p.join (t.fill κ)) id := by
  refine ⟨(memberScope (ClassNames.of c) m).codeOf, standsFor_codeOf c m, fun p n => ?_⟩
  rw [memberCodeOf_eq, memberCodeOf_filled, Prod.map_map]
  rfl

/-! ## Blocks -/

/-- A class with a static member that a variable has the name of, in a block that ends before the
name is read. -/
def hidingSource : List Char :=
  ("class P \x7b static int x = 5; "
    ++ "static int F() \x7b if (1 > 2) \x7b int x = 1; \x7d return x; \x7d \x7d").toList

/-- Whether a file is one class `P` with a static field `x` and a method without parameters: an `if`
and the return of `x`, for which the bare name is returned. -/
def returnsBare (f : SourceFile) : Bool :=
  match f.classes with
  | [c] =>
    match c.members with
    | [.field ms d, .method ms' ty name [] [.ite e b .none, .ret (some (.name t))]] =>
      let m := Member.method ms' ty name [] [.ite e b .none, .ret (some (.name t))]
      let code := bodyCode (memberScope (ClassNames.of c) m) 0
        [.ite e b .none, .ret (some (.name t))]
      isStatic ms && d.name.text == "x" && t.text == "x" && c.name.text == "P"
        && match code.1.getLast? with
          | some (.ret (some (.name i))) => i == "x"
          | _ => false
    | _ => false
  | _ => false

/-- A method without parameters returns a name that no block around the name declares, and that is a
static member of the class. The name is not returned as the member. -/
theorem static_hidden : ∃ f c ms ty name e b t, parse hidingSource = .ok f ∧ f.classes = [c]
    ∧ .method ms ty name [] [.ite e b .none, .ret (some (.name t))] ∈ c.members
    ∧ c.name.text = "P" ∧ t.text = "x" ∧ HasMember c "x" true
    ∧ (bodyCode (memberScope (ClassNames.of c)
        (.method ms ty name [] [.ite e b .none, .ret (some (.name t))])) 0
        [.ite e b .none, .ret (some (.name t))]).1.getLast? = some (.ret (some (.name "x")))
    ∧ Code.Expr.name "x" ≠ .attr (.name (ident "P")) (ident "x") := by
  have hfound : (match parse hidingSource with
      | .ok f => returnsBare f
      | .error _ => false) = true := by decide +kernel
  cases hparse : parse hidingSource with
  | error e =>
    rw [hparse] at hfound
    cases hfound
  | ok f =>
    rw [hparse] at hfound
    have hbare : returnsBare f = true := hfound
    unfold returnsBare at hbare
    split at hbare
    · next c hc =>
      split at hbare
      · next ms d ms' ty name e b t hm =>
        simp only [Bool.and_eq_true, beq_iff_eq] at hbare
        obtain ⟨⟨⟨⟨hms, hd⟩, ht⟩, hP⟩, hcode⟩ := hbare
        split at hcode
        · next i hi =>
          refine ⟨f, c, ms', ty, name, e, b, t, rfl, hc, ?_, hP, ht, ?_, ?_, ?_⟩
          · simp [hm]
          · exact ⟨.field ms d, by simp [hm], by simp [memberName?, hms, hd]⟩
          · rw [hi, eq_of_beq hcode]
          · intro h
            cases h
        · cases hcode
      · cases hbare
    · cases hbare

end BraceScript.Lowering
