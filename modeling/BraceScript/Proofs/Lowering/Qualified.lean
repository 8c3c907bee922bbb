import BraceScript.Proofs.Entry
import BraceScript.Proofs.Eval.Compositional
import BraceScript.Proofs.Lowering.Compound
import BraceScript.Proofs.Lowering.Rewriting

/-!
# Qualified names

In its own class a member is named bare, or with what it is a member of in front: the current
object, or the class. A `Qualification` says which names are written out. The code of a file and its
problems do not depend on that, and in other classes the written out name of a static member stands
for the same place (`member_qualified`). A length is asked of what stands in front, though, whatever
its members are called (`count_qualified`), and so is a text by a call without arguments.
-/

namespace BraceScript.Lowering

open Syntax Eval
open Code (selfName ident)

/-! ## Names that are written out -/

/-- What may stand in front of the name of a member in a scope. A class is not named in the values
of its static fields, and neither where its name is an alias or that of a member. -/
inductive Qualifies (s : Scope) (t : Token) : Expr → Prop
  | object (hmember : s.meaning t.text = .instanceMember) (hobject : s.isStatic = false) :
    Qualifies s t .this
  | type {u : Token} (hmember : s.meaning t.text = .staticMember) (hbound : s.inClassBody = false)
    (hname : u.text = s.names.type) (halias : u.text ≠ "string")
    (hclass : s.meaning u.text ≠ .staticMember ∧ s.meaning u.text ≠ .instanceMember) :
    Qualifies s t (.name u)

/-- A choice of names of members that are written out, each with what stands in front of it. -/
structure Qualification (s : Scope) where
  owner? : Token → Option Expr
  qualifies (t : Token) (e : Expr) : owner? t = some e → Qualifies s t e
  noLength (t : Token) (e : Expr) : owner? t = some e → lengthMembers.contains t.text = false

/-- Whether a callee is a bare name that would ask for a text if it were written out. -/
def isToString : Expr → Bool
  | .group e => isToString e
  | .name t => t.text == "ToString"
  | _ => false

namespace Qualification

variable {s : Scope} (q : Qualification s)

mutual

/-- An expression with names written out. -/
def expr : Expr → Expr
  | .name t =>
    match q.owner? t with
    | none => .name t
    | some e => .member e t
  | .group e => .group (expr e)
  | .member e x => .member (expr e) x
  | .call f as => .call (if as.isEmpty && isToString f then f else expr f) (exprs as)
  | .index e i => .index (expr e) (expr i)
  | .unary op e => .unary op (expr e)
  | .binary op l r => .binary op (expr l) (expr r)
  | .choice c a b => .choice (expr c) (expr a) (expr b)
  | .newObject t as => .newObject t (exprs as)
  | .newArray t n => .newArray t (expr n)
  | .elements t es => .elements t (exprs es)
  | .number t => .number t
  | .string t => .string t
  | .char t => .char t
  | .true => .true
  | .false => .false
  | .null => .null
  | .this => .this

/-- Expressions with names written out. -/
def exprs : List Expr → List Expr
  | [] => []
  | e :: es => expr e :: exprs es

end

/-- A target with names written out. -/
def target : Target → Target
  | .name t =>
    match q.owner? t with
    | none => .name t
    | some e => .member e t
  | .member e x => .member (q.expr e) x
  | .index e i => .index (q.expr e) (q.expr i)

end Qualification

/-! ## Code -/

section
variable {s : Scope}

/-- The class of a scope is named by its identifier. -/
theorem codeOf_class {u : Token} (halias : u.text ≠ "string")
    (hclass : s.meaning u.text ≠ .staticMember ∧ s.meaning u.text ≠ .instanceMember) :
    s.codeOf u.text = .name (ident u.text) := by
  have hident : Scope.globalIdent u.text = ident u.text := by
    rw [Scope.globalIdent, beq_false_of_ne halias]
    rfl
  unfold Scope.codeOf
  cases hmeaning : s.meaning u.text with
  | staticMember => exact absurd hmeaning hclass.1
  | instanceMember => exact absurd hmeaning hclass.2
  | _ => exact congrArg Code.Expr.name hident

/-- A call with arguments is no request for a text. -/
theorem callCode_cons (text : Option Code.Expr) (callee a : Code.Expr) (as : List Code.Expr) :
    callCode text callee (a :: as) = callee.trail (.call · (a :: as)) := by
  cases text <;> rfl

/-- The code of a name that is written out is that of the bare name. -/
theorem Qualifies.memberCode {t : Token} {e : Expr} (h : Qualifies s t e)
    (hlength : lengthMembers.contains t.text = false) :
    memberCode (codeOf s e) t.text = s.codeOf t.text := by
  cases h with
  | object hmember =>
    rw [Lowering.memberCode, hlength, Scope.codeOf, hmember]
    rfl
  | type hmember hbound hname halias hclass =>
    have hcode := codeOf_class halias hclass
    rw [Lowering.memberCode, hlength, codeOf, hcode, Scope.codeOf, hmember, hbound, hname]
    rfl

namespace Qualification

variable (q : Qualification s)

mutual

theorem codeOf_expr : ∀ e : Expr, codeOf s (q.expr e) = codeOf s e
  | .name t => by
    rw [expr]
    cases howner : q.owner? t with
    | none => rfl
    | some e => exact (q.qualifies t e howner).memberCode (q.noLength t e howner)
  | .group e => codeOf_expr e
  | .member e x => by rw [expr, codeOf, codeOf_expr e, codeOf]
  | .call f as => by
    have has := codesOf_exprs as
    rw [expr]
    split
    · rw [codeOf, has, codeOf]
    · next hask =>
      rw [codeOf, codeOf_expr f, has, codeOf]
      cases as with
      | nil => rw [textCode_expr (Bool.eq_false_of_not_eq_true hask)]
      | cons a as =>
        rw [codesOf, callCode_cons, callCode_cons]
  | .index e i => by rw [expr, codeOf, codeOf_expr e, codeOf_expr i, codeOf]
  | .unary op e => by rw [expr, codeOf, codeOf_expr e, codeOf]
  | .binary op l r => by rw [expr, codeOf, codeOf_expr l, codeOf_expr r, codeOf]
  | .choice c a b => by rw [expr, codeOf, codeOf_expr c, codeOf_expr a, codeOf_expr b, codeOf]
  | .newObject t as => by rw [expr, codeOf, codesOf_exprs as, codeOf]
  | .newArray t n => by rw [expr, codeOf, codeOf_expr n, codeOf]
  | .elements t es => by rw [expr, codeOf, codesOf_exprs es, codeOf]
  | .number _ | .string _ | .char _ | .true | .false | .null | .this => rfl

theorem codesOf_exprs : ∀ es : List Expr, codesOf s (q.exprs es) = codesOf s es
  | [] => rfl
  | e :: es => by rw [exprs, codesOf, codeOf_expr e, codesOf_exprs es, codesOf]

theorem textCode_expr : ∀ {f : Expr}, isToString f = false → textCode s (q.expr f) = textCode s f
  | .group f, h => textCode_expr (f := f) h
  | .name t, h => by
    rw [expr]
    cases q.owner? t with
    | none => rfl
    | some e =>
      have htext : (t.text == "ToString") = false := h
      show (if t.text == "ToString" then some (codeOf s e) else none) = none
      rw [htext]
      rfl
  | .member e x, _ => by rw [expr, textCode, codeOf_expr e, textCode]
  | .call .., _ | .index .., _ | .unary .., _ | .binary .., _ | .choice .., _ | .newObject .., _
  | .newArray .., _ | .elements .., _ | .number _, _ | .string _, _ | .char _, _ | .true, _
  | .false, _ | .null, _ | .this, _ => rfl

end

theorem targetCode_target (t : Target) : targetCode s (q.target t) = targetCode s t := by
  cases t with
  | name t =>
    rw [target]
    cases howner : q.owner? t with
    | none => rfl
    | some e => exact (q.qualifies t e howner).memberCode (q.noLength t e howner)
  | member e x => exact q.codeOf_expr (.member e x)
  | index e i => exact q.codeOf_expr (.index e i)

end Qualification

end

/-! ## Findings -/

section
variable {s : Scope} (file : String)

theorem leafFinding_name {t : Token} (h : s.meaning t.text ≠ .instanceMember ∨ s.isStatic = false) :
    leafFinding file s (.name t) = none := by
  rw [leafFinding, if_neg]
  rw [Bool.and_eq_true, decide_eq_true_eq]
  rintro ⟨hmember, hstatic⟩
  rcases h with h | h
  · exact h hmember
  · rw [h] at hstatic
    cases hstatic

/-- Nothing is wrong with a name that may be written out, and with what then stands in front. -/
theorem Qualifies.findings {t : Token} {e : Expr} (h : Qualifies s t e) :
    findings file s [.name t] = [] ∧ findings file s (leaves e) = [] := by
  have hname {t : Token} (h : s.meaning t.text ≠ .instanceMember ∨ s.isStatic = false) :
      Lowering.findings file s [.name t] = [] := by
    rw [Lowering.findings, List.filterMap_cons, leafFinding_name file h]
    rfl
  cases h with
  | object _ hobject => exact ⟨hname (.inr hobject), rfl⟩
  | type hmember _ _ _ hclass =>
    refine ⟨hname (.inl ?_), hname (.inl hclass.2)⟩
    rw [hmember]
    nofun

namespace Qualification

variable (q : Qualification s)

mutual

theorem findings_expr : ∀ e : Expr,
    findings file s (leaves (q.expr e)) = findings file s (leaves e)
  | .name t => by
    rw [expr]
    cases howner : q.owner? t with
    | none => rfl
    | some e =>
      obtain ⟨hname, howner⟩ := (q.qualifies t e howner).findings file
      exact howner.trans hname.symm
  | .group e => findings_expr e
  | .member e x => findings_expr e
  | .call f as => by
    rw [expr]
    split <;> simp only [leaves, findings_append, findings_expr f, findings_exprs as]
  | .index e i => by simp only [expr, leaves, findings_append, findings_expr e, findings_expr i]
  | .unary _ e => findings_expr e
  | .binary _ l r => by simp only [expr, leaves, findings_append, findings_expr l, findings_expr r]
  | .choice c a b => by
    simp only [expr, leaves, findings_append, findings_expr c, findings_expr a, findings_expr b]
  | .newObject _ as => findings_exprs as
  | .newArray _ n => findings_expr n
  | .elements _ es => findings_exprs es
  | .number _ | .string _ | .char _ | .true | .false | .null | .this => rfl

theorem findings_exprs : ∀ es : List Expr,
    findings file s (allLeaves (q.exprs es)) = findings file s (allLeaves es)
  | [] => rfl
  | e :: es => by simp only [exprs, allLeaves, findings_append, findings_expr e, findings_exprs es]

end

theorem findings_target (t : Target) :
    findings file s (targetLeaves (q.target t)) = findings file s (targetLeaves t) := by
  cases t with
  | name t =>
    rw [target]
    cases howner : q.owner? t with
    | none => rfl
    | some e =>
      obtain ⟨hname, howner⟩ := (q.qualifies t e howner).findings file
      exact howner.trans hname.symm
  | member e x => exact q.findings_expr file e
  | index e i => exact q.findings_expr file (.index e i)

end Qualification

end

/-- Names that are written out, as a rewriting. -/
def Qualification.rewriting {s : Scope} (q : Qualification s) : Rewriting s where
  expr := q.expr
  target := q.target
  codeOf_expr := q.codeOf_expr
  targetCode_target := q.targetCode_target
  findings_expr := fun file => q.findings_expr file
  findings_target := fun file => q.findings_target file

/-- What is written out if everything is that may be. -/
def ownerOf (s : Scope) (t : Token) : Option Expr :=
  if lengthMembers.contains t.text then none
  else
    match s.meaning t.text with
    | .instanceMember => if s.isStatic then none else some .this
    | .staticMember =>
      if s.inClassBody || s.names.type == "string" || s.meaning s.names.type == .staticMember
        || s.meaning s.names.type == .instanceMember
      then none
      else some (.name ⟨.name, s.names.type, t.position⟩)
    | .variable | .global => none

/-- All names of members are written out that may be. -/
def writtenOut (s : Scope) : Qualification s where
  owner? := ownerOf s
  qualifies t e h := by
    unfold ownerOf at h
    split at h
    · cases h
    · split at h
      · next hmember =>
        split at h
        · cases h
        · next hobject =>
          cases h
          exact .object hmember (Bool.eq_false_of_not_eq_true hobject)
      · next hmember =>
        split at h
        · cases h
        · next hclass =>
          cases h
          simp only [Bool.or_eq_true, beq_iff_eq, not_or, Bool.not_eq_true] at hclass
          obtain ⟨⟨⟨hbound, halias⟩, hstatic⟩, hinstance⟩ := hclass
          exact .type hmember hbound rfl halias ⟨hstatic, hinstance⟩
      all_goals cases h
  noLength t e h := by
    unfold ownerOf at h
    split at h
    · cases h
    · next hlength => exact Bool.eq_false_of_not_eq_true hlength

/-! ## Members of a class from anywhere -/

/-- An identifier that code in a frame can only mean as a name of the program, with its value. -/
structure Denotes (frame : Frame) (σ : Store) (x : String) (v : Value) : Prop where
  meant : frame.meant x = x
  notOwn : frame.ownNames.contains x = false
  notLocal : σ.locals.get? x = none
  bound : σ.globals.get? x = some v

theorem Denotes.valueOf {frame : Frame} {σ : Store} {x : String} {v : Value}
    (h : Denotes frame σ x v) : valueOf frame x σ = (.ok v, σ) := by
  rw [valueOf_apply, h.meant, h.notLocal, h.notOwn]
  exact globalValue_of_get? h.bound

section
variable {s s' : Scope} {t u : Token}

/-- A static member has one code, whether it is bare or written out, in its class or elsewhere. -/
theorem static_code (h : Qualifies s t (.name u)) (hlength : lengthMembers.contains t.text = false)
    (hglobal : s'.meaning u.text = .global) :
    s'.codeOf u.text = .name (ident u.text)
      ∧ s.codeOf t.text = .attr (.name (ident u.text)) (ident t.text)
      ∧ memberCode (s'.codeOf u.text) t.text = s.codeOf t.text := by
  cases h with
  | type hmember hbound hname halias hclass =>
    have hcode : s.codeOf t.text = .attr (.name (ident u.text)) (ident t.text) := by
      rw [Scope.codeOf, hmember, hbound, hname]
      rfl
    have hclass' : s'.codeOf u.text = .name (ident u.text) := by
      refine codeOf_class halias ?_
      rw [hglobal]
      exact ⟨nofun, nofun⟩
    refine ⟨hclass', hcode, ?_⟩
    rw [hclass', hcode, memberCode, hlength]
    rfl

/-- A static member has one place, whether it is bare or written out. -/
theorem static_place (h : Qualifies s t (.name u))
    (hclass : s'.codeOf u.text = .name (ident u.text)) {frame : Frame} {σ : Store} {v : Value}
    (hv : Denotes frame σ (ident u.text) v) (n : Nat) :
    locate s frame (n + 1) (.name t) σ = (.ok (.attr v (ident t.text)), σ)
      ∧ locate s' frame (n + 1) (.member (.name u) t) σ = (.ok (.attr v (ident t.text)), σ) := by
  have hvalue : eval (n + 1) frame (.name (ident u.text)) σ = (.ok v, σ) := hv.valueOf
  cases h with
  | type hmember hbound hname halias _ =>
    have howner : s.owner? t.text = some (ident u.text) := by
      rw [Scope.owner?, hmember, hbound, hname]
      rfl
    have hident : s.identOf t.text = ident t.text := by rw [Scope.identOf, hmember]
    constructor
    · rw [locate, howner, hident]
      exact bind_of_ok _ hvalue
    · rw [locate, codeOf, hclass]
      exact bind_of_ok _ hvalue

end

/-- Whether names of members are bare or written out makes no difference to the code and the
problems of a file. And in every class the written out name of a static member has the code that the
bare name has in its own class; reading it, calling it, giving it a value and changing it all concern
one attribute of the class, in every frame in which that is no variable. -/
theorem member_qualified :
    (∀ (q : ∀ s, Qualification s) (path : String) (f : SourceFile),
      lowerFile path (SourceFile.rewrite (fun s => (q s).rewriting) f) = lowerFile path f)
    ∧ ∀ {s s' : Scope} {t u : Token}, Qualifies s t (.name u) →
      lengthMembers.contains t.text = false → s'.meaning u.text = .global →
        codeOf s' (.member (.name u) t) = codeOf s (.name t)
        ∧ (∀ as, t.text ≠ "ToString" ∨ as ≠ [] →
          codeOf s' (.call (.member (.name u) t) as) = .call (codeOf s (.name t)) (codesOf s' as))
        ∧ targetCode s' (.member (.name u) t) = targetCode s (.name t)
        ∧ ∀ {frame : Frame} {σ : Store} {v : Value}, Denotes frame σ (ident u.text) v →
          frame.meant (ident t.text) = ident t.text → ∀ n,
            eval (n + 2) frame (codeOf s (.name t)) σ = attrOf v (ident t.text) (apply (n + 1)) σ
            ∧ (∀ w, store (n + 2) frame (targetCode s (.name t)) w σ
              = setAttribute v (ident t.text) w (apply (n + 1)) σ)
            ∧ locate s frame (n + 1) (.name t) σ = (.ok (.attr v (ident t.text)), σ)
            ∧ locate s' frame (n + 1) (.member (.name u) t) σ
              = (.ok (.attr v (ident t.text)), σ) := by
  refine ⟨fun q path f => lowerFile_rewrite _ path f, fun {s s' t u} h hlength hglobal => ?_⟩
  obtain ⟨hclass, hcode, hmember⟩ := static_code h hlength hglobal
  refine ⟨hmember, fun as has => ?_, hmember, fun {frame σ v} hv hmeant n => ?_⟩
  · have htext : textCode s' (.member (.name u) t) = none ∨ codesOf s' as ≠ [] := by
      refine has.imp (fun htext => ?_) fun has => ?_
      · rw [textCode, beq_false_of_ne htext, if_neg Bool.false_ne_true]
      · cases as with
        | nil => exact absurd rfl has
        | cons a as => exact nofun
    have hcallee : codeOf s' (.member (.name u) t) = codeOf s (.name t) := hmember
    have hproduct : isProduct (codeOf s' (.member (.name u) t)) = false := by
      rw [hcallee, codeOf, hcode]
      rfl
    show callCode (textCode s' (.member (.name u) t)) (codeOf s' (.member (.name u) t)) _ = _
    rw [callCode_eq hproduct htext, hcallee]
  · have hplace := static_place h hclass hv n
    have htarget : Code.targetKind? (targetCode s (.name t)) = none := by
      rw [targetCode, hcode]
      rfl
    have hread : (Place.attr v (ident t.text)).read frame = attrOf v (ident t.text) := by
      rw [Place.read, hmeant]
    have hwrite (w : Value) : (Place.attr v (ident t.text)).write frame w
        = setAttribute v (ident t.text) w := by
      rw [Place.write, hmeant]
    refine ⟨?_, fun w => ?_, hplace⟩
    · show eval (n + 1 + 1) frame (targetCode s (.name t)) σ = _
      rw [eval_targetCode frame (n + 1) htarget, bind_of_ok _ hplace.1, hread]
      rfl
    · rw [store_targetCode frame (n + 1) htarget, bind_of_ok _ hplace.1, hwrite]
      rfl

/-- The names of a file that are written out, and `P.n` in a static member of `Q`, where `n` is a
static member of `P`. -/
theorem member_qualified_static :
    let token (x : String) : Token := ⟨.name, x, .start⟩
    let s : Scope := ⟨⟨"P", ["n", "F"], []⟩, true, [], false⟩
    let s' : Scope := ⟨⟨"Q", ["G"], []⟩, true, [], false⟩
    let frame : Frame := ⟨"Q", [], none⟩
    let σ : Store := { Store.empty "" with globals := [("P", .cls (.loaded 0))] }
    let m : Member := .method [⟨.word .kwStatic, "static", .start⟩] ⟨token "int", 0⟩ (token "F") []
      [.ret (some (.name (token "n")))]
    let f : SourceFile := ⟨[], [⟨⟨[], token "P", none⟩,
      [.field [⟨.word .kwStatic, "static", .start⟩] ⟨⟨token "int", 0⟩, token "n", none⟩, m]⟩]⟩
    Qualifies s (token "n") (.name (token "P")) ∧ lengthMembers.contains "n" = false
      ∧ s'.meaning "P" = .global ∧ Denotes frame σ "P" (.cls (.loaded 0)) ∧ frame.meant "n" = "n"
      ∧ lowerFile "" (SourceFile.rewrite (fun s => (writtenOut s).rewriting) f) = lowerFile "" f
      ∧ locate s' frame 1 (.member (.name (token "P")) (token "n")) σ
        = (.ok (.attr (.cls (.loaded 0)) "n"), σ) := by
  intro token s s' frame σ m f
  have h : Qualifies s (token "n") (.name (token "P")) :=
    .type (by decide) rfl rfl (by decide) (by decide)
  have hlength : lengthMembers.contains "n" = false := by decide
  have hglobal : s'.meaning "P" = .global := by decide
  have hv : Denotes frame σ "P" (.cls (.loaded 0)) := ⟨by decide, rfl, rfl, rfl⟩
  have hmeant : frame.meant "n" = "n" := by decide
  have hident (x : String) (hx : x ∈ ["n", "P"]) : ident x = x := by
    revert x
    decide
  obtain ⟨hfile, hstatic⟩ := member_qualified
  have hplace := ((hstatic h hlength hglobal).2.2.2 (hident "P" (by decide) ▸ hv)
    (hident "n" (by decide) ▸ hmeant) 0).2.2.2
  rw [show ident (token "n").text = "n" from hident "n" (by decide)] at hplace
  exact ⟨h, hlength, hglobal, hv, hmeant, hfile writtenOut "" f, hplace⟩

/-- A file with one class. -/
def classHost (source : String) : Host where
  tree := ⟨[(["a.cs"], .file (Text.encodeUtf8 source.toList))]⟩
  cwd := "/"
  home := "/"
  tempDir := "/"
  copies := []
  named := 0
  notices := []
  asked := []

/-- What the method `F` of a new object of the class `P` of a file gives, if that is a whole
number. -/
def answer? (source : String) : Option (Option Int) :=
  (Program.program? (Program.compile "utf-8" ["a.cs"] [] (classHost source)).1).bind fun p =>
    (Entry.loaded? (load p (prelude ""))).bind fun (types, s) =>
      (types.get? "P").map fun c =>
        match (running (do callAttr (← call c []) "F" []) s).1 with
        | .ok (.int i) => some i
        | _ => none

/-- The member `Count` of an object is no length, but one is asked of the object when it is written
out. -/
theorem count_qualified :
    answer? "class P \x7b int Count; int F() \x7b Count = 5; return Count; \x7d \x7d"
        = some (some 5)
      ∧ answer? "class P \x7b int Count; int F() \x7b Count = 5; return this.Count; \x7d \x7d"
        = some none := ⟨by decide +kernel, by decide +kernel⟩

end BraceScript.Lowering
