import BraceScript.Program.Compile
import BraceScript.Proofs.Lowering.Renaming
import BraceScript.Proofs.Syntax.Layout
import Mathlib

/-!
# Classes do not depend on places

The code of a class is made of the texts of its tokens; where the tokens stand only matters to
diagnostics (`classesCode_exchange`). So texts whose tokens differ in their places alone have the
same classes (`lowerText_moved`).
-/

namespace BraceScript.Lowering

open Syntax

/-- An exchange of tokens for tokens of the same kind and text. -/
structure Alike (g : Token → Token) : Prop where
  kind : ∀ t, (g t).kind = t.kind
  text : ∀ t, (g t).text = t.text

/-- What makes up the code of a program: the names and bases of types with their code. -/
def TypeDecl.parts (d : TypeDecl) : String × Option String × Code.Class :=
  (d.name, d.base, d.code)

section

variable {g : Token → Token}

theorem Alike.renames (hg : Alike g) : Renames (.uniform g) id id where
  bare := hg.text
  other := hg.text
  helper := fun _ _ => rfl

theorem fits_self (s : Scope) : ∀ u, Fits id id s s u
  | .bare x => (Code.Expr.rename_id (s.codeOf x)).symm
  | .declared _ => rfl
  | .type _ => rfl

theorem Alike.codeOf (hg : Alike g) (s : Scope) (e : Expr) :
    codeOf s (e.exchange (.uniform g)) = codeOf s e := by
  rw [codeOf_exchange hg.renames e fun u _ => fits_self s u, Code.Expr.rename_id]

theorem Alike.bodyCode (hg : Alike g) (s : Scope) (n : Nat) (ss : List Stmt) :
    bodyCode s n (Stmt.exchangeAll (.uniform g) ss) = bodyCode s n ss := by
  rw [bodyCode_exchange hg.renames (fun _ => rfl) n ss fun u _ => fits_self s u]
  exact Prod.ext (Code.Stmt.renameAll_id _) rfl

/-! ## Members -/

theorem Alike.isStatic (hg : Alike g) (ms : List Token) : isStatic (ms.map g) = isStatic ms := by
  unfold Lowering.isStatic
  rw [List.any_map]
  congr 1
  funext t
  rw [Function.comp_apply, hg.kind]

theorem Alike.bodyScope (hg : Alike g) (names : ClassNames) (static : Bool) (ps : List Param)
    (b : List Stmt) :
    bodyScope names static (ps.map (Param.exchange (.uniform g)))
      (Stmt.exchangeAll (.uniform g) b) = bodyScope names static ps b := by
  unfold Lowering.bodyScope
  rw [memberVariables_exchange hg.renames, List.map_id]

theorem Alike.paramsCode (hg : Alike g) (ps : List Param) :
    paramsCode (ps.map (Param.exchange (.uniform g))) = paramsCode ps := by
  unfold Lowering.paramsCode
  rw [List.map_map]
  refine List.map_congr_left fun p _ => ?_
  simp only [Function.comp_apply, Param.exchange, TypeRef.exchange, Exchange.uniform_bare,
    Exchange.uniform_other, hg.text]

theorem Alike.fieldCode (hg : Alike g) (s : Scope) (d : Declaration) :
    fieldCode s (d.exchangeField (.uniform g)) = fieldCode s d := by
  obtain ⟨t, x, v⟩ := d
  cases v with
  | none =>
    simp only [Declaration.exchangeField, Lowering.fieldCode, Option.map_none, TypeRef.exchange,
      Exchange.uniform_other, hg.text]
  | some e => exact hg.codeOf s e

theorem Alike.memberName? (hg : Alike g) (m : Member) :
    memberName? (m.exchange (.uniform g)) = memberName? m := by
  cases m with
  | constructor => rfl
  | field ms d | method ms t n ps b =>
    simp only [Member.exchange, Lowering.memberName?, Declaration.exchangeField, Exchange.uniform,
      hg.text, hg.isStatic]

theorem Alike.classNames (hg : Alike g) (c : ClassDecl) :
    ClassNames.of (c.exchange (.uniform g)) = ClassNames.of c := by
  have hnames : (c.members.map (Member.exchange (.uniform g))).filterMap Lowering.memberName?
      = c.members.filterMap Lowering.memberName? := by
    rw [List.filterMap_map]
    exact List.filterMap_congr fun m _ => hg.memberName? m
  simp only [ClassNames.of, ClassDecl.exchange, ClassHead.exchange, Exchange.uniform_other, hg.text]
  rw [← hnames]

theorem Alike.memberCodeOf (hg : Alike g) (names : ClassNames) (p : Pieces) (n : Nat)
    (m : Member) :
    memberCodeOf names p n (m.exchange (.uniform g)) = memberCodeOf names p n m := by
  cases m with
  | field ms d =>
    have hname : (d.exchangeField (.uniform g)).name.text = d.name.text := hg.text d.name
    simp only [Member.exchange, Lowering.memberCodeOf, hg.fieldCode, hg.isStatic, hname,
      Exchange.uniform_other]
  | method ms t x ps b =>
    simp only [Member.exchange, Lowering.memberCodeOf, hg.isStatic, hg.bodyScope, hg.bodyCode,
      hg.paramsCode, Exchange.uniform_other, hg.text]
  | constructor ms x ps b =>
    simp only [Member.exchange, Lowering.memberCodeOf, hg.bodyScope, hg.bodyCode, hg.paramsCode]

theorem Alike.membersCode (hg : Alike g) (names : ClassNames) (p : Pieces) (n : Nat)
    (ms : List Member) :
    membersCode names p n (ms.map (Member.exchange (.uniform g))) = membersCode names p n ms := by
  induction ms generalizing p n with
  | nil => rfl
  | cons m ms ih =>
    rw [List.map_cons, Lowering.membersCode, hg.memberCodeOf, Lowering.membersCode]
    exact ih _ _

/-! ## Classes -/

theorem Alike.classCode (hg : Alike g) (c : ClassDecl) (n : Nat) :
    classCode (c.exchange (.uniform g)) n = classCode c n := by
  have hbase : (c.base.map g).map (fun b => Code.ident b.text)
      = c.base.map fun b => Code.ident b.text := by
    rw [Option.map_map]
    exact Option.map_congr fun b _ => congrArg Code.ident (hg.text b)
  unfold Lowering.classCode
  rw [hg.classNames]
  simp only [ClassDecl.exchange, ClassHead.exchange, hg.membersCode, Exchange.uniform_other,
    hg.text, Option.isSome_map]
  rw [hbase]

/-- The code of classes is made of the texts of their tokens. -/
theorem Alike.classesCode (hg : Alike g) (p q : String) (n : Nat) (cs : List ClassDecl) :
    (classesCode p n (cs.map (ClassDecl.exchange (.uniform g)))).map TypeDecl.parts
      = (classesCode q n cs).map TypeDecl.parts := by
  induction cs generalizing n with
  | nil => rfl
  | cons c cs ih =>
    have hbase : (c.base.map g).map (·.text) = c.base.map (·.text) := by
      rw [Option.map_map]
      exact Option.map_congr fun b _ => hg.text b
    rw [List.map_cons, Lowering.classesCode, hg.classCode, Lowering.classesCode, List.map_cons,
      List.map_cons, ih]
    simp only [TypeDecl.parts, ClassDecl.exchange, ClassHead.exchange, Exchange.uniform_other,
      hg.text]
    rw [hbase]

/-! ## Huge numbers -/

/-- Whether a finding ends the work on a file. -/
def Finding.isHuge : Finding → Bool
  | .problem _ => false
  | .hugeNumber _ => true

theorem settleFindings_complete (file : String) (fs : List Finding) :
    (settleFindings file fs).2 = !fs.any Finding.isHuge := by
  induction fs with
  | nil => rfl
  | cons f fs ih =>
    cases f with
    | problem d =>
      rw [settleFindings, List.any_cons]
      exact ih
    | hugeNumber n => rfl

/-- Whether a leaf is a number that cannot be converted. -/
def Leaf.isHuge : Leaf → Bool
  | .name _ => false
  | .number t => !(t.text.toList.contains '.' || t.text.length ≤ Number.digitLimit)

theorem leafFinding_isHuge (p : String) (s : Scope) (l : Leaf) :
    (leafFinding p s l).any Finding.isHuge = l.isHuge := by
  cases l with
  | name t =>
    simp only [leafFinding, Leaf.isHuge]
    split <;> rfl
  | number t =>
    simp only [leafFinding, Leaf.isHuge]
    by_cases h : (t.text.toList.contains '.' || t.text.length ≤ Number.digitLimit) = true
    · rw [if_pos h, h]
      rfl
    · rw [if_neg h, Bool.eq_false_of_not_eq_true h]
      rfl

theorem leavesFindings_isHuge (p : String) (s : Scope) (ls : List Leaf) :
    (ls.filterMap (leafFinding p s)).any Finding.isHuge = ls.any Leaf.isHuge := by
  rw [List.any_filterMap]
  congr 1
  funext l
  rw [← leafFinding_isHuge p s l]
  cases leafFinding p s l <;> rfl

theorem Alike.leavesHuge (hg : Alike g) (ls : List Leaf) :
    (ls.map (Leaf.exchange (.uniform g))).any Leaf.isHuge = ls.any Leaf.isHuge := by
  rw [List.any_map]
  congr 1
  funext l
  cases l with
  | name t => rfl
  | number t =>
    show Leaf.isHuge (.number (g t)) = _
    rw [Leaf.isHuge, hg.text, Leaf.isHuge]

/-- Whether a check comes upon a huge number in a member does not depend on places. -/
theorem Alike.memberFindings (hg : Alike g) (p q : String) (names : ClassNames) (first : Bool)
    (m : Member) :
    (memberFindings p names first (m.exchange (.uniform g))).any Finding.isHuge
      = (memberFindings q names first m).any Finding.isHuge := by
  cases m with
  | field ms d =>
    simp only [Member.exchange, Lowering.memberFindings, Declaration.exchangeField,
      optionLeaves_exchange, leavesFindings_isHuge, hg.leavesHuge]
  | method ms t x ps b =>
    simp only [Member.exchange, Lowering.memberFindings, bodyLeaves_exchange,
      leavesFindings_isHuge, hg.leavesHuge]
  | constructor ms x ps b =>
    simp only [Member.exchange, Lowering.memberFindings, Exchange.uniform_other, hg.text]
    cases first with
    | false => rfl
    | true =>
      simp only [if_true, List.any_append, bodyLeaves_exchange, leavesFindings_isHuge,
        hg.leavesHuge]
      congr 1
      split <;> rfl

theorem isConstructor_exchange (m : Member) :
    isConstructor (m.exchange (.uniform g)) = isConstructor m := by
  cases m <;> rfl

theorem Alike.membersFindings (hg : Alike g) (p q : String) (names : ClassNames) (seen : Bool)
    (ms : List Member) :
    (membersFindings p names seen (ms.map (Member.exchange (.uniform g)))).any Finding.isHuge
      = (membersFindings q names seen ms).any Finding.isHuge := by
  induction ms generalizing seen with
  | nil => rfl
  | cons m ms ih =>
    rw [List.map_cons, Lowering.membersFindings, List.any_append, hg.memberFindings p q,
      isConstructor_exchange, ih, Lowering.membersFindings, List.any_append]

theorem Alike.classFindings (hg : Alike g) (p q : String) (c : ClassDecl) :
    (classFindings p (c.exchange (.uniform g))).any Finding.isHuge
      = (classFindings q c).any Finding.isHuge := by
  have hproblems : ∀ (file : String) (c : ClassDecl),
      (Lowering.classFindings file c).any Finding.isHuge
        = (Lowering.membersFindings file (ClassNames.of c) false c.members).any Finding.isHuge := by
    intro file c
    rw [Lowering.classFindings, List.any_append, List.any_map, List.any_eq_false.mpr,
      Bool.false_or]
    exact fun _ _ => Bool.false_ne_true
  rw [hproblems, hproblems, hg.classNames]
  exact hg.membersFindings p q _ _ _

/-! ## Files -/

/-- The code of the classes of a file does not depend on places. -/
theorem Alike.lowerFile (hg : Alike g) (p q : String) (f : SourceFile) :
    (lowerFile p (f.exchange (.uniform g))).1.map TypeDecl.parts
      = (lowerFile q f).1.map TypeDecl.parts := by
  have hcomplete : (settleFindings p ((f.exchange (.uniform g)).classes.flatMap
        (Lowering.classFindings p))).2
      = (settleFindings q (f.classes.flatMap (Lowering.classFindings q))).2 := by
    rw [settleFindings_complete, settleFindings_complete, List.any_flatMap, List.any_flatMap,
      SourceFile.exchange, List.any_map]
    congr 2
    funext c
    exact hg.classFindings p q c
  unfold Lowering.lowerFile
  simp only [hcomplete]
  split
  · exact hg.classesCode p q 0 f.classes
  · rfl

end

end BraceScript.Lowering

namespace BraceScript.Syntax

theorem Token.moved_alike (lines columns : Nat) :
    Lowering.Alike (Token.moved lines columns) :=
  ⟨fun _ => rfl, fun _ => rfl⟩

/-- The place that was moved. -/
def Position.unmoved (lines columns : Nat) (p : Position) : Position :=
  ⟨p.line - lines, if p.line = 1 + lines then p.column - columns else p.column⟩

theorem Position.unmoved_moved (lines columns : Nat) (p : Position) :
    (p.moved lines columns).unmoved lines columns = p := by
  obtain ⟨line, column⟩ := p
  by_cases hline : line = 1
  · simp [moved, unmoved, hline]
  · simp [moved, unmoved, hline]

/-- A text that is moved is a source file just when the text is. -/
theorem parseTokens_moved (lines columns : Nat) (ts : List Token) :
    (parseTokens (ts.map (Token.moved lines columns))).toOption
      = (parseTokens ts).toOption.map
          (SourceFile.exchange (.uniform (Token.moved lines columns))) := by
  cases hts : parseTokens ts with
  | ok f =>
    rw [parseTokens_map (Token.moved_alike lines columns).kind hts]
    rfl
  | error e =>
    -- a file read from the moved tokens would be read from the tokens before the move as well
    cases hmoved : parseTokens (ts.map (Token.moved lines columns)) with
    | error e' => rfl
    | ok f =>
      let back : Token → Token := fun t => ⟨t.kind, t.text, t.position.unmoved lines columns⟩
      have hback : (ts.map (Token.moved lines columns)).map back = ts := by
        rw [List.map_map]
        refine List.map_id'' (fun t => ?_) ts
        show (⟨t.kind, t.text, (t.position.moved lines columns).unmoved lines columns⟩ : Token) = t
        rw [Position.unmoved_moved]
      have hok := parseTokens_map (g := back) (fun _ => rfl) hmoved
      rw [hback, hts] at hok
      exact nomatch hok

end BraceScript.Syntax

namespace BraceScript.Program

open Syntax Lowering

/-- Classes are made from a text that is a source file. -/
theorem lowerText_classes (path : String) (text : List Char) :
    (lowerText path text).1 = ((parse text).toOption.map fun f => (lowerFile path f).1).getD [] := by
  unfold lowerText
  cases parse text <;> rfl

/-- Texts whose tokens differ in their places alone have the same classes. -/
theorem lowerText_moved {a b : List Char} {lines columns : Nat} (p q : String)
    (h : scan a = (scan b).moved lines columns) :
    (lowerText p a).1.map TypeDecl.parts = (lowerText q b).1.map TypeDecl.parts := by
  have hcomplete : ∀ text, (scan text).ending = .complete →
      (parse text).toOption = (parseTokens (scan text).tokens).toOption := by
    intro text hending
    unfold parse
    simp only [hending]
  have hunknown : ∀ text c r, (scan text).ending = .unknown c r → (parse text).toOption = none := by
    intro text c r hending
    unfold parse
    simp only [hending]
    cases State.initial.shifts (scan text).tokens <;> rfl
  have hending : (scan a).ending = (scan b).ending.moved lines columns := by rw [h]; rfl
  rw [lowerText_classes, lowerText_classes]
  cases hb : (scan b).ending with
  | unknown c r =>
    rw [hb] at hending
    rw [hunknown b c r hb, hunknown a _ _ hending]
    rfl
  | complete =>
    rw [hb] at hending
    rw [hcomplete b hb, hcomplete a hending, h]
    simp only [Scan.moved, parseTokens_moved]
    cases (parseTokens (scan b).tokens).toOption with
    | none => rfl
    | some f => exact (Token.moved_alike lines columns).lowerFile p q f

end BraceScript.Program
