import BraceScript.Proofs.Lowering.Hygiene

/-!
# Members with other expressions

A `Rewriting` of a scope puts other expressions and targets in the place of those of a member, with
the same code and the same findings. The statements around them stay as they are, so the code and
the problems of a file do as well (`lowerFile_rewrite`).
-/

namespace BraceScript.Lowering

open Syntax

/-- What is wrong with leaves in a scope. -/
def findings (file : String) (s : Scope) (ls : List Leaf) : List Finding :=
  ls.filterMap (leafFinding file s)

theorem findings_append (file : String) (s : Scope) (ls ks : List Leaf) :
    findings file s (ls ++ ks) = findings file s ls ++ findings file s ks :=
  List.filterMap_append

/-- Other expressions and targets, with the same code and the same findings. -/
structure Rewriting (s : Scope) where
  expr : Expr → Expr
  target : Target → Target
  codeOf_expr (e : Expr) : codeOf s (expr e) = codeOf s e
  targetCode_target (t : Target) : targetCode s (target t) = targetCode s t
  findings_expr (file : String) (e : Expr) :
    findings file s (leaves (expr e)) = findings file s (leaves e)
  findings_target (file : String) (t : Target) :
    findings file s (targetLeaves (target t)) = findings file s (targetLeaves t)

namespace Rewriting

variable {s : Scope} (ρ : Rewriting s)

/-! ## Statements -/

/-- A declaration with another value. -/
def declaration (d : Declaration) : Declaration := { d with value := d.value.map ρ.expr }

/-- The first part of a `for` head with other expressions. -/
def forInit : ForInit → ForInit
  | .declare d => .declare (ρ.declaration d)
  | .assign t op e => .assign (ρ.target t) op (ρ.expr e)

/-- The last part of a `for` head with other expressions. -/
def forStep : ForStep → ForStep
  | .assign t op e => .assign (ρ.target t) op (ρ.expr e)
  | .step t op => .step (ρ.target t) op
  | .expr e => .expr (ρ.expr e)

mutual

/-- A statement with other expressions. -/
def stmt : Stmt → Stmt
  | .declare d => .declare (ρ.declaration d)
  | .assign t op e => .assign (ρ.target t) op (ρ.expr e)
  | .step t op => .step (ρ.target t) op
  | .ite c b r => .ite (ρ.expr c) (body b) (otherwise r)
  | .while c b => .while (ρ.expr c) (body b)
  | .for i c st b => .for (i.map ρ.forInit) (c.map ρ.expr) (st.map ρ.forStep) (body b)
  | .foreach t x e b => .foreach t x (ρ.expr e) (body b)
  | .ret e => .ret (e.map ρ.expr)
  | .brk => .brk
  | .cont => .cont
  | .throw e => .throw (e.map ρ.expr)
  | .attempt b hs none => .attempt (body b) (handlers hs) none
  | .attempt b hs (some f) => .attempt (body b) (handlers hs) (some (body f))
  | .expr e => .expr (ρ.expr e)
  | .block b => .block (body b)

/-- Statements with other expressions. -/
def body : List Stmt → List Stmt
  | [] => []
  | st :: ss => stmt st :: body ss

/-- The rest of a conditional with other expressions. -/
def otherwise : Else → Else
  | .none => .none
  | .block b => .block (body b)
  | .elseIf c b r => .elseIf (ρ.expr c) (body b) (otherwise r)

/-- Handlers with other expressions. -/
def handlers : List Handler → List Handler
  | [] => []
  | .mk f b :: hs => .mk f (body b) :: handlers hs

end

/-! ### Code -/

theorem option_codeOf (e : Option Expr) : (e.map ρ.expr).map (codeOf s) = e.map (codeOf s) := by
  cases e with
  | none => rfl
  | some e => exact congrArg some (ρ.codeOf_expr e)

theorem declareCode_declaration (d : Declaration) :
    declareCode s (ρ.declaration d) = declareCode s d := by
  obtain ⟨type, name, value⟩ := d
  cases value with
  | none => rfl
  | some e =>
    show Code.Stmt.assign _ (codeOf s (ρ.expr e)) = _
    rw [ρ.codeOf_expr]
    rfl

theorem forInitCode_forInit (i : Option ForInit) :
    forInitCode s (i.map ρ.forInit) = forInitCode s i := by
  match i with
  | none => rfl
  | some (.declare d) => exact congrArg (List.cons · []) (ρ.declareCode_declaration d)
  | some (.assign t op e) =>
    simp only [Option.map_some, forInit, forInitCode, ρ.targetCode_target, ρ.codeOf_expr]

theorem forStepCode_forStep (st : Option ForStep) :
    (st.map ρ.forStep).map (forStepCode s) = st.map (forStepCode s) := by
  match st with
  | none => rfl
  | some (.assign t op e) =>
    simp only [Option.map_some, forStep, forStepCode, ρ.targetCode_target, ρ.codeOf_expr]
  | some (.step t op) => simp only [Option.map_some, forStep, forStepCode, ρ.targetCode_target]
  | some (.expr e) => simp only [Option.map_some, forStep, forStepCode, ρ.codeOf_expr]

mutual

theorem stmtCode_stmt (n : Nat) : ∀ st : Stmt, stmtCode s n (ρ.stmt st) = stmtCode s n st
  | .declare d => by simp only [stmt, stmtCode, ρ.declareCode_declaration]
  | .assign t op e => by simp only [stmt, stmtCode, ρ.targetCode_target, ρ.codeOf_expr]
  | .step t op => by simp only [stmt, stmtCode, ρ.targetCode_target]
  | .ite c b r => by
    simp only [stmt, stmtCode, ρ.codeOf_expr, bodyCode_body n b, elseCode_otherwise _ r]
  | .while c b => by simp only [stmt, stmtCode, ρ.codeOf_expr, bodyCode_body n b]
  | .for i c st b => by
    simp only [stmt, stmtCode, ρ.forInitCode_forInit, ρ.option_codeOf, ρ.forStepCode_forStep,
      bodyCode_body n b]
  | .foreach t x e b => by simp only [stmt, stmtCode, ρ.codeOf_expr, bodyCode_body n b]
  | .ret e => by simp only [stmt, stmtCode, ρ.option_codeOf]
  | .brk | .cont => rfl
  | .throw e => by simp only [stmt, stmtCode, ρ.option_codeOf]
  | .attempt b hs none => by
    simp only [stmt, stmtCode, bodyCode_body n b, handlersCode_handlers _ hs]
  | .attempt b hs (some f) => by
    simp only [stmt, stmtCode, bodyCode_body n b, handlersCode_handlers _ hs, bodyCode_body _ f]
  | .expr e => by simp only [stmt, stmtCode, ρ.codeOf_expr]
  | .block b => by simp only [stmt, stmtCode, bodyCode_body n b]

theorem bodyCode_body (n : Nat) : ∀ ss : List Stmt, bodyCode s n (ρ.body ss) = bodyCode s n ss
  | [] => rfl
  | st :: ss => by simp only [body, bodyCode, stmtCode_stmt n st, bodyCode_body _ ss]

theorem elseCode_otherwise (n : Nat) : ∀ r : Else, elseCode s n (ρ.otherwise r) = elseCode s n r
  | .none => rfl
  | .block b => by simp only [otherwise, elseCode, bodyCode_body n b]
  | .elseIf c b r => by
    simp only [otherwise, elseCode, ρ.codeOf_expr, bodyCode_body n b, elseCode_otherwise _ r]

theorem handlersCode_handlers (n : Nat) : ∀ hs : List Handler,
    handlersCode s n (ρ.handlers hs) = handlersCode s n hs
  | [] => rfl
  | .mk f b :: hs => by
    simp only [handlers, handlersCode, bodyCode_body n b, handlersCode_handlers _ hs]

end

/-! ### Variables -/

theorem forInitVariables_forInit (i : Option ForInit) :
    forInitVariables (i.map ρ.forInit) = forInitVariables i := by
  match i with
  | none | some (.declare _) | some (.assign ..) => rfl

mutual

theorem declared_stmt : ∀ st : Stmt, declared (ρ.stmt st) = declared st
  | .ite c b r => by simp only [stmt, declared, allDeclared_body b, elseDeclared_otherwise r]
  | .for i c st b => by
    simp only [stmt, declared, ρ.forInitVariables_forInit, allDeclared_body b]
  | .while _ b | .foreach _ _ _ b | .block b => by simp only [stmt, declared, allDeclared_body b]
  | .attempt b hs none => by
    simp only [stmt, declared, allDeclared_body b, handlersDeclared_handlers hs]
  | .attempt b hs (some f) => by
    simp only [stmt, declared, allDeclared_body b, handlersDeclared_handlers hs, allDeclared_body f]
  | .declare _ | .assign .. | .step .. | .ret _ | .brk | .cont | .throw _ | .expr _ => rfl

theorem allDeclared_body : ∀ ss : List Stmt, allDeclared (ρ.body ss) = allDeclared ss
  | [] => rfl
  | st :: ss => by simp only [body, allDeclared, declared_stmt st, allDeclared_body ss]

theorem elseDeclared_otherwise : ∀ r : Else, elseDeclared (ρ.otherwise r) = elseDeclared r
  | .none => rfl
  | .block b => by simp only [otherwise, elseDeclared, allDeclared_body b]
  | .elseIf c b r => by
    simp only [otherwise, elseDeclared, allDeclared_body b, elseDeclared_otherwise r]

theorem handlersDeclared_handlers : ∀ hs : List Handler,
    handlersDeclared (ρ.handlers hs) = handlersDeclared hs
  | [] => rfl
  | .mk f b :: hs => by
    simp only [handlers, handlersDeclared, allDeclared_body b, handlersDeclared_handlers hs]

end

/-! ### Findings -/

section
variable (file : String)

theorem findings_option (e : Option Expr) :
    findings file s (optionLeaves (e.map ρ.expr)) = findings file s (optionLeaves e) := by
  cases e with
  | none => rfl
  | some e => exact ρ.findings_expr file e

theorem findings_forInit (i : Option ForInit) :
    findings file s (forInitLeaves (i.map ρ.forInit)) = findings file s (forInitLeaves i) := by
  match i with
  | none => rfl
  | some (.declare d) => exact ρ.findings_option file d.value
  | some (.assign t op e) =>
    simp only [Option.map_some, forInit, forInitLeaves, findings_append, ρ.findings_target,
      ρ.findings_expr]

theorem findings_forStep (st : Option ForStep) :
    findings file s (forStepLeaves (st.map ρ.forStep)) = findings file s (forStepLeaves st) := by
  match st with
  | none => rfl
  | some (.assign t op e) =>
    simp only [Option.map_some, forStep, forStepLeaves, findings_append, ρ.findings_target,
      ρ.findings_expr]
  | some (.step t op) => exact ρ.findings_target file t
  | some (.expr e) => exact ρ.findings_expr file e

mutual

theorem findings_stmt : ∀ st : Stmt,
    findings file s (stmtLeaves (ρ.stmt st)) = findings file s (stmtLeaves st)
  | .declare d => ρ.findings_option file d.value
  | .assign t op e => by
    simp only [stmt, stmtLeaves, findings_append, ρ.findings_target, ρ.findings_expr]
  | .step t op => ρ.findings_target file t
  | .ite c b r => by
    simp only [stmt, stmtLeaves, findings_append, ρ.findings_expr, findings_body b,
      findings_otherwise r]
  | .while c b => by
    simp only [stmt, stmtLeaves, findings_append, ρ.findings_expr, findings_body b]
  | .for i c st b => by
    simp only [stmt, stmtLeaves, findings_append, ρ.findings_forInit, ρ.findings_option,
      ρ.findings_forStep, findings_body b]
  | .foreach t x e b => by
    simp only [stmt, stmtLeaves, findings_append, ρ.findings_expr, findings_body b]
  | .ret e | .throw e => ρ.findings_option file e
  | .brk | .cont => rfl
  | .attempt b hs none => by
    simp only [stmt, stmtLeaves, findings_append, findings_body b, findings_handlers hs]
  | .attempt b hs (some f) => by
    simp only [stmt, stmtLeaves, findings_append, findings_body b, findings_handlers hs,
      findings_body f]
  | .expr e => ρ.findings_expr file e
  | .block b => findings_body b

theorem findings_body : ∀ ss : List Stmt,
    findings file s (bodyLeaves (ρ.body ss)) = findings file s (bodyLeaves ss)
  | [] => rfl
  | st :: ss => by
    simp only [body, bodyLeaves, findings_append, findings_stmt st, findings_body ss]

theorem findings_otherwise : ∀ r : Else,
    findings file s (elseLeaves (ρ.otherwise r)) = findings file s (elseLeaves r)
  | .none => rfl
  | .block b => findings_body b
  | .elseIf c b r => by
    simp only [otherwise, elseLeaves, findings_append, ρ.findings_expr, findings_body b,
      findings_otherwise r]

theorem findings_handlers : ∀ hs : List Handler,
    findings file s (handlerLeaves (ρ.handlers hs)) = findings file s (handlerLeaves hs)
  | [] => rfl
  | .mk f b :: hs => by
    simp only [handlers, handlerLeaves, findings_append, findings_body b, findings_handlers hs]

end

end

end Rewriting

/-! ## Members -/

section
variable (ρ : ∀ s, Rewriting s) (names : ClassNames)

/-- A member with other expressions. -/
def Member.rewrite (m : Member) : Member :=
  let inside := ρ (memberScope names m)
  match m with
  | .field ms d => .field ms (inside.declaration d)
  | .method ms t x ps b => .method ms t x ps (inside.body b)
  | .constructor ms x ps b => .constructor ms x ps (inside.body b)

theorem bodyScope_body {s : Scope} (ρ : Rewriting s) (isStatic : Bool) (ps : List Param)
    (b : List Stmt) : bodyScope names isStatic ps (ρ.body b) = bodyScope names isStatic ps b := by
  unfold bodyScope memberVariables
  rw [ρ.allDeclared_body]

theorem memberCodeOf_rewrite (p : Pieces) (n : Nat) (m : Member) :
    memberCodeOf names p n (Member.rewrite ρ names m) = memberCodeOf names p n m := by
  cases m with
  | field ms d =>
    have hvalue : fieldCode (fieldScope names (isStatic ms))
        ((ρ (fieldScope names (isStatic ms))).declaration d)
        = fieldCode (fieldScope names (isStatic ms)) d := by
      obtain ⟨type, name, value⟩ := d
      cases value with
      | none => rfl
      | some e => exact (ρ _).codeOf_expr e
    simp only [Member.rewrite, memberScope, memberCodeOf, hvalue]
    rfl
  | method ms t x ps b =>
    simp only [Member.rewrite, memberScope, memberCodeOf, bodyScope_body, (ρ _).bodyCode_body]
  | constructor ms x ps b =>
    simp only [Member.rewrite, memberScope, memberCodeOf, bodyScope_body, (ρ _).bodyCode_body]

theorem membersCode_rewrite (p : Pieces) (n : Nat) (ms : List Member) :
    membersCode names p n (ms.map (Member.rewrite ρ names)) = membersCode names p n ms := by
  induction ms generalizing p n with
  | nil => rfl
  | cons m ms ih =>
    rw [List.map_cons, membersCode, memberCodeOf_rewrite, membersCode]
    exact ih _ _

theorem memberFindings_rewrite (file : String) (first : Bool) (m : Member) :
    memberFindings file names first (Member.rewrite ρ names m)
      = memberFindings file names first m := by
  cases m with
  | field ms d => exact (ρ _).findings_option file d.value
  | method ms t x ps b =>
    simp only [Member.rewrite, memberScope, memberFindings, bodyScope_body]
    exact (ρ _).findings_body file b
  | constructor ms x ps b =>
    have hbody := (ρ (bodyScope names false ps b)).findings_body file b
    simp only [Member.rewrite, memberScope, memberFindings, bodyScope_body]
    cases first with
    | false => rfl
    | true => exact congrArg _ hbody

theorem membersFindings_rewrite (file : String) (seen : Bool) (ms : List Member) :
    membersFindings file names seen (ms.map (Member.rewrite ρ names))
      = membersFindings file names seen ms := by
  induction ms generalizing seen with
  | nil => rfl
  | cons m ms ih =>
    have hkind : isConstructor (Member.rewrite ρ names m) = isConstructor m := by cases m <;> rfl
    rw [List.map_cons, membersFindings, memberFindings_rewrite, hkind, ih, membersFindings]

theorem repeatedMembers_rewrite (type : String) (seen : List String) (ms : List Member) :
    repeatedMembers type seen (ms.map (Member.rewrite ρ names)) = repeatedMembers type seen ms := by
  induction ms generalizing seen with
  | nil => rfl
  | cons m ms ih =>
    have hkey : memberKey type (Member.rewrite ρ names m) = memberKey type m := by cases m <;> rfl
    rw [List.map_cons, repeatedMembers, hkey, repeatedMembers]
    simp only [ih]

end

/-! ## Classes and files -/

section
variable (ρ : ∀ s, Rewriting s)

/-- A class with other expressions in its members. -/
def ClassDecl.rewrite (c : ClassDecl) : ClassDecl :=
  { c with members := c.members.map (Member.rewrite ρ (ClassNames.of c)) }

/-- A file with other expressions in its classes. -/
def SourceFile.rewrite (f : SourceFile) : SourceFile :=
  { f with classes := f.classes.map (ClassDecl.rewrite ρ) }

theorem classNames_rewrite (c : ClassDecl) :
    ClassNames.of (ClassDecl.rewrite ρ c) = ClassNames.of c := by
  have hname (m : Member) : memberName? (Member.rewrite ρ (ClassNames.of c) m) = memberName? m := by
    cases m <;> rfl
  have hnames : (ClassDecl.rewrite ρ c).members.filterMap memberName?
      = c.members.filterMap memberName? := by
    rw [ClassDecl.rewrite, List.filterMap_map]
    exact List.filterMap_congr fun m _ => hname m
  simp only [ClassNames.of, hnames]
  rfl

theorem classCode_rewrite (c : ClassDecl) (n : Nat) :
    classCode (ClassDecl.rewrite ρ c) n = classCode c n := by
  unfold classCode
  rw [classNames_rewrite, ClassDecl.rewrite, membersCode_rewrite]

theorem classFindings_rewrite (file : String) (c : ClassDecl) :
    classFindings file (ClassDecl.rewrite ρ c) = classFindings file c := by
  unfold classFindings
  rw [classNames_rewrite, ClassDecl.rewrite, repeatedMembers_rewrite, membersFindings_rewrite]

theorem classesCode_rewrite (file : String) (n : Nat) (cs : List ClassDecl) :
    classesCode file n (cs.map (ClassDecl.rewrite ρ)) = classesCode file n cs := by
  induction cs generalizing n with
  | nil => rfl
  | cons c cs ih =>
    rw [List.map_cons, classesCode, classCode_rewrite, classesCode]
    simp only [ih]
    rfl

/-- A file with other expressions in it has the same classes and the same problems. -/
theorem lowerFile_rewrite (path : String) (f : SourceFile) :
    lowerFile path (SourceFile.rewrite ρ f) = lowerFile path f := by
  have hfindings : (f.classes.map (ClassDecl.rewrite ρ)).flatMap (classFindings path)
      = f.classes.flatMap (classFindings path) := by
    rw [List.flatMap_map]
    exact List.flatMap_congr fun c _ => classFindings_rewrite ρ path c
  unfold lowerFile
  rw [SourceFile.rewrite, hfindings, classesCode_rewrite]

end

end BraceScript.Lowering
