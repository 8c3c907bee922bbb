import BraceScript.Proofs.Lowering.Hygiene
import BraceScript.Proofs.Lowering.OneLine

/-!
# Blocks as indented code

`bodyNodes` says how the statements of a block are laid out: a simple statement is a line, and the
blocks of a conditional, a loop or a guarded block are suites below headers that stand one after
another; a block on its own is spliced in. The generated text of every block is read back as exactly
this, by its indentation alone (`readText_block`).
-/

namespace BraceScript.Lowering

open Syntax
open Code (Node OneLine IsHead Unbroken Opens Closes)

/-! ## Loops that go on -/

mutual

/-- Whether a statement goes on with the next round of a loop, at any depth. -/
def goesOn : Stmt → Bool
  | .cont => true
  | .ite _ b r => anyGoesOn b || elseGoesOn r
  | .while _ b | .for _ _ _ b | .foreach _ _ _ b | .block b => anyGoesOn b
  | .attempt b hs none => anyGoesOn b || handlersGoOn hs
  | .attempt b hs (some f) => anyGoesOn b || handlersGoOn hs || anyGoesOn f
  | _ => false

/-- Whether some statement goes on with the next round. -/
def anyGoesOn : List Stmt → Bool
  | [] => false
  | s :: ss => goesOn s || anyGoesOn ss

/-- Whether the rest of a conditional goes on with the next round. -/
def elseGoesOn : Else → Bool
  | .none => false
  | .block b => anyGoesOn b
  | .elseIf _ b r => anyGoesOn b || elseGoesOn r

/-- Whether some handler goes on with the next round. -/
def handlersGoOn : List Handler → Bool
  | [] => false
  | .mk _ b :: hs => anyGoesOn b || handlersGoOn hs

end

/-! ## Lines of simple statements -/

/-- A call of a helper with two arguments. -/
def helperText (f l r : String) : String := f ++ "(" ++ (l ++ ", " ++ r) ++ ")"

/-- The line of an assignment. -/
def assignText (op : AssignOp) (target value : String) : String :=
  match op with
  | .set => target ++ " = " ++ value
  | .add => target ++ " = " ++ helperText "_cs_add" target value
  | .sub => target ++ " -= " ++ value
  | .mul => target ++ " *= " ++ value
  | .div => target ++ " = " ++ helperText "_cs_div" target value
  | .mod => target ++ " = " ++ helperText "_cs_mod" target value

/-- The line of a step by one. -/
def stepText (op : StepOp) (target : String) : String :=
  match op with
  | .increment => target ++ " += 1"
  | .decrement => target ++ " -= 1"

/-- The head of a handler. -/
def catchText : Option CatchFilter → String
  | none => "except Exception:"
  | some ⟨t, none⟩ => "except " ++ Code.ident t.text ++ ":"
  | some ⟨t, some x⟩ => "except " ++ Code.ident t.text ++ " as " ++ Code.ident x.text ++ ":"

section
variable (s : Scope)

/-- The text of an expression. -/
def textOf (e : Expr) : String := (codeOf s e).print

/-- The text of a target. -/
def targetText (t : Target) : String := (targetCode s t).print

/-- The line of a declaration. -/
def declareText (d : Declaration) : String :=
  assignText .set (Code.ident d.name.text) (fieldCode s d).print

/-- The line of a keyword with an optional value behind it. -/
def keywordText (keyword : String) : Option Expr → String
  | none => keyword
  | some e => keyword ++ " " ++ textOf s e

/-- The line of the first part of a `for` head. -/
def forInitNodes : Option ForInit → List Node
  | none => []
  | some (.declare d) => [.line (declareText s d)]
  | some (.assign t op e) => [.line (assignText op (targetText s t) (textOf s e))]

/-- The line of the last part of a `for` head. -/
def forStepText : ForStep → String
  | .assign t op e => assignText op (targetText s t) (textOf s e)
  | .step t op => stepText op (targetText s t)
  | .expr e => textOf s e

/-! ## Layout of statements -/

/-- A suite: the statement that does nothing stands in an empty one. -/
def suiteNodes (ns : List Node) : List Node := if ns.isEmpty then [.line "pass"] else ns

/-- A loop with a head of three parts. The step is the last line of the suite, unless the body goes
on with the next round somewhere: then it is the first, below a flag. -/
def loopNodes (condition : Option Expr) (step : Option ForStep) (again : Bool)
    (suite : List Node) (n : Nat) : List Node × Nat :=
  let condition := (condition.map (textOf s)).getD "True"
  match step, again with
  | none, _ => ([.header ("while " ++ condition ++ ":") suite], n)
  | some st, false =>
    ([.header ("while " ++ condition ++ ":") (suite ++ [.line (forStepText s st)])], n)
  | some st, true =>
    let flag := flagName (n + 1)
    ([.line (assignText .set flag "False"),
      .header "while True:"
        (.header ("if " ++ flag ++ ":") [.line (forStepText s st)]
          :: .line (assignText .set flag "True")
          :: .header ("if " ++ ("not " ++ condition) ++ ":") [.line "break"] :: suite)], n + 1)

mutual

/-- How a statement is laid out; `n` is the number of flags used before. -/
def stmtNodes (n : Nat) : Stmt → List Node × Nat
  | .declare d => ([.line (declareText s d)], n)
  | .assign t op e => ([.line (assignText op (targetText s t) (textOf s e))], n)
  | .step t op => ([.line (stepText op (targetText s t))], n)
  | .ite c b r =>
    let body := bodyNodes n b
    let rest := elseNodes body.2 r
    (.header ("if " ++ textOf s c ++ ":") (suiteNodes body.1) :: rest.1, rest.2)
  | .while c b =>
    let body := bodyNodes n b
    ([.header ("while " ++ textOf s c ++ ":") (suiteNodes body.1)], body.2)
  | .for i c st b =>
    let body := bodyNodes n b
    let loop := loopNodes s c st (anyGoesOn b) (suiteNodes body.1) body.2
    (forInitNodes s i ++ loop.1, loop.2)
  | .foreach _ x e b =>
    let body := bodyNodes n b
    ([.header ("for " ++ Code.ident x.text ++ " in " ++ textOf s e ++ ":") (suiteNodes body.1)],
      body.2)
  | .ret e => ([.line (keywordText s "return" e)], n)
  | .brk => ([.line "break"], n)
  | .cont => ([.line "continue"], n)
  | .throw e => ([.line (keywordText s "raise" e)], n)
  | .attempt b hs none =>
    let body := bodyNodes n b
    let handlers := handlerNodes body.2 hs
    (.header "try:" (suiteNodes body.1) :: handlers.1, handlers.2)
  | .attempt b hs (some f) =>
    let body := bodyNodes n b
    let handlers := handlerNodes body.2 hs
    let cleanup := bodyNodes handlers.2 f
    (.header "try:" (suiteNodes body.1) :: handlers.1
      ++ [.header "finally:" (suiteNodes cleanup.1)], cleanup.2)
  | .expr e => ([.line (textOf s e)], n)
  | .block b =>
    let body := bodyNodes n b
    (suiteNodes body.1, body.2)

/-- How the statements of a block are laid out, one after another. -/
def bodyNodes (n : Nat) : List Stmt → List Node × Nat
  | [] => ([], n)
  | t :: ts =>
    let first := stmtNodes n t
    let rest := bodyNodes first.2 ts
    (first.1 ++ rest.1, rest.2)

/-- How the rest of a conditional is laid out, beside the first branch. -/
def elseNodes (n : Nat) : Else → List Node × Nat
  | .none => ([], n)
  | .block b =>
    let body := bodyNodes n b
    ([.header "else:" (suiteNodes body.1)], body.2)
  | .elseIf c b r =>
    let body := bodyNodes n b
    let rest := elseNodes body.2 r
    (.header ("elif " ++ textOf s c ++ ":") (suiteNodes body.1) :: rest.1, rest.2)

/-- How handlers are laid out, beside the guarded block. -/
def handlerNodes (n : Nat) : List Handler → List Node × Nat
  | [] => ([], n)
  | .mk f b :: hs =>
    let body := bodyNodes n b
    let rest := handlerNodes body.2 hs
    (.header (catchText f) (suiteNodes body.1) :: rest.1, rest.2)

end

end

/-! ## Loops in generated code -/

theorem anyContinues_append (xs ys : List Code.Stmt) :
    anyContinues (xs ++ ys) = (anyContinues xs || anyContinues ys) := by
  induction xs with
  | nil => rfl
  | cons x xs ih => rw [List.cons_append, anyContinues, ih, anyContinues, Bool.or_assoc]

@[simp]
theorem anyContinues_blockCode (xs : List Code.Stmt) :
    anyContinues (blockCode xs) = anyContinues xs := by
  cases xs <;> rfl

@[simp]
theorem continues_assignCode (op : AssignOp) (t e : Code.Expr) :
    continues (assignCode op t e) = false := by
  cases op <;> rfl

@[simp]
theorem continues_stepCode (op : StepOp) (t : Code.Expr) : continues (stepCode op t) = false := by
  cases op <;> rfl

section
variable (s : Scope)

@[simp]
theorem continues_forStepCode (st : ForStep) : continues (forStepCode s st) = false := by
  cases st with
  | assign t op e => exact continues_assignCode op _ _
  | step t op => exact continues_stepCode op _
  | expr e => rfl

@[simp]
theorem anyContinues_forInitCode (i : Option ForInit) :
    anyContinues (forInitCode s i) = false := by
  match i with
  | none | some (.declare d) => rfl
  | some (.assign t op e) => simp [forInitCode, anyContinues]

/-- A loop goes on where its body does. -/
theorem anyContinues_loopCode (c : Option Code.Expr) (st : Option ForStep)
    (body : List Code.Stmt) (n : Nat) :
    anyContinues (loopCode c (st.map (forStepCode s)) body n).1 = anyContinues body := by
  cases st with
  | none => simp [loopCode, anyContinues, continues]
  | some st =>
    by_cases h : anyContinues body = true
    · simp [loopCode, h, flaggedLoop, anyContinues, continues]
    · simp [loopCode, h, anyContinues, continues, anyContinues_append]

mutual

theorem continues_stmtCode (n : Nat) : ∀ t : Stmt, anyContinues (stmtCode s n t).1 = goesOn t
  | .declare _ | .ret _ | .brk | .cont | .throw _ | .expr _ => rfl
  | .assign t op e => by simp [stmtCode, anyContinues, goesOn]
  | .step t op => by simp [stmtCode, anyContinues, goesOn]
  | .ite c b r => by
    simp [stmtCode, anyContinues, continues, goesOn, continues_bodyCode n b, continues_elseCode _ r]
  | .while _ b | .foreach _ _ _ b | .block b => by
    simp [stmtCode, anyContinues, continues, goesOn, continues_bodyCode n b]
  | .for i c st b => by
    simp [stmtCode, anyContinues_append, anyContinues_loopCode, goesOn, continues_bodyCode n b]
  | .attempt b hs none => by
    simp [stmtCode, anyContinues, continues, goesOn, continues_bodyCode n b,
      continues_handlersCode _ hs]
  | .attempt b hs (some f) => by
    simp [stmtCode, anyContinues, continues, goesOn, continues_bodyCode n b,
      continues_handlersCode _ hs, continues_bodyCode _ f]

/-- The code of a block goes on with the next round where the block does. -/
theorem continues_bodyCode (n : Nat) : ∀ b : List Stmt,
    anyContinues (bodyCode s n b).1 = anyGoesOn b
  | [] => rfl
  | t :: ts => by
    rw [bodyCode, anyContinues_append, continues_stmtCode n t, continues_bodyCode _ ts, anyGoesOn]

theorem continues_elseCode (n : Nat) : ∀ r : Else,
    tailContinues (elseCode s n r).1 = elseGoesOn r
  | .none => rfl
  | .block b => by simp [elseCode, tailContinues, elseGoesOn, continues_bodyCode n b]
  | .elseIf c b r => by
    simp [elseCode, tailContinues, elseGoesOn, continues_bodyCode n b, continues_elseCode _ r]

theorem continues_handlersCode (n : Nat) : ∀ hs : List Handler,
    handlersContinue (handlersCode s n hs).1 = handlersGoOn hs
  | [] => rfl
  | .mk f b :: hs => by
    simp [handlersCode, handlersContinue, handlersGoOn, continues_bodyCode n b,
      continues_handlersCode _ hs]

end

/-! ## Generated lines -/

/-- Statements whose lines are those of nodes, with as many flags used. -/
structure Prints (code : List Code.Stmt × Nat) (nodes : List Node × Nat) : Prop where
  lines : Code.Stmt.allLines code.1 = Node.allLines nodes.1
  isEmpty : code.1.isEmpty = nodes.1.isEmpty
  flags : code.2 = nodes.2

theorem allLines_append (xs ys : List Code.Stmt) :
    Code.Stmt.allLines (xs ++ ys) = Code.Stmt.allLines xs ++ Code.Stmt.allLines ys := by
  induction xs with
  | nil => rfl
  | cons x xs ih =>
    rw [List.cons_append, Code.Stmt.allLines, ih, Code.Stmt.allLines, List.append_assoc]

/-- A suite is printed like a block. -/
theorem Prints.suite {code : List Code.Stmt × Nat} {nodes : List Node × Nat}
    (h : Prints code nodes) :
    Code.Stmt.allLines (blockCode code.1) = Node.allLines (suiteNodes nodes.1) := by
  unfold blockCode suiteNodes
  rw [h.isEmpty]
  split
  · rfl
  · exact h.lines

theorem print_helper (f : String) (l r : Code.Expr) :
    (Code.Expr.apply f [l, r]).print = helperText f l.print r.print := by
  simp [Code.Expr.apply, Code.Expr.print, Code.Expr.printAll, helperText]

theorem lines_assignCode (op : AssignOp) (t e : Code.Expr) :
    (assignCode op t e).lines = [assignText op t.print e.print] := by
  cases op with
  | set => rfl
  | add | div | mod => simp only [assignCode, assignText, Code.Stmt.lines, print_helper]
  | sub | mul =>
    simp only [assignCode, assignText, Code.Stmt.lines, Code.AugmentOp.text, String.append_assoc]
    rfl

theorem lines_stepCode (op : StepOp) (t : Code.Expr) :
    (stepCode op t).lines = [stepText op t.print] := by
  cases op <;>
    simp [stepCode, stepText, Code.Stmt.lines, Code.Expr.print, Code.AugmentOp.text,
      String.append_assoc]

theorem lines_declareCode (d : Declaration) : (declareCode s d).lines = [declareText s d] := rfl

theorem lines_forStepCode (st : ForStep) : (forStepCode s st).lines = [forStepText s st] := by
  cases st with
  | assign t op e => exact lines_assignCode op _ _
  | step t op => exact lines_stepCode op _
  | expr e => rfl

theorem lines_forInitCode (i : Option ForInit) :
    Code.Stmt.allLines (forInitCode s i) = Node.allLines (forInitNodes s i) := by
  match i with
  | none => rfl
  | some (.declare d) => rfl
  | some (.assign t op e) =>
    simp [forInitCode, forInitNodes, Code.Stmt.allLines, Node.allLines, Node.lines,
      lines_assignCode, targetText, textOf]

theorem withValue_map (keyword : String) (e : Option Expr) :
    Code.withValue keyword (e.map (codeOf s)) = keywordText s keyword e := by
  cases e <;> rfl

theorem handlerHead_filterCode (f : Option CatchFilter) :
    Code.handlerHead (filterCode f).1 (filterCode f).2 = catchText f := by
  match f with
  | none => rfl
  | some ⟨t, none⟩ | some ⟨t, some x⟩ => rfl

/-- One line. -/
theorem Prints.line {code : Code.Stmt} {text : String} (h : code.lines = [text]) (n : Nat) :
    Prints ([code], n) ([.line text], n) where
  lines := by simp [Code.Stmt.allLines, Node.allLines, Node.lines, h]
  isEmpty := rfl
  flags := rfl

/-- A header with its suite. -/
theorem Prints.headed {code : Code.Stmt} {text : String} {body : List Code.Stmt × Nat}
    {nodes : List Node × Nat} (hbody : Prints body nodes)
    (h : code.lines = text :: Code.indent (Code.Stmt.allLines (blockCode body.1))) :
    Prints ([code], body.2) ([.header text (suiteNodes nodes.1)], nodes.2) where
  lines := by simp [Code.Stmt.allLines, Node.allLines, Node.lines, h, hbody.suite]
  isEmpty := rfl
  flags := hbody.flags

/-- Code before other code. -/
theorem Prints.append {xs : List Code.Stmt} {ns : List Node} {code : List Code.Stmt × Nat}
    {nodes : List Node × Nat} {n m : Nat} (hfirst : Prints (xs, n) (ns, m))
    (hrest : Prints code nodes) : Prints (xs ++ code.1, code.2) (ns ++ nodes.1, nodes.2) where
  lines := by rw [allLines_append, Node.allLines_append, hfirst.lines, hrest.lines]
  isEmpty := by
    have hxs : xs.isEmpty = ns.isEmpty := hfirst.isEmpty
    match xs, ns, hxs with
    | [], [], _ => exact hrest.isEmpty
    | _ :: _, _ :: _, _ => rfl
  flags := hrest.flags

theorem prints_forInitCode (i : Option ForInit) (n : Nat) :
    Prints (forInitCode s i, n) (forInitNodes s i, n) where
  lines := lines_forInitCode s i
  isEmpty := by
    match i with
    | none | some (.declare _) | some (.assign ..) => rfl
  flags := rfl

theorem suiteNodes_ne_nil (ns : List Node) : suiteNodes ns ≠ [] := by
  cases ns <;> exact fun h => nomatch h

theorem blockCode_ne_nil (ss : List Code.Stmt) : blockCode ss ≠ [] := by
  cases ss <;> exact fun h => nomatch h

/-- The text of an optional condition. -/
theorem print_condition (c : Option Expr) :
    ((c.map (codeOf s)).getD .true).print = (c.map (textOf s)).getD "True" := by
  cases c <;> rfl

/-- A loop with a head of three parts. -/
theorem Prints.loop {b : List Stmt} {body : List Code.Stmt × Nat} {nodes : List Node × Nat}
    (hbody : Prints body nodes) (hcontinues : anyContinues body.1 = anyGoesOn b)
    (c : Option Expr) (st : Option ForStep) :
    Prints (loopCode (c.map (codeOf s)) (st.map (forStepCode s)) (blockCode body.1) body.2)
      (loopNodes s c st (anyGoesOn b) (suiteNodes nodes.1) nodes.2) := by
  have hcondition := print_condition s c
  have hsuite := hbody.suite
  unfold loopCode loopNodes
  cases st with
  | none =>
    refine ⟨?_, rfl, hbody.flags⟩
    simp [Code.Stmt.allLines, Code.Stmt.lines, Node.allLines, Node.lines, hcondition, hsuite]
  | some st =>
    simp only [Option.map_some, anyContinues_blockCode, hcontinues]
    cases hgoesOn : anyGoesOn b with
    | false =>
      refine ⟨?_, rfl, hbody.flags⟩
      simp [Code.Stmt.allLines, Code.Stmt.lines, Node.allLines, Node.lines, hcondition, hsuite,
        allLines_append, Node.allLines_append, lines_forStepCode]
    | true =>
      refine ⟨?_, rfl, congrArg (· + 1) hbody.flags⟩
      simp [flaggedLoop, Code.Stmt.allLines, Code.Stmt.lines, Code.Tail.lines, Node.allLines,
        Node.lines, hcondition, hsuite, lines_forStepCode, hbody.flags, Code.Expr.print,
        Code.UnaryOp.text, Code.indent, assignText]

mutual

theorem prints_stmtCode (n : Nat) : ∀ t : Stmt, Prints (stmtCode s n t) (stmtNodes s n t)
  | .declare d => .line (lines_declareCode s d) n
  | .assign t op e => .line (lines_assignCode op _ _) n
  | .step t op => .line (lines_stepCode op _) n
  | .ite c b r => by
    have hbody := prints_bodyCode n b
    have hrest := prints_elseCode (bodyCode s n b).2 r
    rw [stmtCode, stmtNodes, ← hbody.flags]
    refine ⟨?_, rfl, hrest.2⟩
    simp [Code.Stmt.allLines, Code.Stmt.lines, Node.allLines, Node.lines, hbody.suite, hrest.1,
      textOf]
  | .while c b => (prints_bodyCode n b).headed rfl
  | .for i c st b =>
    (prints_forInitCode s i n).append
      ((prints_bodyCode n b).loop s (continues_bodyCode s n b) c st)
  | .foreach _ x e b => (prints_bodyCode n b).headed rfl
  | .ret e => .line (by rw [Code.Stmt.lines, withValue_map]) n
  | .brk => .line rfl n
  | .cont => .line rfl n
  | .throw e => .line (by rw [Code.Stmt.lines, withValue_map]) n
  | .attempt b hs none => by
    have hbody := prints_bodyCode n b
    have hhandlers := prints_handlersCode (bodyCode s n b).2 hs
    rw [stmtCode, stmtNodes, ← hbody.flags]
    refine ⟨?_, rfl, hhandlers.2⟩
    simp [Code.Stmt.allLines, Code.Stmt.lines, Node.allLines, Node.lines, hbody.suite,
      hhandlers.1]
  | .attempt b hs (some f) => by
    have hbody := prints_bodyCode n b
    have hhandlers := prints_handlersCode (bodyCode s n b).2 hs
    have hcleanup := prints_bodyCode (handlersCode s (bodyCode s n b).2 hs).2 f
    rw [stmtCode, stmtNodes, ← hbody.flags, ← hhandlers.2]
    refine ⟨?_, rfl, hcleanup.flags⟩
    simp [Code.Stmt.allLines, Code.Stmt.lines, Node.allLines, Node.lines, Node.allLines_append,
      hbody.suite, hhandlers.1, hcleanup.suite]
  | .expr e => .line rfl n
  | .block b => by
    have hbody := prints_bodyCode n b
    refine ⟨hbody.suite, ?_, hbody.flags⟩
    rw [stmtCode, stmtNodes, List.isEmpty_eq_false_iff.mpr (blockCode_ne_nil _),
      List.isEmpty_eq_false_iff.mpr (suiteNodes_ne_nil _)]

/-- The code of a block is printed as it is laid out. -/
theorem prints_bodyCode (n : Nat) : ∀ b : List Stmt, Prints (bodyCode s n b) (bodyNodes s n b)
  | [] => ⟨rfl, rfl, rfl⟩
  | t :: ts => by
    have hfirst := prints_stmtCode n t
    have hrest := prints_bodyCode (stmtCode s n t).2 ts
    rw [bodyCode, bodyNodes, ← hfirst.flags]
    exact hfirst.append hrest

theorem prints_elseCode (n : Nat) : ∀ r : Else,
    (elseCode s n r).1.lines = Node.allLines (elseNodes s n r).1
      ∧ (elseCode s n r).2 = (elseNodes s n r).2
  | .none => ⟨rfl, rfl⟩
  | .block b => by
    have hbody := prints_bodyCode n b
    rw [elseCode, elseNodes]
    refine ⟨?_, hbody.flags⟩
    simp [Code.Tail.lines, Node.allLines, Node.lines, hbody.suite]
  | .elseIf c b r => by
    have hbody := prints_bodyCode n b
    have hrest := prints_elseCode (bodyCode s n b).2 r
    rw [elseCode, elseNodes, ← hbody.flags]
    refine ⟨?_, hrest.2⟩
    simp [Code.Tail.lines, Node.allLines, Node.lines, hbody.suite, hrest.1, textOf]

theorem prints_handlersCode (n : Nat) : ∀ hs : List Handler,
    Code.Handler.allLines (handlersCode s n hs).1 = Node.allLines (handlerNodes s n hs).1
      ∧ (handlersCode s n hs).2 = (handlerNodes s n hs).2
  | [] => ⟨rfl, rfl⟩
  | .mk f b :: hs => by
    have hbody := prints_bodyCode n b
    have hrest := prints_handlersCode (bodyCode s n b).2 hs
    rw [handlersCode, handlerNodes, ← hbody.flags]
    refine ⟨?_, hrest.2⟩
    simp [Code.Handler.allLines, Node.allLines, Node.lines, hbody.suite, hrest.1,
      handlerHead_filterCode]

end

end

/-! ## Lines that are read as what they are -/

theorem oneLine_helperText {f l r : String} (hf : OneLine f) (hl : OneLine l) (hr : OneLine r) :
    OneLine (helperText f l r) :=
  oneLine_between (hf.unbroken.append (by decide)) (hf.opens.append _)
    ((hl.unbroken.append (by decide)).append hr.unbroken) (by decide) (by decide)

theorem oneLine_assignText (op : AssignOp) {t e : String} (ht : OneLine t) (he : OneLine e) :
    OneLine (assignText op t e) := by
  cases op with
  | set | sub | mul => exact ht.join _ (by decide) he
  | add | div | mod => exact ht.join _ (by decide) (oneLine_helperText (by decide) ht he)

theorem oneLine_stepText (op : StepOp) {t : String} (ht : OneLine t) : OneLine (stepText op t) := by
  cases op <;> exact oneLine_trailer ht (by decide) (by decide)

theorem oneLine_flagName (n : Nat) : OneLine (flagName n) := by
  have hnumber := oneLine_digits n
  exact ⟨Unbroken.append (by decide) hnumber.unbroken, Opens.append (by decide) _,
    hnumber.closes.append _⟩

theorem isHead_catchText (f : Option CatchFilter)
    (h : Texts (Outline.ofOption Outline.ofFilter f).tokens) : IsHead (catchText f) := by
  match f with
  | none => exact ⟨by decide, by decide, by decide⟩
  | some ⟨t, none⟩ =>
    simp only [Outline.ofOption, Outline.ofFilter, Outline.tokens, Outline.allTokens,
      List.append_nil, texts_cons] at h
    exact .between (by decide) (by decide) (oneLine_ident h.1).unbroken
  | some ⟨t, some x⟩ =>
    simp only [Outline.ofOption, Outline.ofFilter, Outline.tokens, Outline.allTokens,
      List.append_nil, texts_append, texts_cons] at h
    have hname := (oneLine_ident h.2.1).unbroken
    refine .between ((Opens.append (by decide) _).append _) ?_ hname
    exact (Unbroken.append (by decide) (oneLine_ident h.1.1).unbroken).append (by decide)

section
variable {s : Scope} (hs : OneLine s.names.type)
include hs

theorem oneLine_targetText (t : Target) (h : Texts (Outline.ofTarget t).tokens) :
    OneLine (targetText s t) := by
  cases t with
  | name t =>
    simp only [Outline.ofTarget, Outline.tokens, Outline.allTokens, List.append_nil,
      texts_cons] at h
    exact oneLine_scopeCode hs h.1
  | member e x =>
    simp only [Outline.ofTarget, Outline.tokens, Outline.allTokens, List.append_nil,
      texts_append, texts_cons] at h
    exact oneLine_memberCode (oneLine_codeOf hs e h.1) h.2.1
  | index e i =>
    simp only [Outline.ofTarget, Outline.tokens, Outline.allTokens, List.append_nil,
      texts_append] at h
    exact oneLine_index (oneLine_codeOf hs e h.1) (oneLine_codeOf hs i h.2)

theorem oneLine_declareText (d : Declaration) (h : Texts (Outline.ofDeclaration d).tokens) :
    OneLine (declareText s d) := by
  obtain ⟨type, name, value⟩ := d
  simp only [Outline.ofDeclaration, Outline.tokens, Outline.allTokens, List.append_nil,
    texts_append, texts_cons] at h
  obtain ⟨-, ⟨hname, -⟩, hvalue⟩ := h
  refine oneLine_assignText .set (oneLine_ident hname) ?_
  cases value with
  | none => exact oneLine_defaultValue _ _
  | some e => exact oneLine_codeOf hs e hvalue

theorem oneLine_keywordText {keyword : String} (hk : OneLine keyword) (e : Option Expr)
    (h : Texts (Outline.ofOption Outline.ofExpr e).tokens) :
    OneLine (keywordText s keyword e) := by
  cases e with
  | none => exact hk
  | some e => exact hk.join _ (by decide) (oneLine_codeOf hs e h)

theorem oneLine_assignment (t : Target) (op : AssignOp) (e : Expr)
    (h : Texts (Outline.ofAssign t op e).tokens) :
    OneLine (assignText op (targetText s t) (textOf s e)) := by
  simp only [Outline.ofAssign, Outline.tokens, Outline.allTokens, List.append_nil,
    texts_append] at h
  exact oneLine_assignText op (oneLine_targetText hs t h.1) (oneLine_codeOf hs e h.2)

theorem oneLine_step (t : Target) (op : StepOp) (h : Texts (Outline.ofStep t op).tokens) :
    OneLine (stepText op (targetText s t)) := by
  simp only [Outline.ofStep, Outline.tokens, Outline.allTokens, List.append_nil] at h
  exact oneLine_stepText op (oneLine_targetText hs t h)

theorem oneLine_forStepText (st : ForStep) (h : Texts (Outline.ofForStep st).tokens) :
    OneLine (forStepText s st) := by
  cases st with
  | assign t op e => exact oneLine_assignment hs t op e h
  | step t op => exact oneLine_step hs t op h
  | expr e => exact oneLine_codeOf hs e h

theorem proper_forInitNodes (i : Option ForInit)
    (h : Texts (Outline.ofOption Outline.ofForInit i).tokens) :
    Node.AllProper (forInitNodes s i) := by
  match i with
  | none => exact trivial
  | some (.declare d) => exact ⟨oneLine_declareText hs d h, trivial⟩
  | some (.assign t op e) => exact ⟨oneLine_assignment hs t op e h, trivial⟩

omit hs in
theorem proper_suiteNodes {ns : List Node} (h : Node.AllProper ns) :
    Node.AllProper (suiteNodes ns) := by
  unfold suiteNodes
  split
  · exact ⟨(by decide : OneLine "pass"), trivial⟩
  · exact h

omit hs in
/-- A head above a suite. -/
theorem proper_headed {head : String} {suite : List Node} (hhead : IsHead head)
    (h : Node.AllProper suite) : (Node.header head (suiteNodes suite)).Proper :=
  ⟨hhead, suiteNodes_ne_nil suite, proper_suiteNodes h⟩

omit hs in
/-- A head with something in it, above a suite. -/
theorem proper_header {front t : String} {suite : List Node} (hopens : Opens front)
    (hfront : Unbroken front) (ht : Unbroken t) (h : Node.AllProper suite) :
    (Node.header (front ++ t ++ ":") (suiteNodes suite)).Proper :=
  proper_headed (.between hopens hfront ht) h

theorem proper_loopNodes (c : Option Expr) (st : Option ForStep) (again : Bool)
    {suite : List Node} (n : Nat) (hc : Texts (Outline.ofOption Outline.ofExpr c).tokens)
    (hst : Texts (Outline.ofOption Outline.ofForStep st).tokens) (hsuite : Node.AllProper suite) :
    Node.AllProper (loopNodes s c st again (suiteNodes suite) n).1 := by
  have hcondition : OneLine ((c.map (textOf s)).getD "True") := by
    cases c with
    | none => exact (by decide : OneLine "True")
    | some e => exact oneLine_codeOf hs e hc
  have hbody := proper_suiteNodes hsuite
  have hne := suiteNodes_ne_nil suite
  cases st with
  | none => exact ⟨proper_header (by decide) (by decide) hcondition.unbroken hsuite, trivial⟩
  | some st =>
    have hstep := oneLine_forStepText hs st hst
    cases again with
    | false =>
      refine ⟨⟨.between (by decide) (by decide) hcondition.unbroken, by simp, ?_⟩, trivial⟩
      exact Node.allProper_append.mpr ⟨hbody, hstep, trivial⟩
    | true =>
      have hflag := oneLine_flagName (n + 1)
      have hbreak : OneLine "break" := by decide
      have hset {v : String} (hv : OneLine v) : OneLine (assignText .set (flagName (n + 1)) v) :=
        oneLine_assignText .set hflag hv
      refine ⟨hset (by decide), ⟨⟨by decide, by decide, by decide⟩, by simp, ?_⟩, trivial⟩
      refine ⟨⟨.between (by decide) (by decide) hflag.unbroken, by simp, hstep, trivial⟩,
        hset (by decide), ⟨.between (by decide) (by decide) ?_, by simp, hbreak, trivial⟩, hbody⟩
      exact Unbroken.append (by decide) hcondition.unbroken

end

/-! ### Statements -/

theorem tokens_attempt (b : List Stmt) (hs : List Handler) (f : Option (List Stmt)) :
    (Outline.ofStmt (.attempt b hs f)).tokens = Outline.allTokens (Outline.ofStmts b)
      ++ (Outline.allTokens (Outline.ofHandlers hs)
        ++ (f.map fun f => Outline.allTokens (Outline.ofStmts f)).getD []) := by
  cases hs <;> cases f <;> simp [Outline.ofStmt, Outline.ofHandlers, Outline.tokens, Outline.allTokens]

variable {s : Scope}

mutual

theorem proper_stmtNodes (hscope : OneLine s.names.type) (n : Nat) : ∀ t : Stmt,
    Texts (Outline.ofStmt t).tokens → Node.AllProper (stmtNodes s n t).1
  | .declare d, h => by
    simp only [Outline.ofStmt, Outline.tokens, Outline.allTokens, List.append_nil] at h
    exact ⟨oneLine_declareText hscope d h, trivial⟩
  | .assign t op e, h => by
    simp only [Outline.ofStmt, Outline.tokens, Outline.allTokens, List.append_nil] at h
    exact ⟨oneLine_assignment hscope t op e h, trivial⟩
  | .step t op, h => by
    simp only [Outline.ofStmt, Outline.tokens, Outline.allTokens, List.append_nil] at h
    exact ⟨oneLine_step hscope t op h, trivial⟩
  | .ite c b r, h => by
    simp only [Outline.ofStmt, Outline.tokens, Outline.allTokens, List.append_nil,
      texts_append] at h
    obtain ⟨hc, hb, hr⟩ := h
    exact ⟨proper_header (by decide) (by decide) (oneLine_codeOf hscope c hc).unbroken
      (proper_bodyNodes hscope n b hb), proper_elseNodes hscope _ r hr⟩
  | .while c b, h => by
    simp only [Outline.ofStmt, Outline.tokens, Outline.allTokens, List.append_nil,
      texts_append] at h
    exact ⟨proper_header (by decide) (by decide) (oneLine_codeOf hscope c h.1).unbroken
      (proper_bodyNodes hscope n b h.2), trivial⟩
  | .for i c st b, h => by
    simp only [Outline.ofStmt, Outline.tokens, Outline.allTokens, List.append_nil,
      texts_append] at h
    obtain ⟨hi, hc, hst, hb⟩ := h
    exact Node.allProper_append.mpr ⟨proper_forInitNodes hscope i hi,
      proper_loopNodes hscope c st _ _ hc hst (proper_bodyNodes hscope n b hb)⟩
  | .foreach t x e b, h => by
    simp only [Outline.ofStmt, Outline.tokens, Outline.allTokens, List.append_nil,
      texts_append, texts_cons] at h
    obtain ⟨-, ⟨hx, -⟩, he, hb⟩ := h
    have hbody := proper_bodyNodes hscope n b hb
    refine ⟨proper_header ?_ ?_ (oneLine_codeOf hscope e he).unbroken hbody, trivial⟩
    · exact (Opens.append (by decide) _).append _
    · exact (Unbroken.append (by decide) (oneLine_ident hx).unbroken).append (by decide)
  | .ret e, h => by
    simp only [Outline.ofStmt, Outline.tokens, Outline.allTokens, List.append_nil] at h
    exact ⟨oneLine_keywordText hscope (by decide) e h, trivial⟩
  | .brk, _ => ⟨(by decide : OneLine "break"), trivial⟩
  | .cont, _ => ⟨(by decide : OneLine "continue"), trivial⟩
  | .throw e, h => by
    simp only [Outline.ofStmt, Outline.tokens, Outline.allTokens, List.append_nil] at h
    exact ⟨oneLine_keywordText hscope (by decide) e h, trivial⟩
  | .attempt b hs none, h => by
    rw [tokens_attempt] at h
    simp only [Option.map_none, Option.getD_none, List.append_nil, texts_append] at h
    exact ⟨proper_headed ⟨by decide, by decide, by decide⟩ (proper_bodyNodes hscope n b h.1),
      proper_handlerNodes hscope _ hs h.2⟩
  | .attempt b hs (some f), h => by
    rw [tokens_attempt] at h
    simp only [Option.map_some, Option.getD_some, texts_append] at h
    obtain ⟨hb, hhandlers, hf⟩ := h
    have htry : IsHead "try:" := ⟨by decide, by decide, by decide⟩
    have hfinally : IsHead "finally:" := ⟨by decide, by decide, by decide⟩
    exact Node.allProper_append.mpr
      ⟨⟨proper_headed htry (proper_bodyNodes hscope n b hb),
        proper_handlerNodes hscope _ hs hhandlers⟩,
      proper_headed hfinally (proper_bodyNodes hscope _ f hf), trivial⟩
  | .expr e, h => by
    simp only [Outline.ofStmt, Outline.tokens, Outline.allTokens, List.append_nil] at h
    exact ⟨oneLine_codeOf hscope e h, trivial⟩
  | .block b, h => by
    rw [Outline.ofStmt, Outline.tokens] at h
    exact proper_suiteNodes (proper_bodyNodes hscope n b h)

/-- A block is laid out in lines that are read as what they are, and no suite is empty. -/
theorem proper_bodyNodes (hscope : OneLine s.names.type) (n : Nat) : ∀ b : List Stmt,
    Texts (Outline.allTokens (Outline.ofStmts b)) → Node.AllProper (bodyNodes s n b).1
  | [], _ => trivial
  | t :: ts, h => by
    rw [Outline.ofStmts, Outline.allTokens, texts_append] at h
    exact Node.allProper_append.mpr
      ⟨proper_stmtNodes hscope n t h.1, proper_bodyNodes hscope _ ts h.2⟩

theorem proper_elseNodes (hscope : OneLine s.names.type) (n : Nat) : ∀ r : Else,
    Texts (Outline.ofElse r).tokens → Node.AllProper (elseNodes s n r).1
  | .none, _ => trivial
  | .block b, h => by
    simp only [Outline.ofElse, Outline.tokens, Outline.allTokens, List.append_nil] at h
    exact ⟨proper_headed ⟨by decide, by decide, by decide⟩ (proper_bodyNodes hscope n b h),
      trivial⟩
  | .elseIf c b r, h => by
    simp only [Outline.ofElse, Outline.tokens, Outline.allTokens, List.append_nil,
      texts_append] at h
    obtain ⟨hc, hb, hr⟩ := h
    exact ⟨proper_header (by decide) (by decide) (oneLine_codeOf hscope c hc).unbroken
      (proper_bodyNodes hscope n b hb), proper_elseNodes hscope _ r hr⟩

theorem proper_handlerNodes (hscope : OneLine s.names.type) (n : Nat) : ∀ hs : List Handler,
    Texts (Outline.allTokens (Outline.ofHandlers hs)) → Node.AllProper (handlerNodes s n hs).1
  | [], _ => trivial
  | .mk f b :: hs, h => by
    simp only [Outline.ofHandlers, Outline.tokens, Outline.allTokens, List.append_nil,
      texts_append] at h
    obtain ⟨⟨hf, hb⟩, hrest⟩ := h
    exact ⟨proper_headed (isHead_catchText f hf) (proper_bodyNodes hscope n b hb),
      proper_handlerNodes hscope _ hs hrest⟩

end

/-! ## Blocks of files -/

/-- The statements of a member. -/
def memberBody? : Member → Option (List Stmt)
  | .field .. => none
  | .method _ _ _ _ b | .constructor _ _ _ b => some b

/-- The tokens of what is inside something are tokens of the whole. -/
theorem texts_of_mem {o : Outline} {os : List Outline} (ho : o ∈ os)
    (h : Texts (Outline.allTokens os)) : Texts o.tokens := by
  intro t ht
  rw [Outline.allTokens_eq_flatMap] at h
  exact h t (List.mem_flatMap.mpr ⟨o, ho, ht⟩)

/-- The tokens of a file without carriage returns are lines of their own, inside every class. -/
theorem texts_ofClass {source : List Char} {f : SourceFile} (hparse : parse source = .ok f)
    (hreturn : '\r' ∉ source) {c : ClassDecl} (hc : c ∈ f.classes) :
    Texts (Outline.ofClass c).tokens := by
  have hfile := oneLine_of_mem_tokens hparse hreturn
  rw [Outline.ofFile, Outline.tokens] at hfile
  exact texts_of_mem (List.mem_append_right _ (List.mem_map_of_mem hc)) hfile

theorem texts_body {c : ClassDecl} (h : Texts (Outline.ofClass c).tokens) {m : Member}
    (hm : m ∈ c.members) {b : List Stmt} (hb : memberBody? m = some b) :
    Texts (Outline.allTokens (Outline.ofStmts b)) := by
  rw [Outline.ofClass, Outline.tokens, Outline.allTokens, Outline.allTokens, Outline.allTokens,
    texts_append, texts_append, texts_append] at h
  have hmember : Texts (Outline.ofMember m).tokens :=
    texts_of_mem (List.mem_map_of_mem hm) h.2.2.2
  cases m with
  | field ms d => cases hb
  | method ms t x ps body | constructor ms x ps body =>
    cases hb
    rw [Outline.ofMember, Outline.tokens] at hmember
    have hblock : Texts (Outline.node "block" (Outline.ofStmts b)).tokens :=
      texts_of_mem (by simp) hmember
    rwa [Outline.tokens] at hblock

/-- The text of a block that is indented some times; `n` is the number of flags used before. -/
def blockText (s : Scope) (k n : Nat) (b : List Stmt) : String :=
  "\n".intercalate (Code.indent^[k] (Code.Stmt.allLines (blockCode (bodyCode s n b).1)))

/-- The text of a block of a file is read back by its indentation as the statements of the block
are laid out, however deep it is indented. Only line feeds may end lines in the source, since a
string can hold a carriage return. -/
theorem readText_block {source : List Char} {f : SourceFile} (hparse : parse source = .ok f)
    (hreturn : '\r' ∉ source) {c : ClassDecl} (hc : c ∈ f.classes) {m : Member}
    (hm : m ∈ c.members) {b : List Stmt} (hb : memberBody? m = some b) (k n : Nat) :
    let s := memberScope (ClassNames.of c) m
    let nodes := suiteNodes (bodyNodes s n b).1
    Code.readText k (blockText s k n b) = some nodes ∧ Node.AllProper nodes := by
  intro s nodes
  have htexts := texts_ofClass hparse hreturn hc
  have hclass : OneLine s.names.type := by
    have htype : s.names.type = c.name.text := by cases m <;> rfl
    rw [Outline.ofClass, Outline.tokens, Outline.allTokens, Outline.allTokens, Outline.tokens,
      texts_append, texts_append, texts_cons] at htexts
    rw [htype]
    exact htexts.2.1.1
  have hproper : Node.AllProper nodes :=
    proper_suiteNodes (proper_bodyNodes hclass n b (texts_body htexts hm hb))
  refine ⟨?_, hproper⟩
  rw [blockText, (prints_bodyCode s n b).suite]
  exact Code.readText_print k hproper (suiteNodes_ne_nil _)

/-- A loop that goes on with the next round, and a block in a block. -/
def loopSource : List Char :=
  ("class P \x7b static void F(int n) \x7b for (int i = 0; i < n; i++) \x7b "
    ++ "if (i > 2) \x7b continue; \x7d else if (n > 5) \x7b \x7b \x7d \x7d \x7d \x7d \x7d").toList

/-- The text that is generated for its method. -/
def loopText : String :=
  "        i = 0\n        _for_started_1 = False\n        while True:\n"
    ++ "            if _for_started_1:\n                i += 1\n            _for_started_1 = True\n"
    ++ "            if not (i < n):\n                break\n"
    ++ "            if (i > 2):\n                continue\n            elif (n > 5):\n"
    ++ "                pass"

theorem readText_block_loop : ∃ f c m b, parse loopSource = .ok f ∧ '\r' ∉ loopSource
    ∧ c ∈ f.classes ∧ m ∈ c.members ∧ memberBody? m = some b
    ∧ blockText (memberScope (ClassNames.of c) m) 2 0 b = loopText
    ∧ Code.readText 2 loopText
      = some (suiteNodes (bodyNodes (memberScope (ClassNames.of c) m) 0 b).1) := by
  have hfound : (match parse loopSource with
      | .ok f => f.classes.any fun c => c.members.any fun m => (memberBody? m).any fun b =>
        blockText (memberScope (ClassNames.of c) m) 2 0 b == loopText
      | .error _ => false) = true := by decide +kernel
  cases hparse : parse loopSource with
  | error e =>
    rw [hparse] at hfound
    cases hfound
  | ok f =>
    rw [hparse] at hfound
    obtain ⟨c, hc, hmembers⟩ := List.any_eq_true.mp hfound
    obtain ⟨m, hm, hbody⟩ := List.any_eq_true.mp hmembers
    obtain ⟨b, hb, htext⟩ := (Option.any_eq_true _ _).mp hbody
    have hreturn : '\r' ∉ loopSource := by decide +kernel
    have hread := (readText_block hparse hreturn hc hm hb 2 0).1
    rw [eq_of_beq htext] at hread
    exact ⟨f, c, m, b, rfl, hreturn, hc, hm, hb, eq_of_beq htext, hread⟩

end BraceScript.Lowering
