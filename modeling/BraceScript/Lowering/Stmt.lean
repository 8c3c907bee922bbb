import BraceScript.Lowering.Expr

/-!
# Statements to code

A block becomes the statements of its statements, `pass` if there are none; a block inside a block
is spliced in. A `for` loop becomes a `while` loop. Its step stands at the end of the body, unless
the body goes on with the next round somewhere: then the step stands at the top of the loop behind
a flag that is false in the first round. Flags are numbered through a file.
-/

namespace BraceScript.Lowering

open Syntax

/-! ## Does a body go on with the next round? -/

mutual

/-- Whether a statement holds a `continue`, at any depth. -/
def continues : Code.Stmt → Bool
  | .cont => true
  | .ite _ b t => anyContinues b || tailContinues t
  | .while _ b => anyContinues b
  | .forIn _ _ b => anyContinues b
  | .attempt b hs none => anyContinues b || handlersContinue hs
  | .attempt b hs (some f) => anyContinues b || handlersContinue hs || anyContinues f
  | _ => false

/-- Whether some statement holds a `continue`. -/
def anyContinues : List Code.Stmt → Bool
  | [] => false
  | s :: ss => continues s || anyContinues ss

/-- Whether the rest of a conditional holds a `continue`. -/
def tailContinues : Code.Tail → Bool
  | .none => false
  | .otherwise b => anyContinues b
  | .elif _ b t => anyContinues b || tailContinues t

/-- Whether some handler holds a `continue`. -/
def handlersContinue : List Code.Handler → Bool
  | [] => false
  | .mk _ _ b :: hs => anyContinues b || handlersContinue hs

end

/-! ## Simple statements -/

/-- The code of a target. -/
def targetCode (s : Scope) : Target → Code.Expr
  | .name t => s.codeOf t.text
  | .member e x => memberCode (codeOf s e) x.text
  | .index e i => (codeOf s e).trail (.index · (codeOf s i))

/-- The code of an assignment. -/
def assignCode (op : AssignOp) (t e : Code.Expr) : Code.Stmt :=
  match op with
  | .set => .assign t e
  | .add => .assign t (.apply "_cs_add" [t, e])
  | .sub => .augment t .sub e
  | .mul => .augment t .mul e
  | .div => .assign t (.apply "_cs_div" [t, e])
  | .mod => .assign t (.apply "_cs_mod" [t, e])

/-- The code of a step by one. -/
def stepCode (op : StepOp) (t : Code.Expr) : Code.Stmt :=
  match op with
  | .increment => .augment t .add (.number "1")
  | .decrement => .augment t .sub (.number "1")

/-- The code of a declaration. -/
def declareCode (s : Scope) (d : Declaration) : Code.Stmt :=
  .assign (.name (Code.ident d.name.text))
    (match d.value with
      | some e => codeOf s e
      | none => defaultValue d.type.name.text d.type.rank)

/-- The code of the first part of a `for` head. -/
def forInitCode (s : Scope) : Option ForInit → List Code.Stmt
  | none => []
  | some (.declare d) => [declareCode s d]
  | some (.assign t op e) => [assignCode op (targetCode s t) (codeOf s e)]

/-- The code of the last part of a `for` head. -/
def forStepCode (s : Scope) : ForStep → Code.Stmt
  | .assign t op e => assignCode op (targetCode s t) (codeOf s e)
  | .step t op => stepCode op (targetCode s t)
  | .expr e => .expr (codeOf s e)

/-- The head of a handler: what it catches and the name for it. -/
def filterCode : Option CatchFilter → String × Option String
  | none => ("Exception", none)
  | some f => (Code.ident f.type.text, f.name.map fun x => Code.ident x.text)

/-- The statements of a block. -/
def blockCode (ss : List Code.Stmt) : List Code.Stmt := if ss.isEmpty then [.pass] else ss

/-! ## Loops -/

/-- The name of a flag. -/
def flagName (n : Nat) : String := "_for_started_" ++ toString n

/-- The loop with the step at the top behind a flag. -/
def flaggedLoop (flag : String) (condition : Code.Expr) (step : Code.Stmt)
    (body : List Code.Stmt) : List Code.Stmt :=
  [.assign (.name flag) .false,
    .while .true (.ite (.name flag) [step] .none :: .assign (.name flag) .true
      :: .ite (.unary .not condition) [.brk] .none :: body)]

/-- A loop with a head of three parts; `flag` is the number of flags used before. Gives the
number used after it too. -/
def loopCode (condition : Option Code.Expr) (step : Option Code.Stmt) (body : List Code.Stmt)
    (flag : Nat) : List Code.Stmt × Nat :=
  let condition := condition.getD .true
  match step with
  | none => ([.while condition body], flag)
  | some step =>
    if anyContinues body then (flaggedLoop (flagName (flag + 1)) condition step body, flag + 1)
    else ([.while condition (body ++ [step])], flag)

/-! ## Statements -/

mutual

/-- The code of a statement; `n` is the number of flags used before. -/
def stmtCode (s : Scope) (n : Nat) : Stmt → List Code.Stmt × Nat
  | .declare d => ([declareCode s d], n)
  | .assign t op e => ([assignCode op (targetCode s t) (codeOf s e)], n)
  | .step t op => ([stepCode op (targetCode s t)], n)
  | .ite c b r =>
    let body := bodyCode s n b
    let rest := elseCode s body.2 r
    ([.ite (codeOf s c) (blockCode body.1) rest.1], rest.2)
  | .while c b =>
    let body := bodyCode s n b
    ([.while (codeOf s c) (blockCode body.1)], body.2)
  | .for i c st b =>
    let body := bodyCode s n b
    let loop := loopCode (c.map (codeOf s)) (st.map (forStepCode s)) (blockCode body.1) body.2
    (forInitCode s i ++ loop.1, loop.2)
  | .foreach _ x e b =>
    let body := bodyCode s n b
    ([.forIn (Code.ident x.text) (codeOf s e) (blockCode body.1)], body.2)
  | .ret e => ([.ret (e.map (codeOf s))], n)
  | .brk => ([.brk], n)
  | .cont => ([.cont], n)
  | .throw e => ([.raise (e.map (codeOf s))], n)
  | .attempt b hs none =>
    let body := bodyCode s n b
    let handlers := handlersCode s body.2 hs
    ([.attempt (blockCode body.1) handlers.1 none], handlers.2)
  | .attempt b hs (some f) =>
    let body := bodyCode s n b
    let handlers := handlersCode s body.2 hs
    let cleanup := bodyCode s handlers.2 f
    ([.attempt (blockCode body.1) handlers.1 (some (blockCode cleanup.1))], cleanup.2)
  | .expr e => ([.expr (codeOf s e)], n)
  | .block b =>
    let body := bodyCode s n b
    (blockCode body.1, body.2)

/-- The code of the statements of a block, one after another. -/
def bodyCode (s : Scope) (n : Nat) : List Stmt → List Code.Stmt × Nat
  | [] => ([], n)
  | t :: ts =>
    let first := stmtCode s n t
    let rest := bodyCode s first.2 ts
    (first.1 ++ rest.1, rest.2)

/-- The code of the rest of a conditional. -/
def elseCode (s : Scope) (n : Nat) : Else → Code.Tail × Nat
  | .none => (.none, n)
  | .block b =>
    let body := bodyCode s n b
    (.otherwise (blockCode body.1), body.2)
  | .elseIf c b r =>
    let body := bodyCode s n b
    let rest := elseCode s body.2 r
    (.elif (codeOf s c) (blockCode body.1) rest.1, rest.2)

/-- The code of handlers. -/
def handlersCode (s : Scope) (n : Nat) : List Handler → List Code.Handler × Nat
  | [] => ([], n)
  | .mk f b :: hs =>
    let body := bodyCode s n b
    let rest := handlersCode s body.2 hs
    let head := filterCode f
    (.mk head.1 head.2 (blockCode body.1) :: rest.1, rest.2)

end

end BraceScript.Lowering
