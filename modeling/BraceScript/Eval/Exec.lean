import BraceScript.Eval.Call

/-!
# Running code

`eval` gives the value of an expression, `exec` does what a statement says, and `apply` calls a
value. All three spend fuel, so that a program that never ends runs out of it instead; the
operations on values call values by `apply` with the fuel that is left.
-/

namespace BraceScript.Eval

open Code

/-- How a statement ends when it raises nothing. -/
inductive Flow
  | next | brk | cont
  | ret (v : Value)

/-! ## Loops and blocks -/

/-- Runs statements in order, up to one after which the next is not reached. -/
def runAll (run : Stmt → Eval Flow) : List Stmt → Eval Flow
  | [] => pure .next
  | s :: ss => do
    match ← run s with
    | .next => runAll run ss
    | f => pure f

/-- Runs a body as long as a condition holds. -/
def loopWhile (condition : Eval Bool) (body : Eval Flow) : Nat → Eval Flow
  | 0 => throw .outOfFuel
  | n + 1 => do
    if ← condition then
      match ← body with
      | .next | .cont => loopWhile condition body n
      | .brk => pure .next
      | .ret v => pure (.ret v)
    else pure .next

/-- Runs a body for every item behind a cursor. Items are looked up one by one, so a list may
change in between. -/
def loopItems (advance : Cursor → Eval (Option (Value × Cursor))) (body : Value → Eval Flow)
    (c : Cursor) : Nat → Eval Flow
  | 0 => throw .outOfFuel
  | n + 1 => do
    match ← advance c with
    | none => pure .next
    | some (v, c) =>
      match ← body v with
      | .next | .cont => loopItems advance body c n
      | .brk => pure .next
      | .ret v => pure (.ret v)

/-! ## Exceptions -/

/-- Raises the exception that is being handled again. -/
def raiseAgain {α : Type} : Eval α := do
  match (← get).handled with
  | e :: _ => raise e
  | [] => fail .nothingToRaise

/-- Whether a handler for a type takes an exception. A tuple of types takes what any of them
takes. -/
def catches (type exception : Value) : Eval Bool := do
  let s ← get
  let types := match s.bare type with
    | .tuple vs => vs
    | _ => [type]
  if types.all fun
    | .cls c => s.isException c
    | _ => false
  then return types.any fun
    | .cls c => s.isSubclass (s.classOf exception) c
    | _ => false
  else fail .notCatchable

/-- Runs the first handler that takes an exception, or raises it again. -/
def handle (frame : Frame) (block : List Stmt → Eval Flow) (exception : Value) :
    List Handler → Eval Flow
  | [] => raise exception
  | .mk type name body :: hs => do
    if ← catches (← valueOf frame type) exception then
      match name with
      | none => block body
      | some x =>
        assignName frame x exception
        settle (block body) fun r => do
          forgetName frame x
          ofExcept r
    else handle frame block exception hs
where
  /-- Goes on with what a computation ended in. -/
  ofExcept : Except Stop Flow → Eval Flow
    | .ok f => pure f
    | .error e => throw e

/-- Runs a body, and the handlers for what it raises. -/
def guarded (body : Eval Flow) (handlers : Value → Eval Flow) : Eval Flow :=
  settle body fun
    | .ok f => pure f
    | .error (.raised e) => whileHandling e (handlers e)
    | .error .outOfFuel => throw .outOfFuel

/-- Runs a body, and something after it however it ends. What comes after has the last word if it
does not simply end. -/
def finally_ (body after : Eval Flow) : Eval Flow :=
  settle body fun
    | .ok f => do
      match ← after with
      | .next => pure f
      | g => pure g
    | .error (.raised e) => do
      match ← whileHandling e after with
      | .next => raise e
      | g => pure g
    | .error .outOfFuel => throw .outOfFuel

/-! ## Calls -/

/-- `super` without arguments in a frame. -/
def superIn (frame : Frame) : Eval Value := do
  let s ← get
  match frame.self? with
  | none => fail .superWithoutArguments
  | some (p, x) =>
    if (s.loadedClass p).isBuilt then superOf (.loaded p) ((s.locals.get? x).getD .null)
    else fail .superUnbuilt

/-- The variables that a call of a function starts with. -/
def parameters (f : Closure) (args : List Value) : Except Fault Variables := do
  let (vs, _) ← (Signature.mk f.name (f.params.map fun p => (p.1, none)) .fixed).bind args
  return (f.params.map (·.1)).zip vs

/-- The frame of a call of a function. -/
def frameOf (f : Closure) : Frame :=
  ⟨f.className, f.ownNames, f.params.head?.map fun p => (f.owner, p.1)⟩

/-- What a function gives back when its body ends. -/
def Flow.value : Flow → Value
  | .ret v => v
  | _ => .null

/-- Whether a call is `super` without arguments. -/
def isBareSuper (f : Value) (args : List Value) : Bool :=
  match f, args with
  | .cls (.core .super), [] => true
  | _, _ => false

/-- What a call of a value does that is no function of a loaded class: a way to call other values
is given. -/
def applyOther (f : Value) (args : List Value) : Calling Value := do
  let s ← get
  match f with
  | .native f =>
    let (params, more) ← check (f.signature.bind args)
    runNative f params more
  | .method self f => call f (self :: args)
  | .staticMethod f => call f args
  | .cls (.core c) | .generic (.core c) _ => construct c args
  | .cls c | .generic c _ => instantiate c args
  | .listHint | .hint _ => fail .cannotInstantiateList
  | v =>
    match s.meaning? v "__call__" with
    | some f => call f args
    | none => fail (.notCallable (s.typeName v))

/-! ## Running -/

/-- A computation with a way to call values. -/
def callingBy {α : Type} (caller : Caller) (a : Calling α) : Eval α := a caller

mutual

/-- The value of an expression. -/
def eval : Nat → Frame → Expr → Eval Value
  | 0, _, _ => throw .outOfFuel
  | n + 1, frame, e => callingBy (apply n) do
    match e with
    | .name x => valueOf frame x
    | .number t => pure (numberValue t)
    | .text t => pure (textValue t)
    | .true => pure (.bool true)
    | .false => pure (.bool false)
    | .none => pure .null
    | .group e => eval n frame e
    | .list es => newList (← evalAll n frame es).toArray
    | .attr e x => do
      let v ← eval n frame e
      attrOf v (frame.meant x)
    | .call f es => do
      let f ← eval n frame f
      let args ← evalAll n frame es
      if isBareSuper f args then superIn frame else call f args
    | .index e i => do
      let v ← eval n frame e
      index v (← eval n frame i)
    | .unary .not e => do
      let v ← eval n frame e
      return .bool (!(← truth v))
    | .unary .neg e => do negative (← eval n frame e)
    | .binary .or l r => do
      let v ← eval n frame l
      if ← truth v then return v else eval n frame r
    | .binary .and l r => do
      let v ← eval n frame l
      if ← truth v then eval n frame r else return v
    | .binary op l r => do
      let v ← eval n frame l
      binary op v (← eval n frame r)
    | .choose v c o => do
      let test ← eval n frame c
      if ← truth test then eval n frame v else eval n frame o

/-- The values of expressions, in order. -/
def evalAll : Nat → Frame → List Expr → Eval (List Value)
  | 0, _, _ => throw .outOfFuel
  | n + 1, frame, es => es.mapM (eval n frame)

/-- Calls a value with arguments. -/
def apply : Nat → Value → List Value → Eval Value
  | 0, _, _ => throw .outOfFuel
  | n + 1, .function p, args => do
    let f := (← get).function p
    withLocals (← check (parameters f args)) do
      return (← runAll (exec n (frameOf f)) f.body).value
  | n + 1, f, args => callingBy (apply n) (applyOther f args)

/-- Does what a statement says. -/
def exec : Nat → Frame → Stmt → Eval Flow
  | 0, _, _ => throw .outOfFuel
  | n + 1, frame, s => callingBy (apply n) do
    match s with
    | .pass => pure .next
    | .expr e => do
      let _ ← eval n frame e
      return .next
    | .assign t e => do
      store n frame t (← eval n frame e)
      return .next
    | .augment t op e => do
      update n frame t op e
      return .next
    | .ret none => pure (.ret .null)
    | .ret (some e) => do return .ret (← eval n frame e)
    | .raise none => raiseAgain
    | .raise (some e) => do raiseValue (← eval n frame e)
    | .brk => pure .brk
    | .cont => pure .cont
    | .ite c b t => do
      let test ← eval n frame c
      if ← truth test then runAll (exec n frame) b
      else
        match t with
        | .none => pure .next
        | .otherwise b => runAll (exec n frame) b
        | .elif c b t => exec n frame (.ite c b t)
    | .while c b =>
      loopWhile (callingBy (apply n) do truth (← eval n frame c)) (runAll (exec n frame) b) n
    | .forIn x e b => do
      let c ← Cursor.start (← eval n frame e)
      loopItems (fun c => callingBy (apply n) c.advance) (fun v => do
        assignName frame x v
        runAll (exec n frame) b) c n
    | .attempt b hs cleanup =>
      let body := runAll (exec n frame) b
      let body := if hs.isEmpty then body else
        guarded body fun e => handle frame (runAll (exec n frame)) e hs
      match cleanup with
      | none => body
      | some f => finally_ body (runAll (exec n frame) f)

/-- Gives a target a value. -/
def store : Nat → Frame → Expr → Value → Eval Unit
  | 0, _, _, _ => throw .outOfFuel
  | n + 1, frame, target, v => callingBy (apply n) do
    match target with
    | .name x => assignName frame x v
    | .group e => store n frame e v
    | .attr e x => do
      let self ← eval n frame e
      setAttribute self (frame.meant x) v
    | .index e i => do
      let list ← eval n frame e
      setIndex list (← eval n frame i) v
    | _ => pure ()

/-- Changes the value of a target by an operator. The parts of the target are evaluated once. -/
def update : Nat → Frame → Expr → AugmentOp → Expr → Eval Unit
  | 0, _, _, _, _ => throw .outOfFuel
  | n + 1, frame, target, op, e => callingBy (apply n) do
    match target with
    | .name x => do
      let old ← valueOf frame x
      assignName frame x (← augmented op old (← eval n frame e))
    | .group t => update n frame t op e
    | .attr t x => do
      let self ← eval n frame t
      let old ← attrOf self (frame.meant x)
      setAttribute self (frame.meant x) (← augmented op old (← eval n frame e))
    | .index t i => do
      let list ← eval n frame t
      let place ← eval n frame i
      let old ← index list place
      setIndex list place (← augmented op old (← eval n frame e))
    | _ => pure ()

end

/-- The fuel that everything a program does starts with. -/
def fuel : Nat := Nat.pow 2 62

/-- A computation that calls values with all fuel. -/
def running {α : Type} (a : Calling α) : Eval α := callingBy (apply fuel) a

end BraceScript.Eval
