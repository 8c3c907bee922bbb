import BraceScript.Code.Literal
import BraceScript.Code.Names
import BraceScript.Eval.Attribute

/-!
# Scopes

A name in a function is one of its variables if the function assigns to it anywhere, and otherwise
a name of the program or a built-in one. In the body of a class the members so far come first.
-/

namespace BraceScript.Eval

open Code

/-- Where code stands. -/
structure Frame where
  /-- The name of the class around the code, for names that are private to it. -/
  className : String
  /-- The names that the code can only mean as its own variables. -/
  ownNames : List String
  /-- The place of the class and the first parameter, in a function that has one. -/
  self? : Option (Nat × String)

/-! ## Variables of a function -/

/-- The name that an assignment target gives a value to. -/
def targetName : Expr → List String
  | .name x => [x]
  | .group e => targetName e
  | _ => []

mutual

/-- The names that a statement gives values to. -/
def assigned : Stmt → List String
  | .assign t _ | .augment t _ _ => targetName t
  | .ite _ b t => assignedAll b ++ assignedTail t
  | .while _ b => assignedAll b
  | .forIn x _ b => x :: assignedAll b
  | .attempt b hs none => assignedAll b ++ assignedHandlers hs
  | .attempt b hs (some f) => assignedAll b ++ assignedHandlers hs ++ assignedAll f
  | _ => []

/-- The names that several statements give values to. -/
def assignedAll : List Stmt → List String
  | [] => []
  | s :: ss => assigned s ++ assignedAll ss

/-- The names that the rest of a conditional gives values to. -/
def assignedTail : Tail → List String
  | .none => []
  | .otherwise b => assignedAll b
  | .elif _ b t => assignedAll b ++ assignedTail t

/-- The names that handlers give values to. -/
def assignedHandlers : List Handler → List String
  | [] => []
  | .mk _ x b :: hs => x.toList ++ assignedAll b ++ assignedHandlers hs

end

/-! ## Using names -/

/-- What a name of the program stands for. -/
def globalValue (name : String) : Eval Value := do
  let s ← get
  match s.globals.get? name with
  | some v => return v
  | none =>
    match ((s.module builtinsPlace).attrs.get? name).orElse fun _ => builtinValue? name with
    | some v => return v
    | none => fail (.undefinedName name)

/-- Binds a name of the program. -/
def bindGlobal (name : String) (v : Value) : Eval Unit :=
  modify fun s => { s with
    globals := s.globals.put name v
    isPlain := s.isPlain && !reliedNames.contains name }

/-- The name that is meant in a frame. -/
def Frame.meant (f : Frame) (name : String) : String := privateName f.className name

/-- What a name stands for in a frame. -/
def valueOf (f : Frame) (name : String) : Eval Value := do
  let x := f.meant name
  match (← get).locals.get? x with
  | some v => return v
  | none => if f.ownNames.contains x then fail (.unboundLocal x) else globalValue x

/-- Gives a name a value in the current scope. -/
def assignName (f : Frame) (name : String) (v : Value) : Eval Unit :=
  modify fun s => { s with locals := s.locals.put (f.meant name) v }

/-- Takes the value of a name in the current scope away. -/
def forgetName (f : Frame) (name : String) : Eval Unit :=
  modify fun s => { s with locals := s.locals.erase (f.meant name) }

/-! ## Literals -/

/-- The value of a number. -/
def numberValue (t : String) : Value :=
  match Number.readDigits? t.toList with
  | some (_, ds) => .int (Text.digitsValue ds)
  | none =>
    match Number.readDouble? t with
    | some x => .float x 0
    | none => .special t "complex"

/-- The value of a text literal. -/
def textValue (literal : String) : Value :=
  .text ((decodeLiteral literal).toOption.getD Text.Points.empty)

end BraceScript.Eval
