import BraceScript.Code.Basic
import BraceScript.Eval.Fault
import BraceScript.Eval.Value

/-!
# The store

Everything about a running program that can change: collections, objects, classes, functions and
modules by their places, the names of the program and of the current call, the exceptions that
are being handled, what is left of the input, and what was written.

An `Eval` is a computation on the store that gives a value, raises an exception, or runs out of
fuel. A `Calling` is one that calls values besides: many operations do, since the classes of a
program can give them a meaning of their own.
-/

namespace BraceScript

namespace Eval

open Text (Points)

/-- Names and their values. -/
abbrev Variables := Bindings Value

/-- A class of a program or one of the ready-made classes. -/
structure ClassInfo where
  name : String
  base : ClassRef
  members : Variables
  /-- Whether the body of the class is done. -/
  isBuilt : Bool
  deriving Inhabited

/-- A function of a class. -/
structure Closure where
  /-- The name of the class and that of the function. -/
  name : String
  /-- The name of the class, for names that are private to it. -/
  className : String
  /-- The place of the class. -/
  owner : Nat
  params : List (String × Option Value)
  /-- The names that belong to a call of the function. -/
  ownNames : List String
  body : List Code.Stmt
  attrs : Variables
  deriving Inhabited

/-- An object of a class. -/
structure Instance where
  cls : ClassRef
  attrs : Variables
  /-- The arguments that an exception was made with. -/
  arguments : List Value
  /-- The attributes that an exception has as one of its core class. -/
  fields : Variables
  /-- The built-in value that an object of a class derived from that of such values holds. -/
  inner : Option Value
  deriving Inhabited

/-- A module. -/
structure Module where
  name : String
  /-- Where the module comes from, as it is shown behind the name. -/
  source : String
  attrs : Variables
  deriving Inhabited

/-- The state of a running program. -/
structure Store where
  lists : Array (Array Value)
  dicts : Array (Array (Value × Value))
  sets : Array (Array Value)
  objects : Array Instance
  classes : Array ClassInfo
  functions : Array Closure
  modules : Array Module
  /-- The names of the program. -/
  globals : Variables
  /-- The names of the current call or class body. -/
  locals : Variables
  /-- The exceptions that are being handled, the latest first. -/
  handled : List Value
  /-- How many doubles were made that are no number. -/
  marks : Nat
  /-- The items that lists were hinted to hold. -/
  hints : List Value
  /-- Whether the names that ready-made functions use mean what they did at the start. -/
  isPlain : Bool
  input : List Char
  output : Array Nat
  errors : Array Nat

/-- Why a computation gives no value. -/
inductive Stop
  | raised (exception : Value)
  | outOfFuel

end Eval

/-- A computation on the store. -/
abbrev Eval := ExceptT Eval.Stop (StateM Eval.Store)

namespace Eval

namespace Store

/-- The store before anything was made. -/
def empty (input : String) : Store :=
  ⟨#[], #[], #[], #[], #[], #[], #[], [], [], [], 0, [], true, input.toList, #[], #[]⟩

/-- The items of a list. -/
def items (s : Store) (place : Nat) : Array Value := (s.lists[place]?).getD #[]

/-- The keys and values of a dictionary. -/
def entries (s : Store) (place : Nat) : Array (Value × Value) := (s.dicts[place]?).getD #[]

/-- The members of a set. -/
def members (s : Store) (place : Nat) : Array Value := (s.sets[place]?).getD #[]

/-- The object at a place. -/
def object (s : Store) (place : Nat) : Instance := (s.objects[place]?).getD default

/-- The class at a place. -/
def loadedClass (s : Store) (place : Nat) : ClassInfo := (s.classes[place]?).getD default

/-- The function at a place. -/
def function (s : Store) (place : Nat) : Closure := (s.functions[place]?).getD default

/-- The module at a place. -/
def module (s : Store) (place : Nat) : Module := (s.modules[place]?).getD default

end Store

/-! ## Making values -/

/-- Makes a list. -/
def newList (items : Array Value) : Eval Value :=
  modifyGet fun s => (.list s.lists.size, { s with lists := s.lists.push items })

/-- Makes a dictionary. -/
def newDict (entries : Array (Value × Value)) : Eval Value :=
  modifyGet fun s => (.dict s.dicts.size, { s with dicts := s.dicts.push entries })

/-- The place of a new set. -/
def newMembers (members : Array Value) : Eval Nat :=
  modifyGet fun s => (s.sets.size, { s with sets := s.sets.push members })

/-- Makes a double. -/
def newFloat (x : Float) : Eval Value :=
  if x.isNaN then modifyGet fun s => (.float x (s.marks + 1), { s with marks := s.marks + 1 })
  else pure (.float x 0)

/-- Makes an object. -/
def newObject (o : Instance) : Eval Nat :=
  modifyGet fun s => (s.objects.size, { s with objects := s.objects.push o })

/-- Makes an exception of a core class. -/
def newException (name : String) (arguments : List Value) (fields : Variables) : Eval Value :=
  .object <$> newObject ⟨.core (.exception name), [], arguments, fields, none⟩

/-- Makes a function. -/
def newFunction (f : Closure) : Eval Value :=
  modifyGet fun s => (.function s.functions.size, { s with functions := s.functions.push f })

/-- Makes a class. -/
def newClass (c : ClassInfo) : Eval Nat :=
  modifyGet fun s => (s.classes.size, { s with classes := s.classes.push c })

/-- Makes a module. -/
def newModule (m : Module) : Eval Value :=
  modifyGet fun s => (.module s.modules.size, { s with modules := s.modules.push m })

/-- Changes an object. -/
def changeObject (place : Nat) (f : Instance → Instance) : Eval Unit :=
  modify fun s => { s with objects := s.objects.modify place f }

/-- Changes a class. -/
def changeClass (place : Nat) (f : ClassInfo → ClassInfo) : Eval Unit :=
  modify fun s => { s with classes := s.classes.modify place f }

/-! ## Raising -/

/-- Raises an exception. -/
def raise {α : Type} (exception : Value) : Eval α := throw (.raised exception)

/-- The attributes of the exception that a fault becomes. -/
def Fault.fields : Fault → Variables
  | .undefinedName x => [("name", .text x)]
  | .noExpression t => [("msg", .text (Fault.noExpression t).message)]
  | _ => []

/-- Raises the exception that a fault becomes. -/
def fail {α : Type} (f : Fault) : Eval α := do
  raise (← newException f.type [.text f.message] f.fields)

/-- The value of an operation, or the exception that its fault becomes. -/
def check {α : Type} : Except Fault α → Eval α
  | .ok a => pure a
  | .error f => fail f

/-- An operation that reads the store. -/
def reading {α : Type} (f : Store → Except Fault α) : Eval α := do check (f (← get))

/-- Runs a computation and goes on with what it ends in. -/
def settle {α β : Type} (a : Eval α) (next : Except Stop α → Eval β) : Eval β :=
  fun s =>
    let r := a s
    next r.1 r.2

/-- Runs a computation in a scope of its own. -/
def withLocals {α : Type} (names : Variables) (a : Eval α) : Eval α :=
  fun s =>
    let outer := s.locals
    let r := a { s with locals := names }
    (r.1, { r.2 with locals := outer })

/-- Runs a computation while an exception is being handled. -/
def whileHandling {α : Type} (exception : Value) (a : Eval α) : Eval α :=
  fun s =>
    let outer := s.handled
    let r := a { s with handled := exception :: outer }
    (r.1, { r.2 with handled := outer })

/-! ## Calling values -/

/-- A way to call a value with arguments. -/
abbrev Caller := Value → List Value → Eval Value

/-- A computation that can call values. -/
abbrev Calling := ReaderT Caller Eval

/-- Calls a value with arguments. -/
def call (f : Value) (args : List Value) : Calling Value := fun caller => caller f args

/-- Runs a computation and goes on with what it ends in. -/
def ending {α β : Type} (a : Calling α) (next : Except Stop α → Calling β) : Calling β :=
  fun caller => settle (a caller) fun r => next r caller

/-- Goes on with what a computation ended in. -/
def resume {α : Type} : Except Stop α → Calling α
  | .ok a => pure a
  | .error e => throw e

end Eval

end BraceScript
