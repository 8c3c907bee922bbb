import BraceScript.Eval.Builtin
import BraceScript.Eval.Exception
import BraceScript.Eval.Shown

/-!
# Attributes

An attribute of an object is its own, or one of the first class in its line that has it. A
function that is found in a class is tied to the object it was looked up on, unless it is marked
as static. A loaded class can say what other attributes its objects have.
-/

namespace BraceScript.Eval

/-- The name of the initialiser of a class. -/
def initName : String := "__init__"

/-- The core classes with an initialiser of their own, other than exceptions. -/
def initialised : List Core := [.object, .list, .dict, .set]

/-- The member that a class has itself. -/
def Store.ownMember? (s : Store) (c : ClassRef) (name : String) : Option Value :=
  match c with
  | .loaded p => (s.loadedClass p).members.get? name
  | .core k =>
    if name = initName then
      if initialised.contains k || k = .exception "BaseException" then some (.native (.initOf k))
      else none
    else ((Native.membersOf k).lookup name).map .native

/-- The member of the first of several classes that has it. -/
def Store.memberOf? (s : Store) (cs : List ClassRef) (name : String) : Option Value :=
  cs.findSome? fun c => s.ownMember? c name

/-- The member that a class has itself or from its line. -/
def Store.member? (s : Store) (c : ClassRef) (name : String) : Option Value :=
  s.memberOf? (s.ancestors c) name

/-- The classes of the line of an object behind a class. -/
def behind (start : ClassRef) (line : List ClassRef) : List ClassRef :=
  (line.dropWhile (· != start)).drop 1

namespace Store

/-- The classes that an object or class takes its members from. -/
def lineOf (s : Store) (v : Value) : List ClassRef := s.ancestors (s.lineStart v)

/-- An attribute that says what a value is. -/
def describe? (s : Store) (v : Value) (name : String) : Option Value :=
  match name, v with
  | "__class__", .super .. => some (.core .super)
  | "__class__", v => some (.cls (s.classOf v))
  | "__name__", .cls c => some (.text (s.className c))
  | "__qualname__", .cls c => some (.text (s.className c))
  | "__module__", .cls (.loaded _) => some (.text programName)
  | "__name__", .function p => some (.text (((s.function p).name.splitOn ".").getLastD ""))
  | "__qualname__", .function p => some (.text (s.function p).name)
  | "__name__", .native f => some (.text ((f.signature.name.splitOn ".").getLastD ""))
  | "__qualname__", .native f => some (.text f.signature.name)
  | "__name__", .module p => some (.text (s.module p).name)
  | _, _ => none

/-- The attribute of an object, if it has it. -/
def instanceAttribute? (s : Store) (self : Value) (o : Instance) (name : String) : Option Value :=
  let core := s.coreOf o.cls
  if core.isException && name = "args" then some (.tuple o.arguments)
  else if core.isException && core.hasField name then some (o.field name)
  else
    match o.attrs.get? name with
    | some v => some v
    | none => (s.member? o.cls name).map (tied self)

/-- The attribute of a function; native ones have none of their own. -/
def functionAttribute? (s : Store) (f : Value) (name : String) : Option Value :=
  match f with
  | .function p => (s.function p).attrs.get? name
  | _ => none

/-- The attribute of a value, if it has it. -/
def attribute? (s : Store) (v : Value) (name : String) : Option Value :=
  let own : Option Value := match v with
    | .object p => s.instanceAttribute? v (s.object p) name
    | .cls c => (s.member? c name).map untied
    | .listHint | .hint _ => (s.member? (.core .list) name).map untied
    | .generic c _ => (s.member? c name).map untied
    | .module p => ((s.module p).attrs.get? name).orElse fun _ =>
      if p = builtinsPlace then builtinValue? name else none
    | .super start self =>
      (s.memberOf? (behind start (s.lineOf self)) name).map fun m =>
        match self with
        | .cls _ => untied m
        | self => tied self m
    | .method _ f | f => (s.functionAttribute? f name).orElse fun _ =>
      (s.member? (s.classOf v) name).map (tied v)
  own.orElse fun _ => s.describe? v name

/-- The fault that a value does not have an attribute. -/
def missing (s : Store) (v : Value) (name : String) : Fault :=
  match v with
  | .cls c => .noClassAttribute (s.className c) name
  | .generic c _ => .noClassAttribute (s.className c) name
  | .listHint | .hint _ => .noClassAttribute "list" name
  | .module p => .noModuleAttribute (s.module p).name name
  | .method _ (.function p) => .noAttribute (s.typeName (.function p)) name
  | v => .noAttribute (s.typeName v) name

end Store

/-- Raises the exception that a value does not have an attribute. -/
def failAttribute {α : Type} (v : Value) (name : String) : Eval α := do
  let f := (← get).missing v name
  raise (← newException f.type [.text f.message] [("name", .text name), ("obj", v)])

/-- The attribute of a value. -/
def attrOf (v : Value) (name : String) : Calling Value := do
  let s ← get
  match s.attribute? v name with
  | some w => return w
  | none =>
    match s.meaning? v "__getattr__" with
    | some f => call f [.text name]
    | none => failAttribute v name

/-- Calls an attribute of a value. -/
def callAttr (v : Value) (name : String) (args : List Value) : Calling Value := do
  call (← attrOf v name) args

/-- Refuses a value that an attribute of an exception cannot have. -/
def checkField (name : String) (new : Value) : Calling Unit := do
  if readOnlyFields.contains name then fail .readOnlyField
  else if placeFields.contains name && ((← get).bare new).int?.isNone then fail .integerRequired

/-- Sets an attribute of an exception that it has as one of its core class. -/
def setField (p : Nat) (name : String) (new : Value) : Calling Unit := do
  if name = "args" then
    let items ← allItems new
    changeObject p fun o => { o with arguments := items }
  else
    checkField name new
    changeObject p fun o => { o with fields := o.fields.put name new }

/-- Changes the class of an object to another loaded one. -/
def setClass (p : Nat) (new : Value) : Calling Unit := do
  let s ← get
  match (s.object p).cls, new with
  | .loaded d, .cls (.loaded c) =>
    if s.coreOf (.loaded c) = s.coreOf (.loaded d) then
      changeObject p fun o => { o with cls := .loaded c }
    else fail (.layout (s.className (.loaded c)) (s.className (.loaded d)))
  | _, .cls _ => fail .fixedClass
  | _, v => fail (.classValue (s.typeName v))

/-- Sets an attribute of an object. Plain objects of no class of their own have none. -/
def setInstanceAttribute (p : Nat) (name : String) (new : Value) : Calling Unit := do
  let s ← get
  let o := s.object p
  let core := s.coreOf o.cls
  if name = "__class__" then setClass p new
  else if o.cls = .core .object then fail (.noSuchAttribute "object" name)
  else if core.isException && (name = "args" || core.hasField name) then setField p name new
  else changeObject p fun o => { o with attrs := o.attrs.put name new }

/-- Sets an attribute of a value. -/
def setAttribute (v : Value) (name : String) (new : Value) : Calling Unit := do
  let s ← get
  match s.meaning? v "__setattr__" with
  | some f => let _ ← call f [.text name, new]
  | none =>
    match v with
    | .object p => setInstanceAttribute p name new
    | .cls (.loaded p) => changeClass p fun c => { c with members := c.members.put name new }
    | .cls (.core .any) => pure ()
    | .cls (.core c) => fail (.immutableClass c.name name)
    | .listHint | .hint _ => fail (.immutableClass "list" name)
    | .module p =>
      modify fun s => { s with
        modules := s.modules.modify p fun m => { m with attrs := m.attrs.put name new }
        isPlain := s.isPlain && sharedModules.length ≤ p }
    | .function p =>
      modify fun s => { s with functions := s.functions.modify p fun f =>
        { f with attrs := f.attrs.put name new } }
    | v =>
      if (s.member? (s.classOf v) name).isSome then fail (.readOnlyAttribute (s.typeName v) name)
      else fail (.noSuchAttribute (s.typeName v) name)

end BraceScript.Eval
