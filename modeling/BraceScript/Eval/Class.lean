import BraceScript.Eval.Store

/-!
# Classes of values

Every value has a class, and every class has a line of ancestors up to `object`. Members are
looked up along that line, and an exception is caught by any class of it. A loaded class can
derive from the class of built-in values; its objects then hold such a value, and `Store.bare`
gives it.
-/

namespace BraceScript.Eval

namespace Store

/-- The name of a class. -/
def className (s : Store) : ClassRef → String
  | .core c => c.name
  | .loaded p => (s.loadedClass p).name

/-- A class and what it derives from, up to a number of loaded classes. -/
def line (s : Store) : Nat → ClassRef → List ClassRef
  | _, .core c => c.ancestors.map .core
  | 0, .loaded p => [.loaded p]
  | n + 1, .loaded p => .loaded p :: s.line n (s.loadedClass p).base

/-- A class and what it derives from. A loaded class derives from one that was loaded before, so
no line is longer than there are classes. -/
def ancestors (s : Store) (c : ClassRef) : List ClassRef := s.line s.classes.size c

/-- Whether a class derives from another one, or is the same. -/
def isSubclass (s : Store) (c d : ClassRef) : Bool := (s.ancestors c).contains d

/-- The built-in class that a class derives from. -/
def coreOf (s : Store) (c : ClassRef) : Core :=
  ((s.ancestors c).findSome? fun
    | .core c => some c
    | .loaded _ => none).getD .object

/-- Whether the instances of a class can be raised. -/
def isException (s : Store) (c : ClassRef) : Bool := (s.coreOf c).isException

/-- The class of a value. -/
def classOf (s : Store) : Value → ClassRef
  | .null => .core .null
  | .bool _ => .core .bool
  | .int _ => .core .int
  | .float .. => .core .float
  | .text _ => .core .text
  | .tuple _ => .core .tuple
  | .range .. => .core .range
  | .list _ => .core .list
  | .dict _ => .core .dict
  | .set _ => .core .set
  | .frozenSet _ => .core .frozenSet
  | .object p => (s.object p).cls
  | .module _ => .core .module
  | .cls c => .core (if s.coreOf c = .any then .other "_AnyMeta" else .type)
  | .function _ => .core .function
  | .native f => .core f.core
  | .method _ (.native .replacement) => .core .function
  | .method _ (.native f) => .core (if f.isMethod then .method else .builtin)
  | .method .. => .core .method
  | .staticMethod _ => .core .staticMethod
  | .super .. => .core .super
  | .listHint => .core (.other "_SpecialGenericAlias")
  | .hint _ => .core .hint
  | .nameHint _ => .core (.other "ForwardRef")
  | .generic .. => .core .generic
  | .stream _ => .core .stream
  | .special _ t => .core (.other t)

/-- The name of the class of a value in messages. -/
def typeName (s : Store) (v : Value) : String :=
  match s.classOf v with
  | .core c => c.instanceName
  | c => s.className c

/-- The class that an object or class takes its members from first. -/
def lineStart (s : Store) : Value → ClassRef
  | .cls c => c
  | v => s.classOf v

/-- Whether a value can be raised. -/
def isRaisable (s : Store) : Value → Bool
  | .object p => s.isException (s.object p).cls
  | _ => false

/-- The built-in value that a value holds, or else the value. -/
def bare (s : Store) : Value → Value
  | .object p => ((s.object p).inner).getD (.object p)
  | v => v

end Store

/-! ## Members -/

/-- A member of a class as it is seen on one of its objects. -/
def tied (self : Value) : Value → Value
  | .function p => .method self (.function p)
  | .native f => if f.isBound then .method self (.native f) else .native f
  | .staticMethod f => f
  | v => v

/-- A member of a class as it is seen on the class. -/
def untied : Value → Value
  | .staticMethod f => f
  | v => v

/-- The member that the first of several loaded classes has; built-in classes end the search. -/
def Store.loadedMember? (s : Store) (name : String) : List ClassRef → Option Value
  | .loaded p :: cs =>
    match (s.loadedClass p).members.get? name with
    | some v => some v
    | none => s.loadedMember? name cs
  | _ => none

/-- The member of a name with a special meaning that a loaded class gives its objects, as it is
seen on one of them. -/
def Store.meaning? (s : Store) (v : Value) (name : String) : Option Value :=
  match v with
  | .object p => (s.loadedMember? name (s.ancestors (s.object p).cls)).map (tied v)
  | _ => none

end BraceScript.Eval
