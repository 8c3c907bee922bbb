import BraceScript.Bindings
import BraceScript.Eval.Native
import BraceScript.Text.Points

/-!
# Values

What expressions of a running program stand for. Values that can change hold the number of their
place in the store; all others are complete in themselves.
-/

namespace BraceScript.Eval

open Text (Points)

/-- A class: a built-in one, or one that was loaded, by its place in the store. -/
inductive ClassRef
  | core (c : Core)
  | loaded (place : Nat)
  deriving DecidableEq, Repr, Inhabited

/-- A value. -/
inductive Value
  | null
  | bool (b : Bool)
  | int (n : Int)
  /-- A double. What is no number is the same thing only as itself, and `mark` tells one from
  another; it is zero for numbers. -/
  | float (x : Float) (mark : Nat)
  | text (t : Points)
  | tuple (items : List Value)
  | range (start stop step : Int)
  | list (place : Nat)
  | dict (place : Nat)
  | set (place : Nat)
  | frozenSet (place : Nat)
  | object (place : Nat)
  | module (place : Nat)
  | cls (c : ClassRef)
  /-- A function of a loaded class. -/
  | function (place : Nat)
  | native (f : Native)
  /-- A function together with the object it was found on. -/
  | method (self function : Value)
  /-- A function that is not tied to the object it is found on. -/
  | staticMethod (function : Value)
  /-- The members of an object from behind a class on. -/
  | super (start : ClassRef) (self : Value)
  /-- The hint of lists, for any item. -/
  | listHint
  /-- The hint of lists of an item. -/
  | hint (item : Value)
  /-- The name of a type in the hint of lists of it. -/
  | nameHint (name : Points)
  /-- A class with what its instances hold. -/
  | generic (origin : ClassRef) (items : List Value)
  /-- The input of a program, its output or its error output. -/
  | stream (name : String)
  /-- A built-in object of no further use, by name and class. -/
  | special (name type : String)
  deriving Repr, Inhabited

/-- A class by its core class. -/
abbrev Value.core (c : Core) : Value := .cls (.core c)

instance : Coe String Value := ⟨fun s => .text s⟩

namespace Value

mutual

/-- Whether two values are one and the same thing. Values that cannot change are, if they look the
same. -/
def same : Value → Value → Bool
  | .null, .null => true
  | .bool a, .bool b => a == b
  | .int m, .int n => m == n
  | .float x m, .float y n => x.toBits == y.toBits && m == n
  | .text t, .text u => t == u
  | .tuple vs, .tuple ws => sameAll vs ws
  | .range a b c, .range d e f => a == d && b == e && c == f
  | .list p, .list q => p == q
  | .dict p, .dict q => p == q
  | .set p, .set q => p == q
  | .frozenSet p, .frozenSet q => p == q
  | .object p, .object q => p == q
  | .module p, .module q => p == q
  | .cls c, .cls d => c == d
  | .function p, .function q => p == q
  | .native f, .native g => f == g
  | .method v f, .method w g => same v w && same f g
  | .staticMethod f, .staticMethod g => same f g
  | .listHint, .listHint => true
  | .hint v, .hint w => same v w
  | .nameHint t, .nameHint u => t == u
  | .generic c vs, .generic d ws => c == d && sameAll vs ws
  | .stream n, .stream m => n == m
  | .special n _, .special m _ => n == m
  | _, _ => false

/-- Whether two rows of values hold the same things. -/
def sameAll : List Value → List Value → Bool
  | [], [] => true
  | v :: vs, w :: ws => same v w && sameAll vs ws
  | _, _ => false

end

/-- Whether a value is among others. -/
def isIn (v : Value) (vs : List Value) : Bool := vs.any (same v)

end Value

end BraceScript.Eval
