import BraceScript.Eval.Arithmetic
import BraceScript.Eval.Class

/-!
# Operations that classes define

A loaded class can say what an operation means for its objects, by a member with the name of the
operation. `ask` calls such a member; it may decline, and then the operation goes on as if the
member were not there. The operations here are those that most others need: whether a value counts
as true, how many items it has, and which integer it stands for.
-/

namespace BraceScript.Eval

/-- What the member for an operation gives back to decline. -/
def declined : Value → Bool
  | .special "NotImplemented" _ => true
  | _ => false

/-- What the member of a name makes of an operation, if there is one and it does not decline. -/
def ask (v : Value) (name : String) (args : List Value) : Calling (Option Value) := do
  match (← get).meaning? v name with
  | none => return none
  | some f =>
    let r ← call f args
    return if declined r then none else some r

/-- Sizes and places are below this number. -/
def indexBound : Nat := Nat.pow 2 63

/-- Whether an integer can be a size or a place. -/
def fitsIndex (n : Int) : Bool := -(indexBound : Int) ≤ n && n < indexBound

/-- The integer that a value stands for as a place, if it can be one. -/
def asIndex? (v : Value) : Calling (Option Int) := do
  match ((← get).bare v).int? with
  | some n => return some n
  | none =>
    match (← get).meaning? v "__index__" with
    | none => return none
    | some f =>
      let r ← call f []
      match ((← get).bare r).int? with
      | some n => return some n
      | none => fail (.returned "__index__" "non-int" ((← get).typeName r))

/-- The integer that a value stands for. -/
def asInteger (v : Value) : Calling Int := do
  match ← asIndex? v with
  | some n => return n
  | none => fail (.notInteger ((← get).typeName v))

/-- The length that a member for it gives back. -/
def lengthFrom (v : Value) : Calling Nat := do
  let n ← asInteger v
  if !fitsIndex n then fail .repeatTooLarge
  else if n < 0 then fail .negativeLength
  else return n.toNat

/-- The number of items in a range. -/
def rangeLength (start stop step : Int) : Nat :=
  if 0 < step then ((stop - start + step - 1) / step).toNat
  else ((start - stop - step - 1) / (-step)).toNat

/-- The number of items of a built-in value, if it has any. -/
def Store.size? (s : Store) : Value → Option Nat
  | .text t => some t.length
  | .tuple vs => some vs.length
  | .range a b c => some (rangeLength a b c)
  | .list p => some (s.items p).size
  | .dict p => some (s.entries p).size
  | .set p | .frozenSet p => some (s.members p).size
  | _ => none

/-- The number of items of a value. -/
def length (v : Value) : Calling Nat := do
  match (← get).meaning? v "__len__" with
  | some f => lengthFrom (← call f [])
  | none =>
    let s ← get
    match s.size? (s.bare v) with
    | some n => return n
    | none => fail (.noLength (s.typeName v))

/-- Whether a built-in value counts as true. -/
def Store.plainTruth (s : Store) (v : Value) : Bool :=
  match v with
  | .null => false
  | .bool b => b
  | .int n => n != 0
  | .float x _ => x != 0.0
  | v => (s.size? v).all (· != 0)

/-- Whether a value counts as true. Members for it come first, then the number that an object
holds, then members for its length. -/
def truth (v : Value) : Calling Bool := do
  let s ← get
  match s.meaning? v "__bool__", s.num? v, s.meaning? v "__len__" with
  | some f, _, _ =>
    match ← call f [] with
    | .bool b => return b
    | r => fail (.returned "__bool__" "" ((← get).typeName r))
  | none, none, some f => return (← lengthFrom (← call f [])) != 0
  | none, _, _ => return s.plainTruth (s.bare v)

end BraceScript.Eval
