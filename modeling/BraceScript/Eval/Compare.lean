import BraceScript.Code.Text
import BraceScript.Eval.Meaning

/-!
# Comparing values

Numbers are equal by their size, whatever their kind; texts and collections by what they hold;
everything else only to itself. Numbers, texts, lists and tuples have an order each, and sets
compare by what they include; there is no order between different kinds. A loaded class can say
how its objects compare.

Collections take the same thing as equal to itself, even where it is not: that tells a double that
is no number from another one.
-/

namespace BraceScript.Eval

open Code (BinaryOp)

/-- The first values of two rows that do not agree, or how the lengths of the rows compare. -/
def firstDifference (agree : Value → Value → Calling Bool) : List Value → List Value →
    Calling ((Value × Value) ⊕ Ordering)
  | [], [] => pure (.inr .eq)
  | [], _ :: _ => pure (.inr .lt)
  | _ :: _, [] => pure (.inr .gt)
  | v :: vs, w :: ws => do
    if ← agree v w then firstDifference agree vs ws else return .inl (v, w)

/-- Whether a comparison holds between things that compare in a way. -/
def holds : BinaryOp → Ordering → Bool
  | .eq, o => o == .eq
  | .ne, o => o != .eq
  | .lt, o => o == .lt
  | .le, o => o != .gt
  | .gt, o => o == .gt
  | .ge, o => o != .lt
  | _, _ => false

/-- The comparison that holds the other way round. -/
def turned : BinaryOp → BinaryOp
  | .lt => .gt
  | .le => .ge
  | .gt => .lt
  | .ge => .le
  | op => op

/-- The member that says what a comparison means. -/
def comparisonName : BinaryOp → String
  | .eq => "__eq__"
  | .ne => "__ne__"
  | .lt => "__lt__"
  | .le => "__le__"
  | .gt => "__gt__"
  | _ => "__ge__"

/-- The first outcome of two attempts. -/
def orElse (a b : Calling (Option Value)) : Calling (Option Value) := do
  match ← a with
  | some v => return some v
  | none => b

/-- Whether the class of a value derives from that of another one. -/
def Store.isDerived (s : Store) (v w : Value) : Bool :=
  s.classOf v != s.classOf w && s.isSubclass (s.classOf v) (s.classOf w)

/-- Whether an item is among others. -/
def among (agree : Value → Value → Calling Bool) (v : Value) : List Value → Calling Bool
  | [] => pure false
  | w :: ws => do if ← agree v w then return true else among agree v ws

/-- Whether all items are among others. -/
def allAmong (agree : Value → Value → Calling Bool) (ws : List Value) : List Value → Calling Bool
  | [] => pure true
  | v :: vs => do if ← among agree v ws then allAmong agree ws vs else return false

/-- Whether all entries are among others. -/
def entriesAmong (agree : Value → Value → Calling Bool) (others : List (Value × Value)) :
    List (Value × Value) → Calling Bool
  | [] => pure true
  | (k, v) :: es => do
    match ← found k others with
    | some w => if ← agree v w then entriesAmong agree others es else return false
    | none => return false
where
  /-- What stands under a key. -/
  found (k : Value) : List (Value × Value) → Calling (Option Value)
    | [] => pure none
    | (k', w) :: es => do if ← agree k k' then return some w else found k es

/-- How two sets of items compare, if one includes the other: by their sizes. -/
def compareSets (agree : Value → Value → Calling Bool) (vs ws : List Value) :
    Calling (Option Ordering) := do
  if vs.length ≤ ws.length then
    return if ← allAmong agree ws vs then some (compare vs.length ws.length) else none
  else return if ← allAmong agree vs ws then some .gt else none

/-- Whether two ranges hold the same integers. -/
def sameRange (start stop step start' stop' step' : Int) : Bool :=
  let n := rangeLength start stop step
  n == rangeLength start' stop' step'
    && (n == 0 || (start == start' && (n == 1 || step == step')))

/-- The members of a set. -/
def Store.membersOf? (s : Store) : Value → Option (List Value)
  | .set p | .frozenSet p => some (s.members p).toList
  | _ => none

/-- How two rows compare: like their first items that differ. -/
def compareRows (agree : Value → Value → Calling Bool)
    (compare : BinaryOp → Value → Value → Calling Value) (op : BinaryOp) (vs ws : List Value) :
    Calling Value := do
  let isEquality := op == .eq || op == .ne
  if isEquality && vs.length != ws.length then return .bool (op == .ne)
  match ← firstDifference agree vs ws with
  | .inr o => return .bool (holds op o)
  | .inl (a, b) => if isEquality then return .bool (op == .ne) else compare op a b

/-- Whether two built-in values are equal, for kinds that have no order; values of other kinds may
still be the same thing. -/
def equalParts? (agree : Value → Value → Calling Bool) (a b : Value) : Calling (Option Bool) := do
  let s ← get
  match a, b with
  | .dict p, .dict q =>
    let es := (s.entries p).toList
    let fs := (s.entries q).toList
    if es.length = fs.length then some <$> entriesAmong agree fs es else return some false
  | .range x y z, .range x' y' z' => return some (sameRange x y z x' y' z')
  | .hint u, .hint w => some <$> agree u w
  | a, b => return if a.same b then some true else none

/-- What a comparison of two built-in values gives, if they are of kinds that compare. -/
def compareBuiltin (agree : Value → Value → Calling Bool)
    (compare : BinaryOp → Value → Value → Calling Value) (op : BinaryOp) (a b : Value) :
    Calling (Option Value) := do
  let s ← get
  match a, b with
  | .text t, .text u => return some (.bool (holds op (t.compare u)))
  | .tuple vs, .tuple ws => some <$> compareRows agree compare op vs ws
  | .list p, .list q =>
    some <$> compareRows agree compare op (s.items p).toList (s.items q).toList
  | a, b =>
    match a.num?, b.num?, s.membersOf? a, s.membersOf? b with
    | some x, some y, _, _ =>
      let o := x.compare y
      return some (.bool (if op == .ne then o != some .eq else o.any (holds op)))
    | _, _, some vs, some ws =>
      match ← compareSets agree vs ws with
      | some o => return some (.bool (holds op o))
      | none => return some (.bool (op == .ne))
    | _, _, _, _ =>
      match op with
      | .eq => return (← equalParts? agree a b).map .bool
      | .ne => return (← equalParts? agree a b).map fun equal => .bool (!equal)
      | _ => return none

/-- What a value itself says about a comparison with another one: by its member for it, or as the
built-in value that it is or holds. Inequality is the opposite of equality for objects that only
say what that is. -/
def compareFrom (agree : Value → Value → Calling Bool)
    (compare : BinaryOp → Value → Value → Calling Value) (op : BinaryOp) (v w : Value) :
    Calling (Option Value) := do
  let s ← get
  let opposite := if op == .ne && (s.bare v).same v then s.meaning? v "__eq__" else none
  match s.meaning? v (comparisonName op), opposite with
  | some _, _ => ask v (comparisonName op) [w]
  | none, some _ =>
    match ← ask v "__eq__" [w] with
    | some r => return some (.bool (!(← truth r)))
    | none => return none
  | none, none => compareBuiltin agree compare op (s.bare v) (s.bare w)

mutual

/-- What a comparison of two values gives, for values that lie in each other up to a depth. The
left value is asked first, unless the right one is of a more special class. -/
def compareUpTo : Nat → BinaryOp → Value → Value → Calling Value
  | 0, _, _, _ => pure (.bool false)
  | n + 1, op, v, w => do
    let s ← get
    let onLeft := compareFrom (agreeUpTo n) (compareUpTo n) op v w
    let onRight := compareFrom (agreeUpTo n) (compareUpTo n) (turned op) w v
    match ← if s.isDerived w v then orElse onRight onLeft else orElse onLeft onRight with
    | some r => return r
    | none =>
      match op with
      | .eq => return .bool (v.same w)
      | .ne => return .bool (!v.same w)
      | op => fail (.unordered op.text (s.typeName v) (s.typeName w))

/-- Whether two items of collections are the same or equal. -/
def agreeUpTo : Nat → Value → Value → Calling Bool
  | 0, _, _ => pure false
  | n + 1, v, w => do
    if v.same w then return true else truth (← compareUpTo n .eq v w)

end

/-- How deep values are looked into: there are no more collections inside each other than there
are, and each level is two steps; the tuples between them are few. -/
def Store.depth (s : Store) : Nat :=
  4 * (s.lists.size + s.dicts.size + s.sets.size + s.objects.size) + 100

/-- What a comparison of two values gives. -/
def compareValues (op : BinaryOp) (v w : Value) : Calling Value := do
  compareUpTo (← get).depth op v w

/-- Whether a comparison holds between two values. -/
def relate (op : BinaryOp) (v w : Value) : Calling Bool := do truth (← compareValues op v w)

/-- Whether two items of collections are the same or equal. -/
def agree (v w : Value) : Calling Bool := do agreeUpTo (← get).depth v w

end BraceScript.Eval
