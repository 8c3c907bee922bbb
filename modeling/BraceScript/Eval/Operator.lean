import BraceScript.Eval.Compare
import BraceScript.Eval.Sequence

/-!
# Operators

The meaning of every operator of generated code. Numbers are calculated with, sequences of one kind
are joined, and a sequence is repeated by a number. A loaded class can say what an operator means
with one of its objects on the left or on the right.
-/

namespace BraceScript.Eval

open Text (Points)

/-- An arithmetic operator: of sums, differences, products, quotients, and quotients that are
rounded down. -/
inductive ArithmeticOp
  | sum
  | difference
  | times
  | ratio
  | floorRatio

namespace ArithmeticOp

/-- The sign of an operator. -/
def sign : ArithmeticOp → String
  | sum => "+"
  | difference => "-"
  | times => "*"
  | ratio => "/"
  | floorRatio => "//"

/-- The name that the members for an operator share. -/
def name : ArithmeticOp → String
  | sum => "add"
  | difference => "sub"
  | times => "mul"
  | ratio => "truediv"
  | floorRatio => "floordiv"

/-- The member that says what an operator means with an object on the left. -/
def left (op : ArithmeticOp) : String := "__" ++ op.name ++ "__"

/-- The member that says what an operator means with an object on the right. -/
def right (op : ArithmeticOp) : String := "__r" ++ op.name ++ "__"

/-- The member that says what an operator means with an object as the old value of an assignment. -/
def assigned (op : ArithmeticOp) : String := "__i" ++ op.name ++ "__"

/-- What an operator means between numbers. -/
def numbers : ArithmeticOp → Num → Num → Except Fault Num
  | sum => Num.apply (· + ·) (· + ·)
  | difference => Num.apply (· - ·) (· - ·)
  | times => Num.apply (· * ·) (· * ·)
  | ratio => divideNum
  | floorRatio => floorDivide

end ArithmeticOp

/-- The fault of operands that an operator knows nothing about. -/
def refuse {α : Type} (sign : String) (l r : Value) : Eval α := do
  let s ← get
  fail (.operands sign (s.typeName l) (s.typeName r))

/-! ## Sequences -/

/-- The items of a list, tuple or text. -/
def Store.row? (s : Store) : Value → Option (Sequence × List Value)
  | .text t => some (.text, t.singles.map .text)
  | .tuple vs => some (.tuple, vs)
  | .list p => some (.list, (s.items p).toList)
  | _ => none

/-- Two sequences of one kind one behind the other. -/
def joined (l r : Value) : Calling (Option Value) := do
  let s ← get
  match s.bare l, s.bare r with
  | .text t, .text u => return some (.text (t ++ u))
  | .tuple vs, .tuple ws => return some (.tuple (vs ++ ws))
  | .list p, .list q => return some (← newList (s.items p ++ s.items q))
  | l, _ =>
    match s.row? l with
    | some (kind, _) => fail (.joining kind (s.typeName r))
    | none => return none

/-- A row repeated a number of times. -/
def repeated {α : Type} (vs : List α) (count : Int) : List α :=
  (List.replicate count.toNat vs).flatten

/-- How often a value says that something is repeated; the first argument is the fault of a value
that says nothing like that. -/
def repetitions (fault : String → Fault) (count : Value) : Calling Int := do
  match ← asIndex? count with
  | none => fail (fault ((← get).typeName count))
  | some n => if fitsIndex n then return n else fail .repeatTooLarge

/-- A sequence repeated as often as a value says. -/
def repeatedBy (fault : String → Fault) (inner count : Value) : Calling Value := do
  let n ← repetitions fault count
  match inner with
  | .text t => return .text ⟨repeated t.codes n⟩
  | .tuple vs => return .tuple (repeated vs n)
  | .list p => newList (repeated ((← get).items p).toList n).toArray
  | v => return v

/-! ## Sets -/

/-- The members of a set that are not in another one. -/
def membersWithout (l r : Value) : Calling (Option (Array Value)) := do
  let s ← get
  match s.membersOf? (s.bare l), s.membersOf? (s.bare r) with
  | some vs, some ws =>
    let kept ← vs.filterM fun v => do return !(← among agree v ws)
    return some kept.toArray
  | _, _ => return none

/-- The set of the members of a set that are not in another one. -/
def setDifference (l r : Value) : Calling (Option Value) := do
  match ← membersWithout l r with
  | none => return none
  | some kept =>
    let p ← newMembers kept
    match (← get).bare l with
    | .set _ => return some (.set p)
    | _ => return some (.frozenSet p)

/-- Takes the members of another set away from a set. -/
def removeInPlace (p : Nat) (v : Value) : Calling Bool := do
  match ← membersWithout (.set p) v with
  | none => return false
  | some kept =>
    modify fun s => { s with sets := s.sets.setIfInBounds p kept }
    return true

/-! ## Operands -/

/-- What the kind of a value makes of an operator between two operands, one of which is the value.
Integers know about integers, doubles about all numbers, and sets about sets. -/
def kindOn (op : ArithmeticOp) (v l r : Value) : Calling (Option Value) := do
  let s ← get
  match s.num? v, s.num? l, s.num? r with
  | some (.int _), some (.int m), some (.int n) =>
    some <$> (← check (op.numbers (.int m) (.int n))).give
  | some (.float _), some a, some b => some <$> (← check (op.numbers a b)).give
  | _, _, _ =>
    match op, s.membersOf? (s.bare v) with
    | .difference, some _ => setDifference l r
    | _, _ => return none

/-- Whether the class of a value has a member for an operator on one of its sides. -/
def Store.means (s : Store) (v : Value) (op : ArithmeticOp) : Bool :=
  [op.left, op.right].any fun name => (s.meaning? v name).isSome

/-- What the left operand makes of an operator by its member for it. If its class has only the
member for the other side, this one is that of the kind of value that the object holds. -/
def leftSide (op : ArithmeticOp) (l r : Value) : Calling (Option Value) := do
  let s ← get
  if (s.meaning? l op.left).isSome then ask l op.left [r]
  else
    match op, (s.row? (s.bare l)).isSome with
    | .sum, true => joined l r
    | .times, true => some <$> repeatedBy .notInteger (s.bare l) r
    | _, _ => kindOn op l l r

/-- What the right operand makes of an operator by its member for it. If its class has only the
member for the other side, this one is that of the kind of value that the object holds. -/
def rightSide (op : ArithmeticOp) (l r : Value) : Calling (Option Value) := do
  let s ← get
  if (s.meaning? r op.right).isSome then ask r op.right [l]
  else
    match op, (s.row? (s.bare r)).isSome with
    | .times, true => some <$> repeatedBy .notInteger (s.bare r) l
    | _, _ => kindOn op r l r

/-- Whether the class of the right operand has a member for it that the class of the left one does
not have. -/
def Store.overrides (s : Store) (l r : Value) (name : String) : Bool :=
  match s.loadedMember? name (s.ancestors (s.classOf r)) with
  | none => false
  | some m =>
    match s.loadedMember? name (s.ancestors (s.classOf l)) with
    | none => true
    | some m' => !m.same m'

/-- What an operator makes of two values, unless it is about plain sequences. The right operand is
asked first if its class is derived from that of the left one, and never if the classes are the
same. -/
def combine? (op : ArithmeticOp) (l r : Value) : Calling (Option Value) := do
  let s ← get
  match s.means l op, s.means r op with
  | true, true =>
    if s.classOf l == s.classOf r then leftSide op l r
    else if s.isDerived r l && s.overrides l r op.right then
      orElse (rightSide op l r) (leftSide op l r)
    else orElse (leftSide op l r) (rightSide op l r)
  | true, false => orElse (leftSide op l r) (kindOn op r l r)
  | false, true =>
    if s.isDerived r l then orElse (rightSide op l r) (kindOn op l l r)
    else orElse (kindOn op l l r) (rightSide op l r)
  | false, false => orElse (kindOn op l l r) (kindOn op r l r)

/-! ## Binary operators -/

/-- Two sequences one behind the other, if the class of the first has no member for it. -/
def joinedOr (sign : String) (l r : Value) : Calling Value := do
  let s ← get
  match ← if (s.meaning? l "__add__").isNone then joined l r else pure none with
  | some v => return v
  | none => refuse sign l r

/-- The sum of two values. -/
def plus (sign : String) (l r : Value) : Calling Value := do
  match ← combine? .sum l r with
  | some v => return v
  | none => joinedOr sign l r

/-- The difference of two values. -/
def minus (sign : String) (l r : Value) : Calling Value := do
  match ← combine? .difference l r with
  | some v => return v
  | none => refuse sign l r

/-- Whether a value is a sequence that can be repeated: one whose class has no member for it. -/
def Store.isRepeatable (s : Store) (v : Value) : Bool :=
  (s.row? (s.bare v)).isSome && !s.means v .times

/-- Of two values, the sequence that is repeated by the other one. -/
def repeatedOr (sign : String) (l r : Value) : Calling Value := do
  let s ← get
  if s.isRepeatable l then repeatedBy .factor (s.bare l) r
  else if s.isRepeatable r then repeatedBy .factor (s.bare r) l
  else refuse sign l r

/-- The product of two values. -/
def product (sign : String) (l r : Value) : Calling Value := do
  match ← combine? .times l r with
  | some v => return v
  | none => repeatedOr sign l r

/-- A quotient of two values. -/
def quotientBy (op : ArithmeticOp) (l r : Value) : Calling Value := do
  match ← combine? op l r with
  | some v => return v
  | none => refuse op.sign l r

/-- The number with the opposite sign. -/
def negative (v : Value) : Calling Value := do
  let s ← get
  match s.meaning? v "__neg__" with
  | some f => call f []
  | none =>
    match s.num? v with
    | some n => n.neg.give
    | none => fail (.operand "unary -" (s.typeName v))

/-- The meaning of an operator between two values, for operators that need both. -/
def binary (op : Code.BinaryOp) (l r : Value) : Calling Value :=
  match op with
  | .sub => minus "-" l r
  | .mul => product "*" l r
  | op => compareValues op l r

/-! ## Augmented assignments -/

/-- Adds all items of a value to a list. -/
def extend (p : Nat) (v : Value) : Calling Unit := do
  let more ← allItems v
  modify fun s => { s with lists := s.lists.modify p (· ++ more.toArray) }

/-- Repeats a list in its place. -/
def repeatInPlace (p : Nat) (count : Value) : Calling Unit := do
  let n ← repetitions .factor count
  modify fun s => { s with lists := s.lists.modify p fun vs => (repeated vs.toList n).toArray }

/-- The operator of an augmented assignment. -/
def meant : Code.AugmentOp → ArithmeticOp
  | .add => .sum
  | .sub => .difference
  | .mul => .times

/-- The new value of an augmented assignment to which the members of the operands say nothing. A
list is extended or repeated in its place, unless its class has a member for that; and only what
could not be repeated itself repeats the other operand. -/
def augmentedBare (op : Code.AugmentOp) (old v : Value) : Calling Value := do
  let s ← get
  let inPlace := (s.meaning? old (meant op).assigned).isNone
  match op, s.bare old, inPlace with
  | .add, .list p, true => extend p v; return old
  | .mul, .list p, true => repeatInPlace p v; return old
  | .add, _, _ => joinedOr "+=" old v
  | .mul, _, _ =>
    if s.isCollection old && !s.isRepeatable old then refuse "*=" old v
    else repeatedOr "*=" old v
  | .sub, _, _ => refuse "-=" old v

/-- The new value of a set from which others are taken away in its place. -/
def reduced (op : Code.AugmentOp) (old v : Value) : Calling (Option Value) := do
  let s ← get
  match op, s.bare old with
  | .sub, .set p => if ← removeInPlace p v then return some old else return none
  | _, _ => return none

/-- The new value of an augmented assignment. -/
def augmented (op : Code.AugmentOp) (old v : Value) : Calling Value := do
  let assigned :=
    if ((← get).meaning? old (meant op).assigned).isSome then ask old (meant op).assigned [v]
    else reduced op old v
  match ← orElse assigned (combine? (meant op) old v) with
  | some r => return r
  | none => augmentedBare op old v

end BraceScript.Eval
