import BraceScript.Code.Written
import BraceScript.Eval.Compare
import BraceScript.Eval.Shown

/-!
# Hints

A class of collections with an item in brackets is a hint of what its instances hold. The hint of
lists checks its item: a text has to be an expression, since it names a type that may be defined
later, and null stands for its own class. Hints of equal items are one hint.
-/

namespace BraceScript.Eval

open Text (Points)

/-- What has to be an expression for a text to name a type; a star in front spreads the name. -/
def hintSource (t : Points) : Points :=
  if t.codes.head? == some '*'.toNat then "(" ++ t ++ ",)[0]" else t

/-- The name of a type as the item of a hint. Surrogates and null characters are not code. -/
def nameHint (t : Points) : Calling Value := do
  if t.isEmpty then fail .emptyHint
  let source := hintSource t
  match source.surrogates? with
  | some (first, stop) =>
    let args : List Value := [
      .text "utf-8", .text source, .int first, .int stop, .text "surrogates not allowed"]
    raise (← newException "UnicodeEncodeError" args
      (["encoding", "object", "start", "end", "reason"].zip args))
  | none =>
    if source.codes.contains 0 then fail .nullInHint
    else if Code.isExpression source.chars then return .nameHint t
    else fail (.noExpression t)

/-- An item of a hint as it is kept. -/
def hintItem (v : Value) : Calling Value := do
  match (← get).bare v with
  | .null => return .core .null
  | .text t => nameHint t
  | .tuple _ => fail (.nestedHint (← shown v))
  | _ => return v

/-- The items in brackets. -/
def Store.bracketed (s : Store) (v : Value) : List Value :=
  match s.bare v with
  | .tuple vs => vs
  | _ => [v]

/-- The hint of lists of an item. -/
def listHintOf (v : Value) : Calling Value := do
  let vs := (← get).bracketed v
  let items ← vs.mapM hintItem
  match items with
  | [] => fail .tooFewHints
  | [item] => return .hint item
  | _ => fail (.tooManyHints items.length)

/-- The first of several values that agrees with another one. -/
def earlier? (v : Value) : List Value → Calling (Option Value)
  | [] => pure none
  | w :: ws => do if ← agree v w then return some w else earlier? v ws

/-! ## Keys -/

/-- What a class says about keys: the member for them, or null if it has one for equality but none
for them. -/
def Store.keyMember? (s : Store) : List ClassRef → Option Value
  | .loaded p :: cs =>
    let members := (s.loadedClass p).members
    match members.get? "__hash__" with
    | some v => some v
    | none => if members.has "__eq__" then some .null else s.keyMember? cs
  | _ => none

/-- Refuses a value that cannot be a key, for values that lie in each other up to a depth. -/
def checkKeyUpTo : Nat → Value → Calling Unit
  | 0, _ => pure ()
  | n + 1, v => do
    let s ← get
    let member := match v with
      | .object p => (s.keyMember? (s.ancestors (s.object p).cls)).map (tied v)
      | _ => none
    match member with
    | some .null => fail (.unhashable (s.typeName v))
    | some f =>
      match (← get).bare (← call f []) with
      | .int _ | .bool _ => pure ()
      | _ => fail .keyNumber
    | none =>
      match s.bare v with
      | .list _ | .dict _ | .set _ => fail (.unhashable (s.typeName v))
      | .tuple vs => vs.forM (checkKeyUpTo n)
      | _ => pure ()

/-- Refuses a value that cannot be a key. -/
def checkKey (v : Value) : Calling Unit := do checkKeyUpTo (← get).depth v

/-- Whether a value can be a key. -/
def isKey (v : Value) : Calling Bool :=
  ending (checkKey v) fun
    | .ok _ => pure true
    | .error .outOfFuel => throw .outOfFuel
    | .error _ => pure false

/-- The hint of lists of an item, or the one that was given for an equal item before. -/
def hintFor (v : Value) : Calling Value := do
  if ← isKey v then
    match ← earlier? v (← get).hints with
    | some w => listHintOf w
    | none =>
      let h ← listHintOf v
      modify fun s => { s with hints := v :: s.hints }
      return h
  else listHintOf v

/-- The hint of a class with items in brackets. -/
def classHint (c : ClassRef) (v : Value) : Calling Value := do
  let s ← get
  match s.loadedMember? "__class_getitem__" (s.ancestors c) with
  | some (.function p) => call (.function p) [.cls c, v]
  | some f => call (untied f) [v]
  | none =>
    if (s.coreOf c).isGeneric then return .generic c (s.bracketed v)
    else fail (.classNotSubscriptable (s.className c))

end BraceScript.Eval
