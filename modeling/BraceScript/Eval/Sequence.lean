import BraceScript.Eval.Cursor
import BraceScript.Eval.Hint

/-!
# Items by place

Texts, lists, tuples and ranges have items by place, counted from the end for negative places;
dictionaries have values by key.
-/

namespace BraceScript.Eval

open Text (Points)

/-- The kind of sequence that a built-in value is. -/
def sequenceKind? : Value → Option Sequence
  | .text _ => some .text
  | .tuple _ => some .tuple
  | .list _ => some .list
  | .range .. => some .range
  | _ => none

/-- The place in a row of some length that an integer means: from the end if it is negative. -/
def placeIn (length : Nat) (i : Int) : Option Nat :=
  if 0 ≤ i then if i < length then some i.toNat else none
  else if -(length : Int) ≤ i then some (i + length).toNat else none

/-- The place that a value means in a sequence of some length. -/
def placeOf (kind : Sequence) (length : Nat) (place : Value) (outside : Fault) : Calling Nat := do
  match ← asIndex? place with
  | none => fail (.indexType kind ((← get).typeName place))
  | some i =>
    if fitsIndex i then
      match placeIn length i with
      | some n => return n
      | none => fail outside
    else fail .indexTooLarge

/-! ## Dictionaries -/

/-- The place of a key among others. -/
def findKey (key : Value) : Nat → List Value → Calling (Option Nat)
  | _, [] => pure none
  | i, k :: ks => do if ← agree key k then return some i else findKey key (i + 1) ks

/-- The place of a key in a dictionary. -/
def keyPlace? (p : Nat) (key : Value) : Calling (Option Nat) := do
  checkKey key
  findKey key 0 (((← get).entries p).toList.map (·.1))

/-- Puts a value under a key of a dictionary. -/
def putEntry (p : Nat) (key v : Value) : Calling Unit := do
  match ← keyPlace? p key with
  | some i =>
    modify fun s => { s with dicts := s.dicts.modify p fun es => es.modify i fun e => (e.1, v) }
  | none => modify fun s => { s with dicts := s.dicts.modify p (·.push (key, v)) }

/-- Adds a member to a set, unless it holds an equal one. -/
def addMember (p : Nat) (v : Value) : Calling Unit := do
  checkKey v
  match ← findKey v 0 ((← get).members p).toList with
  | some _ => pure ()
  | none => modify fun s => { s with sets := s.sets.modify p (·.push v) }

/-! ## All values -/

/-- The item of a built-in value at a place or key; `v` is the value that holds it. -/
def itemAt (v inner place : Value) : Calling Value := do
  let s ← get
  match inner with
  | .dict p =>
    match ← keyPlace? p place with
    | some i => return (((← get).entries p)[i]?.map (·.2)).getD .null
    | none => raise (← newException "KeyError" [place] [])
  | inner =>
    match sequenceKind? inner, s.size? inner with
    | some kind, some n =>
      let i ← placeOf kind n place (.outOfRange kind)
      return ((← get).item? inner i).getD .null
    | _, _ => fail (.notSubscriptable (s.typeName v))

/-- The part of a value at a place: an item, or the hint of a class with an item. -/
def index (v place : Value) : Calling Value := do
  let s ← get
  match s.meaning? v "__getitem__" with
  | some f => call f [place]
  | none =>
    match v with
    | .listHint => hintFor place
    | .hint _ | .generic .. => fail (.notGeneric (← shown v))
    | .cls c => classHint c place
    | v => itemAt v (s.bare v) place

/-- Whether a value is of a kind that might have items by place. -/
def Store.isCollection (s : Store) (v : Value) : Bool :=
  match s.classOf v, v with
  | .loaded _, _ | _, .hint _ | _, .listHint => true
  | _, v => (s.size? v).isSome

/-- Puts an item at a place of a value. Even a value without places looks at the place first. -/
def setIndex (v place item : Value) : Calling Unit := do
  let s ← get
  match s.meaning? v "__setitem__" with
  | some f => let _ ← call f [place, item]
  | none =>
    match s.bare v with
    | .list p =>
      let n ← placeOf .list (s.items p).size place .assignmentOutOfRange
      modify fun s => { s with lists := s.lists.modify p (·.set! n item) }
    | .dict p => putEntry p place item
    | _ =>
      let i? ← if s.isCollection v then asIndex? place else pure none
      if i?.any (!fitsIndex ·) then fail .indexTooLarge
      else fail (.noItemAssignment (s.typeName v))

end BraceScript.Eval
