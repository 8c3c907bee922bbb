import BraceScript.Eval.Meaning

/-!
# Going through values

A `Cursor` is a place in a value that is gone through item by item. Texts, tuples, lists and ranges
are gone through by place, so a list may change in between; dictionaries and sets by their keys and
members; an object of a loaded class as its members for it say.
-/

namespace BraceScript.Eval

open Text (Points)

/-- The item of a built-in value that comes after as many others, if there is one. -/
def Store.item? (s : Store) (v : Value) (i : Nat) : Option Value :=
  match v with
  | .text t => (t.codes[i]?).map fun c => .text ⟨[c]⟩
  | .tuple vs => vs[i]?
  | .range a b c => if i < rangeLength a b c then some (.int (a + i * c)) else none
  | .list p => (s.items p)[i]?
  | .dict p => ((s.entries p)[i]?).map (·.1)
  | .set p | .frozenSet p => (s.members p)[i]?
  | _ => none

/-- The items of a built-in value. -/
def Store.itemsOf (s : Store) : Value → List Value
  | .text t => t.singles.map .text
  | .tuple vs => vs
  | .range a b c => (List.range (rangeLength a b c)).map fun (i : Nat) => .int (a + i * c)
  | .list p => (s.items p).toList
  | .dict p => (s.entries p).toList.map (·.1)
  | .set p | .frozenSet p => (s.members p).toList
  | _ => []

/-- A place in a value that is gone through. -/
inductive Cursor
  /-- Behind some items of a built-in value. -/
  | items (source : Value) (place : Nat)
  /-- In front of what a function gives. -/
  | next (function : Value)
  /-- In front of the item that a function gives for a place. -/
  | places (function : Value) (place : Nat)

/-- The cursor in front of all items of a value. -/
def Cursor.start (v : Value) : Calling Cursor := do
  let s ← get
  match s.meaning? v "__iter__", s.meaning? v "__getitem__" with
  | some .null, _ => fail (.notIterable (s.typeName v))
  | some f, _ =>
    let source ← call f []
    match (← get).meaning? source "__next__" with
    | some f => return .next f
    | none => fail (.nonIterator ((← get).typeName source))
  | none, member =>
    match s.size? (s.bare v), member with
    | some _, _ => return .items (s.bare v) 0
    | none, some f => return .places f 0
    | none, none => fail (.notIterable (s.typeName v))

/-- Whether an exception is one of several core exceptions. -/
def Store.isOneOf (s : Store) (exception : Value) (names : List String) : Bool :=
  names.any fun n => s.isSubclass (s.classOf exception) (.core (.exception n))

/-- What a function gives, unless it raises one of several exceptions. -/
def unlessRaised {α : Type} (names : List String) (a : Calling α) : Calling (Option α) :=
  ending a fun
    | .error (.raised e) => do
      if (← get).isOneOf e names then return none else raise e
    | r => some <$> resume r

/-- The item behind a cursor, and the cursor behind that. -/
def Cursor.advance : Cursor → Calling (Option (Value × Cursor))
  | .items v i => do
    return ((← get).item? v i).map fun w => (w, .items v (i + 1))
  | .next f => do
    return (← unlessRaised ["StopIteration"] (call f [])).map fun w => (w, .next f)
  | .places f i => do
    return (← unlessRaised ["IndexError", "StopIteration"] (call f [.int i])).map fun w =>
      (w, .places f (i + 1))

/-- More items than anything is gone through for. -/
def itemBound : Nat := Nat.pow 2 62

/-- The items behind a cursor. -/
def Cursor.rest (c : Cursor) : Calling (List Value) := go itemBound [] c
where
  /-- The items behind a cursor, behind others in reverse. -/
  go : Nat → List Value → Cursor → Calling (List Value)
    | 0, _, _ => throw .outOfFuel
    | n + 1, before, c => do
      match ← c.advance with
      | none => return before.reverse
      | some (v, c) => go n (v :: before) c

/-- All items of a value. -/
def allItems (v : Value) : Calling (List Value) := do
  match ← Cursor.start v with
  | .items w 0 => return (← get).itemsOf w
  | c => c.rest

end BraceScript.Eval
