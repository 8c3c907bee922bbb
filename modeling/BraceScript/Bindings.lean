/-!
# Bindings

A scope, an object and a set of libraries each bind names to what they stand for, in the order in
which the names were bound first. Binding a name anew keeps its place.
-/

namespace BraceScript

/-- Names with what they stand for, in order. -/
abbrev Bindings (α : Type) (κ : Type := String) := List (κ × α)

namespace Bindings

variable {α κ : Type} [DecidableEq κ]

/-- What a name stands for. -/
def get? : Bindings α κ → κ → Option α
  | [], _ => none
  | (n, a) :: bs, name => if n = name then some a else get? bs name

/-- Whether a name is bound. -/
def has (bs : Bindings α κ) (name : κ) : Bool := (bs.get? name).isSome

/-- Binds a name, or binds it anew. -/
def put : Bindings α κ → κ → α → Bindings α κ
  | [], name, a => [(name, a)]
  | (n, b) :: bs, name, a => if n = name then (n, a) :: bs else (n, b) :: put bs name a

/-- Binds several names in order. -/
def putAll (bs : Bindings α κ) (more : Bindings α κ) : Bindings α κ :=
  more.foldl (fun bs e => bs.put e.1 e.2) bs

/-- Takes the binding of a name away. -/
def erase : Bindings α κ → κ → Bindings α κ
  | [], _ => []
  | (n, b) :: bs, name => if n = name then bs else (n, b) :: erase bs name

theorem get?_put_self (bs : Bindings α κ) (name : κ) (a : α) :
    (bs.put name a).get? name = some a := by
  induction bs with
  | nil => simp [put, get?]
  | cons e bs ih => by_cases h : e.1 = name <;> simp [put, get?, h, ih]

theorem get?_put_of_ne (bs : Bindings α κ) {name other : κ} (a : α) (h : other ≠ name) :
    (bs.put name a).get? other = bs.get? other := by
  induction bs with
  | nil => simp [put, get?, h.symm]
  | cons e bs ih =>
    by_cases he : e.1 = name
    · simp [put, get?, he, h.symm]
    · simp [put, get?, he, ih]

end Bindings

end BraceScript
