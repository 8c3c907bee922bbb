import BraceScript.Code.Basic
import BraceScript.Text.Quoted

/-!
# Types of scripts

A type is a name with a number of array ranks. It decides two things in generated code: the
hint of a parameter, and the value of a variable or field that is declared without one.
-/

namespace BraceScript.Lowering

open Code (Expr)

/-- What stands for a basic type in a hint. -/
def basicTypes : List (String × String) := [
  ("string", "str"), ("String", "str"), ("char", "str"), ("int", "int"), ("long", "int"),
  ("short", "int"), ("byte", "int"), ("double", "float"), ("float", "float"),
  ("decimal", "float"), ("bool", "bool"), ("object", "Any"), ("Object", "Any")]

/-- The values of the types that do not start out empty. -/
def defaultValues : List (String × Expr) := [
  ("int", .number "0"), ("long", .number "0"), ("short", .number "0"), ("byte", .number "0"),
  ("double", .number "0.0"), ("float", .number "0.0"), ("decimal", .number "0.0"),
  ("bool", .false)]

/-- The types that say nothing about a value. -/
def untyped : List String := ["var", "void"]

/-- The hint of an element type: a basic type, or the quoted name of a class. -/
def elementHint (name : String) : Expr :=
  match basicTypes.lookup name with
  | some t => .name t
  | none => .text (Text.quoted name)

/-- A hint inside a number of array ranks. -/
def arrayHint (element : Expr) : Nat → Expr
  | 0 => element
  | n + 1 => .index (.name "List") (arrayHint element n)

/-- The hint of a type, if it says anything. -/
def hint (name : String) (rank : Nat) : Option Expr :=
  if untyped.contains name && rank == 0 then none
  else some (arrayHint (elementHint name) rank)

/-- The value of a type that nothing was assigned to. -/
def defaultValue (name : String) (rank : Nat) : Expr :=
  if rank != 0 then .none else (defaultValues.lookup name).getD .none

end BraceScript.Lowering
