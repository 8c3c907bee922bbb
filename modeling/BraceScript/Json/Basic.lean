import BraceScript.Bindings
import BraceScript.Number.Decimal
import BraceScript.Text.Points

/-!
# Structured data

`JsonValue` is what a configuration file holds. `JsonValue.shown` is the text of a value in messages
about it, with the words of generated code for the constants, and `JsonValue.kind` names its
kind.
-/

namespace BraceScript

/-- A value of structured data. Every key of an object is there once, at its first place. -/
inductive JsonValue
  | null
  | bool (b : Bool)
  | int (n : Int)
  | float (x : Float)
  | text (t : Text.Points)
  | list (items : List JsonValue)
  | object (members : List (Text.Points × JsonValue))
  deriving Repr, Inhabited

namespace JsonValue

/-- The kind of a value in messages. -/
def kind : JsonValue → String
  | .null => "NoneType"
  | .bool _ => "bool"
  | .int _ => "int"
  | .float _ => "float"
  | .text _ => "str"
  | .list _ => "list"
  | .object _ => "dict"

mutual

/-- The text of a value in messages. -/
def shown : JsonValue → String
  | .null => "None"
  | .bool b => if b then "True" else "False"
  | .int n => toString n
  | .float x => Number.doubleText x
  | .text t => t.quoted
  | .list js => "[" ++ ", ".intercalate (shownAll js) ++ "]"
  | .object ms => "\x7b" ++ ", ".intercalate (shownMembers ms) ++ "\x7d"

/-- The texts of several values. -/
def shownAll : List JsonValue → List String
  | [] => []
  | j :: js => j.shown :: shownAll js

/-- The texts of the members of an object. -/
def shownMembers : List (Text.Points × JsonValue) → List String
  | [] => []
  | (k, j) :: ms => (k.quoted ++ ": " ++ j.shown) :: shownMembers ms

end

end JsonValue

end BraceScript
