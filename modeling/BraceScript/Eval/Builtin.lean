import BraceScript.Eval.Value

/-!
# Built-in names

The names that mean something in every program, without being bound: classes, functions and a few
objects of no use in scripts.
-/

namespace BraceScript.Eval

/-- Built-in objects of no use in scripts, with the names of their classes. -/
def specialNames : List (String × String) := [
  ("Ellipsis", "ellipsis"), ("NotImplemented", "NotImplementedType"), ("__spec__", "ModuleSpec"),
  ("copyright", "_Printer"), ("credits", "_Printer"), ("license", "_Printer"),
  ("exit", "Quitter"), ("quit", "Quitter"), ("help", "_Helper")]

/-- What a built-in name stands for. -/
def builtinValue? (name : String) : Option Value :=
  match Core.ofName? name, Native.ofName? name, specialNames.lookup name with
  | some c, _, _ => some (.core c)
  | none, some f, _ => some (.native f)
  | none, none, some type => some (.special name type)
  | none, none, none =>
    if name = "__debug__" then some (.bool true)
    else if name = "__doc__" || name = "__package__" then some ""
    else none

/-- The modules that every program finds, by the names they are referred to. They come first in the
store, in this order. -/
def sharedModules : List String :=
  ["math", "os", "os.path", "json", "string", "re", "sys", "builtins"]

/-- The place of a module that every program finds. -/
def sharedPlace (name : String) : Nat := sharedModules.findIdx (· == name)

/-- The place of the module of built-in names. -/
def builtinsPlace : Nat := sharedPlace "builtins"

/-- The names of the program that ready-made functions use, or that code means by them. -/
def reliedNames : List String := [
  "isinstance", "getattr", "str", "int", "float", "bool", "abs", "max", "min", "round",
  "ValueError", "sys", "_math", "_re", "_cs_str", "_cs_div", "_cs_format", "_is_integer",
  "Console"]

end BraceScript.Eval
