/-!
# Identifiers of generated code

Generated code has reserved words of its own. A script name that is one of them, or the name of
the current object, gets an underscore at its end; every other name is kept.
-/

namespace BraceScript.Code

/-- The reserved words of generated code. -/
def reservedWords : List String := [
  "False", "None", "True", "and", "as", "assert", "async", "await", "break", "class", "continue",
  "def", "del", "elif", "else", "except", "finally", "for", "from", "global", "if", "import",
  "in", "is", "lambda", "nonlocal", "not", "or", "pass", "raise", "return", "try", "while",
  "with", "yield"]

/-- The name of the current object. -/
def selfName : String := "self"

/-- The identifier of a script name. -/
def ident (name : String) : String :=
  if reservedWords.contains name || name == selfName then name ++ "_" else name

end BraceScript.Code
