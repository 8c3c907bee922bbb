import BraceScript.Code.Basic

/-!
# Names inside a class

A name in a class that begins with two underscores and does not end with two is private to the
class: the name of the class goes in front of it, so that classes that derive from each other do
not share it. `privateName` gives the name that is meant.
-/

namespace BraceScript.Code

/-- Whether a name is private to the class it stands in. -/
def isPrivate (name : String) : Bool :=
  ['_', '_'].isPrefixOf name.toList && !(['_', '_'].isPrefixOf name.toList.reverse)

/-- The name that is meant by a name inside a class. -/
def privateName (cls name : String) : String :=
  let owner := cls.toList.dropWhile (· == '_')
  if isPrivate name && !owner.isEmpty then "_" ++ String.ofList owner ++ name else name

end BraceScript.Code
