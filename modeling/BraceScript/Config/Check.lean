import BraceScript.Config.Basic
import BraceScript.Json.Read

/-!
# Checking configurations

A configuration is an object with three known keys, each of which can be left out. `Config.ofMembers`
takes it from structured data or lists every issue with it: those of the known keys in their
order, then the unknown keys in the order of the object. A key with a surrogate is no text at all,
and then it is the only issue.
-/

namespace BraceScript.Config

/-- What is wrong with a value. -/
inductive Problem
  | notList | notText | unknownKey | badKey
  deriving DecidableEq, Repr

/-- The wording of what is wrong. -/
def Problem.text : Problem → String
  | .notList => "Input should be a valid list"
  | .notText => "Input should be a valid string"
  | .unknownKey => "Extra inputs are not permitted"
  | .badKey => "Input should be a valid string, unable to parse raw data as a unicode string"

/-- The name of what is wrong. -/
def Problem.name : Problem → String
  | .notList => "list_type"
  | .notText => "string_type"
  | .unknownKey => "extra_forbidden"
  | .badKey => "string_unicode"

/-- A value that is wrong, with the keys and places that lead to it. -/
structure Issue where
  path : List String
  problem : Problem
  value : JsonValue

/-! ## Wording -/

/-- A part of a path; one with a point inside is marked off. -/
def pathPart (p : String) : String := if p.contains '.' then "`" ++ p ++ "`" else p

/-- The longest part of the front of a text that takes up at most as many bytes. -/
def frontBytes : Nat → List Char → List Char
  | _, [] => []
  | n, c :: cs => if c.utf8Size ≤ n then c :: frontBytes (n - c.utf8Size) cs else []

/-- The most bytes of a text of a value that are shown. -/
def shownBytes : Nat := 50

/-- A text of a value with its middle left out if it is long. -/
def shortened (t : String) : String :=
  if t.utf8ByteSize ≤ shownBytes then t
  else
    let half := (shownBytes + 1) / 2
    String.ofList (frontBytes half t.toList) ++ "..."
      ++ String.ofList (frontBytes (half - 1) t.toList.reverse).reverse

/-- The lines that report an issue: its path, if it has one, and what is wrong. -/
def Issue.lines (i : Issue) : List String :=
  (if i.path.isEmpty then [] else [".".intercalate (i.path.map pathPart)]) ++ [
    "  " ++ i.problem.text ++ " [type=" ++ i.problem.name ++ ", input_value="
      ++ shortened i.value.shown ++ ", input_type=" ++ i.value.kind ++ "]"]

/-- The lines that report several issues, with their number in front. -/
def issuesText (is : List Issue) : String :=
  "\n".intercalate ((toString is.length ++ " validation error"
    ++ (if is.length = 1 then "" else "s") ++ " for RunnerConfig") :: is.flatMap Issue.lines)

/-! ## Checking -/

/-- The key of the default references. -/
def referencesKey : String := "default_references"

/-- The key of the directory for temporary copies. -/
def tempDirKey : String := "temp_dir"

/-- The key of the encoding. -/
def encodingKey : String := "encoding"

/-- The known keys. -/
def knownKeys : List String := [referencesKey, tempDirKey, encodingKey]

/-- A value that has to be a text. -/
def textOf (path : List String) : JsonValue → Except (List Issue) Text.Points
  | .text t => .ok t
  | j => .error [⟨path, .notText, j⟩]

/-- The issues of a result. -/
def issuesOf {α : Type} : Except (List Issue) α → List Issue
  | .ok _ => []
  | .error is => is

/-- The texts of a list from a place on, or all items that are none. -/
def textsFrom (path : List String) (place : Nat) :
    List JsonValue → Except (List Issue) (List Text.Points)
  | [] => .ok []
  | j :: js =>
    match textOf (path ++ [toString place]) j, textsFrom path (place + 1) js with
    | .ok s, .ok ss => .ok (s :: ss)
    | r, rs => .error (issuesOf r ++ issuesOf rs)

/-- A value that has to be a list of texts. -/
def textsOf (path : List String) : JsonValue → Except (List Issue) (List Text.Points)
  | .list js => textsFrom path 0 js
  | j => .error [⟨path, .notList, j⟩]

/-- A value that can be null instead of a text. -/
def optionalTextOf (path : List String) :
    JsonValue → Except (List Issue) (Option Text.Points)
  | .null => .ok none
  | j => (textOf path j).map some

/-- The value of a key, or the usual one if the key is left out. -/
def keyOf {α : Type} (members : JsonValue.Members) (key : String) (usual : α)
    (read : List String → JsonValue → Except (List Issue) α) : Except (List Issue) α :=
  match members.get? (Text.Points.ofString key) with
  | none => .ok usual
  | some j => read [key] j

/-- Whether a key is known. -/
def isKnown (key : Text.Points) : Bool :=
  knownKeys.any fun k => Text.Points.ofString k == key

/-- The issues of unknown keys. -/
def unknownIssues (members : JsonValue.Members) : List Issue :=
  (members.filter fun m => !isKnown m.1).map fun m => ⟨[m.1.string], .unknownKey, m.2⟩

/-- The first key that is no text, as an issue. -/
def badKey? (members : JsonValue.Members) : Option Issue :=
  (members.find? (·.1.hasSurrogate)).map fun m => ⟨[], .badKey, .text m.1⟩

/-- The configuration that an object holds, or all issues with it. -/
def ofMembers (members : JsonValue.Members) : Except (List Issue) Config :=
  let references := keyOf members referencesKey default.defaultReferences textsOf
  let tempDir := keyOf members tempDirKey default.tempDir optionalTextOf
  let encoding := keyOf members encodingKey default.encoding textOf
  match badKey? members, references, tempDir, encoding, unknownIssues members with
  | some i, _, _, _, _ => .error [i]
  | none, .ok r, .ok t, .ok e, [] => .ok ⟨r, t, e⟩
  | none, r, t, e, unknown => .error (issuesOf r ++ issuesOf t ++ issuesOf e ++ unknown)

end BraceScript.Config
