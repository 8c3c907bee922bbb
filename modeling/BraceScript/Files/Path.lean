/-!
# Paths

A path is a text whose parts are separated by slashes. The functions here only look at the text;
what a path leads to is the business of `Files.Tree`. `normal` removes what is superfluous in a
path, and `absolute` completes a path by the working directory first: the result is what a source
file is known by.
-/

namespace BraceScript.Files

/-- The pieces of a text between its slashes; never empty. -/
def pieces : List Char → List (List Char)
  | [] => [[]]
  | c :: cs =>
    if c = '/' then [] :: pieces cs
    else match pieces cs with
      | [] => [[c]]
      | p :: ps => (c :: p) :: ps

/-- The pieces of a path as texts. -/
def split (path : String) : List String := (pieces path.toList).map String.ofList

/-- Whether a path starts at the root. -/
def isAbsolute (path : String) : Bool := path.toList.head? == some '/'

/-- A path seen from a directory. -/
def join (dir path : String) : String :=
  if isAbsolute path || dir.isEmpty then path
  else if dir.toList.getLast? == some '/' then dir ++ path
  else dir ++ "/" ++ path

/-- A path up to its last slash, and what follows. -/
def splitLast (path : String) : String × String :=
  let cs := path.toList.reverse
  (String.ofList (cs.dropWhile (· != '/')).reverse, String.ofList (cs.takeWhile (· != '/')).reverse)

/-- The directory part of a path. -/
def dirname (path : String) : String :=
  let head := (splitLast path).1
  let trimmed := (head.toList.reverse.dropWhile (· == '/')).reverse
  if trimmed.isEmpty then head else String.ofList trimmed

/-- The last part of a path. -/
def basename (path : String) : String := (splitLast path).2

/-- The last part of a path without its extension, and the extension with its point. Points in
front of a name begin no extension. -/
def splitExtension (name : String) : String × String :=
  let cs := (basename name).toList.reverse
  let tail := cs.takeWhile (· != '.')
  match cs.dropWhile (· != '.') with
  | [] => (basename name, "")
  | point :: before =>
    if before.all (· == '.') then (basename name, "")
    else (String.ofList before.reverse, String.ofList (point :: tail.reverse))

/-- The parts of a normal path, the last one first: a part that leads back removes the part
before it, if there is one to remove. -/
def normalParts (rooted : Bool) (done : List String) : List String → List String
  | [] => done
  | p :: ps =>
    if p = "" || p = "." then normalParts rooted done ps
    else if p = ".." then
      match done with
      | [] => normalParts rooted (if rooted then [] else [".."]) ps
      | d :: ds => normalParts rooted (if d = ".." then ".." :: d :: ds else ds) ps
    else normalParts rooted (p :: done) ps

/-- The slashes in front of a normal path: exactly two are kept. -/
def rootSlashes (path : String) : String :=
  match path.toList with
  | '/' :: '/' :: '/' :: _ => "/"
  | '/' :: '/' :: _ => "//"
  | '/' :: _ => "/"
  | _ => ""

/-- A path without superfluous parts. -/
def normal (path : String) : String :=
  let root := rootSlashes path
  let text := root ++ "/".intercalate (normalParts (!root.isEmpty) [] (split path)).reverse
  if text.isEmpty then "." else text

/-- A path made absolute and normal. -/
def absolute (cwd path : String) : String := normal (join cwd path)

end BraceScript.Files
