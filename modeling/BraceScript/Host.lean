import BraceScript.Failure
import BraceScript.Files.Tree
import BraceScript.Notice

/-!
# The host of a run

A run reads files and directories, and makes temporary copies of source files, which it removes
again. `Host` holds both apart, together with the notices told so far and the paths that were
looked at. An `Act` is a step that may read and change the host or fail.
-/

namespace BraceScript

open Files

/-- What a run can see, and what it has done. -/
structure Host where
  /-- The files and directories that a run finds. -/
  tree : Tree
  /-- The working directory. -/
  cwd : String
  /-- The home directory of the user. -/
  home : String
  /-- The directory for temporary files. -/
  tempDir : String
  /-- The temporary copies that exist, by path. -/
  copies : List (String × Bytes)
  /-- How many names of copies were handed out. -/
  named : Nat
  /-- The steps told so far, in reverse. -/
  notices : List Notice
  /-- The paths that were looked at. -/
  asked : List String

/-- A step that may read and change the host, or fail. -/
abbrev Act := ExceptT Failure (StateM Host)

namespace Host

/-- The absolute form of a path, by which source files are known. -/
def absolute (h : Host) (path : String) : String := Files.absolute h.cwd path

/-- What a path leads to in the tree. -/
def find (h : Host) (path : String) : Found := h.tree.find h.cwd path

/-- What a path leads to when it may be that of a copy. -/
def findCompiled (h : Host) (path : String) : Found :=
  match h.copies.lookup path with
  | some content => .file content
  | none => h.find path

/-- The name of the copy with a number. -/
def copyName (n : Nat) : String :=
  let ds := toString n
  "csrun-" ++ String.ofList (List.replicate (8 - ds.length) '0') ++ ds

/-- The path of the copy with a number in a directory. -/
def copyPath (dir suffix : String) (n : Nat) : String := join dir (copyName n ++ suffix)

/-- The names that are in use: those of all files and directories, and those of the copies. -/
def takenNames (h : Host) : List String :=
  h.tree.nodes.map (·.1.headD "") ++ h.copies.map (basename ·.1)

/-- The first number, from the next one on, whose copy has a name that is not in use. -/
def freshNumber (h : Host) (suffix : String) : Nat :=
  (((List.range (h.takenNames.length + 1)).map (h.named + ·)).find? fun n =>
    !h.takenNames.contains (copyName n ++ suffix)).getD h.named

end Host

/-! ## Steps -/

/-- Tells a step. -/
def tell (n : Notice) : Act Unit := modify fun h => { h with notices := n :: h.notices }

/-- What a path leads to in the tree. -/
def look (path : String) : Act Found := do
  modify fun h => { h with asked := path :: h.asked }
  return (← get).find path

/-- What a path leads to when it may be that of a copy. -/
def lookCompiled (path : String) : Act Found := do
  modify fun h => { h with asked := path :: h.asked }
  return (← get).findCompiled path

/-- Whether a path leads to a file. -/
def isFile (path : String) : Act Bool := do
  match ← look path with
  | .file _ => return true
  | _ => return false

/-- Whether a path leads to a directory. -/
def isDirectory (path : String) : Act Bool := do
  match ← look path with
  | .directory => return true
  | _ => return false

/-- Why no copy can be made in a directory, by what its path leads to. The refusal names the first
path that a copy can have there. -/
def copyRefusal (dir suffix : String) : Found → Option Failure
  | .directory =>
    if Tree.nameLimit < (Host.copyName 0 ++ suffix).utf8ByteSize then
      some (.tooLong (Host.copyPath dir suffix 0))
    else none
  | .missing => some (.missing (Host.copyPath dir suffix 0))
  | .invalid => some .nullInPath
  | .tooLong => some (.tooLong (Host.copyPath dir suffix 0))
  | .file _ | .notDirectory => some (.notDirectory (Host.copyPath dir suffix 0))

/-- Makes a temporary copy in a directory and gives its path. -/
def makeCopy (dir suffix : String) (content : Bytes) : Act String := do
  let dir := (← get).absolute dir
  match copyRefusal dir suffix (← look dir) with
  | some e => throw e
  | none =>
    let h ← get
    let n := h.freshNumber suffix
    let path := Host.copyPath dir suffix n
    set { h with copies := h.copies ++ [(path, content)], named := n + 1 }
    return path

/-- Removes the file at the path of a copy, if there is one. -/
def removeCopy (path source : String) : StateM Host Unit :=
  modify fun h =>
    match h.findCompiled path with
    | .file _ =>
      { h with tree := h.tree.removeFile h.cwd path
               copies := h.copies.filter (·.1 != path)
               notices := .removedCopy path source :: h.notices }
    | _ => h

end BraceScript
