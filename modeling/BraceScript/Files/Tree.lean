import BraceScript.Files.Path

/-!
# Trees of files

A tree knows some files and directories by their place, which is the list of names from the root
down. `Tree.find` follows a path through the tree as a file system does: every part but the last
has to be a directory, a point stays where it is, and two points go up.
-/

namespace BraceScript.Files

/-- The bytes of a file. -/
abbrev Bytes := List UInt8

/-- What is at a place. -/
inductive Node
  | directory
  | file (content : Bytes)
  deriving Repr

/-- The names from the root to a place, the last one first. -/
abbrev Place := List String

/-- Files and directories with their places. -/
structure Tree where
  nodes : List (Place × Node)
  deriving Repr

/-- What a path leads to. -/
inductive Found
  | directory
  | file (content : Bytes)
  | missing
  /-- The path goes on behind a file. -/
  | notDirectory
  /-- A part of the path is too long to be a name. -/
  | tooLong
  /-- The path holds a character that no path can hold. -/
  | invalid
  deriving Repr

namespace Tree

/-- What is at a place. The root is always there. -/
def at? (t : Tree) (p : Place) : Option Node :=
  if p.isEmpty then some .directory else t.nodes.lookup p

/-- The longest name that a file can have, in bytes. -/
def nameLimit : Nat := 255

/-- Goes on from a place along parts of a path. -/
def walk (t : Tree) (p : Place) : List String → Except Found Place
  | [] => .ok p
  | part :: parts =>
    match t.at? p with
    | none => .error .missing
    | some (.file _) => .error .notDirectory
    | some .directory =>
      if part = "" || part = "." then t.walk p parts
      else if part = ".." then t.walk p.tail parts
      else if nameLimit < part.utf8ByteSize then .error .tooLong
      else t.walk (part :: p) parts

/-- The place of a path that is seen from a directory. -/
def placeOf (t : Tree) (cwd path : String) : Except Found Place :=
  if path.isEmpty then .error .missing
  else if path.toList.contains '\x00' then .error .invalid
  else t.walk [] (split (join cwd path))

/-- What a path leads to. -/
def find (t : Tree) (cwd path : String) : Found :=
  match t.placeOf cwd path with
  | .error f => f
  | .ok p =>
    match t.at? p with
    | none => .missing
    | some .directory => .directory
    | some (.file content) => .file content

/-- Whether a path leads to a file. -/
def isFile (t : Tree) (cwd path : String) : Bool :=
  match t.find cwd path with
  | .file _ => true
  | _ => false

/-- Whether a path leads to a directory. -/
def isDirectory (t : Tree) (cwd path : String) : Bool :=
  match t.find cwd path with
  | .directory => true
  | _ => false

/-- The tree with a node at a place, instead of what was there. -/
def put (t : Tree) (p : Place) (n : Node) : Tree :=
  ⟨(p, n) :: t.nodes.filter (·.1 != p)⟩

/-- The tree with a directory at a place and at every place above. -/
def putDirectories (t : Tree) : Place → Tree
  | [] => t
  | name :: p => (t.putDirectories p).put (name :: p) .directory

/-- The tree with a file, and directories above it. -/
def putFile (t : Tree) (p : Place) (content : Bytes) : Tree :=
  (t.putDirectories p.tail).put p (.file content)

/-- The tree without a place. -/
def remove (t : Tree) (p : Place) : Tree := ⟨t.nodes.filter (·.1 != p)⟩

/-- The tree without what a path leads to. -/
def removeFile (t : Tree) (cwd path : String) : Tree :=
  match t.placeOf cwd path with
  | .ok p => t.remove p
  | .error _ => t

end Tree

end BraceScript.Files
