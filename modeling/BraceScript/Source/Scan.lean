import BraceScript.Host
import BraceScript.Source.Unit
import BraceScript.Text.Lines

/-!
# Scanning source files

`scan` reads the leading section of a file, resolves its directives against the directory of the
file, and makes the temporary copy when the file has a metadata block. A scanned unit owns its
copy; `release` removes it.
-/

namespace BraceScript.Source

open Files

/-! ## Directive targets -/

/-- The directory that the targets in a file are relative to; a directory counts as its own. -/
def baseDir (path : String) : Act String := do
  if ← isDirectory path then return path else return dirname path

/-- The path of an included script, which need not exist. -/
def includeTarget (base target : String) : String := join base target

/-- The reference of an imported library: a file beside the script if there is one, else the
target as it stands. -/
def importTarget (base target : String) : Act String := do
  let path := join base target
  if ← isFile path then return path else return target

/-! ## Files -/

/-- How source files are read. -/
structure Settings where
  /-- The directory for temporary copies, if it is not that of the host. -/
  tempDir : Option String
  /-- The name of the encoding of source files. -/
  encoding : String

/-- The encoding of a name. -/
def encodingOf (name : String) : Act Text.Encoding :=
  match Text.Encoding.ofName? name with
  | some e => return e
  | none => throw (.unknownEncoding name)

/-- The lines of a file, which is read block by block. -/
def readLines (path : String) (enc : String) : Act (Text.Encoding × List (List Char)) := do
  match ← look path with
  | .file bytes =>
    tell (.scanning path)
    let e ← encodingOf enc
    match e.decodeInBlocks bytes with
    | .ok cs => return (e, Text.lines (Text.unifyBreaks cs))
    | .error err => throw (.undecodable err)
  | _ => throw (.missing path)

/-- The resolved targets of directives with one tag, in order. -/
def resolveTargets (base : String) : List Directive → Act (List String × List String)
  | [] => return ([], [])
  | d :: ds =>
    match d.tag with
    | .include => do
      let r ← resolveTargets base ds
      return (includeTarget base d.target :: r.1, r.2)
    | .import => do
      let t ← importTarget base d.target
      let r ← resolveTargets base ds
      return (r.1, t :: r.2)

/-- What is read at the front of a file. -/
structure Front where
  /-- The encoding of the file. -/
  encoding : Text.Encoding
  /-- Its leading section. -/
  leading : Leading
  /-- The scripts that it includes. -/
  includes : List String
  /-- The libraries that it imports. -/
  imports : List String

/-- Reads the front of a file. -/
def readFront (settings : Settings) (path : String) : Act Front := do
  let base ← baseDir path
  let (enc, lines) ← readLines path settings.encoding
  match Leading.read lines with
  | .error e => throw (.scan ⟨path, e⟩)
  | .ok s =>
    let (includes, imports) ← resolveTargets base s.directives
    return ⟨enc, s, includes, imports⟩

/-- Scans a file. -/
def scan (settings : Settings) (path : String) : Act SourceUnit := do
  let f ← readFront settings path
  if f.leading.hasBlock then
    let dir := settings.tempDir.getD (← get).tempDir
    let copy ← makeCopy dir (splitExtension path).2
      (f.encoding.encode (Text.unlines f.leading.body))
    tell (.copied path copy f.leading.offset f.includes.length f.imports.length)
    return ⟨path, copy, f.leading.offset, f.includes, f.imports⟩
  else
    tell (.scanned path f.includes.length f.imports.length)
    return ⟨path, path, 0, f.includes, f.imports⟩

/-- Removes the copy of a unit, if it has one that is still there. -/
def release (u : SourceUnit) : StateM Host Unit :=
  if u.isCopied then removeCopy u.compilePath u.sourcePath else pure ()

/-- Removes the copies of several units. -/
def releaseAll : List SourceUnit → StateM Host Unit
  | [] => pure ()
  | u :: us => do
    release u
    releaseAll us

end BraceScript.Source
