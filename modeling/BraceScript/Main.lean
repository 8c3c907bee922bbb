import BraceScript.Run

/-!
# The program

The outer layer: it gives a run the files that it looks at, and prints its report. A run is a
function of the files, so it is repeated with more of them until it looks at no other.
-/

namespace BraceScript

open Files

/-- The paths of the directories that a path leads through. -/
def pathsAbove (path : String) : List String :=
  let parts := split path
  (List.range parts.length).map fun i => "/".intercalate (parts.take i)

/-- Adds what is at a path to a tree. -/
def snapshot (t : Tree) (path : String) : IO Tree := do
  if path.isEmpty || path.contains '\x00' then return t
  let place := normalParts true [] (split path)
  try
    let real ← IO.FS.realPath path
    if ← real.isDir then return t.putDirectories place
    else if ← real.pathExists then return t.putFile place (← IO.FS.readBinFile real).toList
    else return t
  catch _ => return t

/-- Adds what is at several paths, and the directories that they lead through. -/
def snapshots (cwd : String) (t : Tree) (paths : List String) : IO Tree := do
  let full := paths.map (join cwd)
  (full.flatMap pathsAbove ++ full).foldlM snapshot t

/-- Runs a command line with the files that it looks at. -/
partial def runWith (argv : List String) (input : String) (known : List String) (h : Host) :
    IO (Except Failure Report) := do
  let (r, after) := (run argv input).run h
  match after.asked.filter (!known.contains ·) with
  | [] => return r
  | more =>
    let tree ← snapshots h.cwd h.tree (known ++ more)
    runWith argv input (known ++ more) { h with tree := tree }

/-- The exit code for a status that a program ended with, and what to print before. -/
def statusCode (s : Eval.Store) : Eval.Value → UInt32 × String
  | .null => (0, "")
  | v =>
    match (s.bare v).int? with
    | some n => (UInt32.ofNat (n % 256).toNat, "")
    | none => (1, printed s (Eval.text v) ++ "\n")
where
  /-- The text that a computation gives in a state. -/
  printed (s : Eval.Store) (a : Eval.Calling Text.Points) : String :=
    match ((Eval.running a).run s).1 with
    | .ok t => t.string
    | .error _ => ""

/-- Prints a report and gives the exit code. -/
def print (r : Report) : IO UInt32 := do
  let (code, last) := match r.ending with
    | .code n => (UInt32.ofNat n, "")
    | .exit status => statusCode r.store status
    | .escaped e =>
      (1, Run.linesText [Run.traceLine] ++ statusCode.printed r.store (Eval.report e))
    | .outOfFuel => (1, "out of fuel\n")
  IO.print r.output.string
  IO.eprint (r.errors.string ++ last)
  return code

/-- Everything on the standard input. -/
partial def readAll (stream : IO.FS.Stream) (before : String) : IO String := do
  let line ← stream.getLine
  if line.isEmpty then return before else readAll stream (before ++ line)

end BraceScript

open BraceScript in
/-- Runs the command line of the process. -/
def main (argv : List String) : IO UInt32 := do
  let cwd := (← IO.currentDir).toString
  let home := (← IO.getEnv "HOME").getD "/"
  let temp := (← IO.getEnv "TMPDIR").getD "/tmp"
  let input ← readAll (← IO.getStdin) ""
  let tree ← snapshots cwd ⟨[]⟩ [".", temp]
  match ← runWith argv input [] ⟨tree, cwd, home, temp, [], 0, [], []⟩ with
  | .ok r => print r
  | .error f => do
    IO.eprint (Run.linesText [Run.traceLine, f.label ++ ": " ++ f.message])
    return 1
