import BraceScript.Config.Load
import BraceScript.Entry
import BraceScript.Eval.Report

/-!
# Runs

A run reads the command line and the configuration, compiles the script with everything that it
includes, loads the program, and calls its entry procedure. Each stage starts only if the one
before it had nothing to report. A `Report` says what was written and how the run ended.
-/

namespace BraceScript

open Eval (Store Stop Value)
open Text (Points)

/-- How a run ends. -/
inductive Ending
  /-- With an exit code of its own. -/
  | code (n : Nat)
  /-- The program asked to end, with a status. -/
  | exit (status : Value)
  /-- The program raised an exception that is no ordinary one. -/
  | escaped (exception : Value)
  /-- The program needs more fuel than it has. -/
  | outOfFuel

/-- What a run wrote, how it ended, and the state of the program at the end. -/
structure Report where
  ending : Ending
  output : Points
  errors : Points
  store : Store

namespace Run

/-! ## Running a program -/

/-- The line of a notice, if notices are asked for. -/
def noticeText (verbose : Bool) (n : Notice) : String := if verbose then n.line else ""

/-- Lines of text, each with a line break at its end. -/
def linesText (lines : List String) : String := String.join (lines.map (· ++ "\n"))

/-- Loads a program and calls its entry procedure; gives the exit code. -/
def runProgram (verbose : Bool) (p : Program) (entry : Option EntrySpec)
    (arguments : List String) : Eval Nat := do
  let types ← Eval.load p
  Eval.writeError (noticeText verbose (.loaded types.length))
  let found := Entry.candidates (← get) types entry
  Eval.writeError (noticeText verbose (.candidates (found.map (·.name))))
  match Entry.only? found with
  | none =>
    Eval.writeError (linesText [Entry.notFound])
    return 1
  | some c =>
    Eval.writeError (noticeText verbose (.invoking c.name arguments.length))
    let _ ← Entry.invoke c arguments
    return 0

/-- The line in front of the report of an exception; it stands for the calls that led to it. -/
def traceLine : String := "<traceback>"

/-- The status that a program asked to end with. -/
def statusOf (s : Store) (e : Value) : Value := (s.attribute? e "code").getD .null

/-- Ends a program that raised an exception: ordinary ones are reported. -/
def settle (e : Value) : Eval Ending := do
  let s ← get
  if s.isOneOf e ["Exception"] then
    let lines ← Eval.running (Eval.report e)
    Eval.writeStream "stderr" ((linesText [traceLine] : Points) ++ lines)
    return .code 1
  else if s.isOneOf e ["SystemExit"] then return .exit (statusOf s e)
  else return .escaped e

/-- Runs a program to its end. -/
def endingOf (a : Eval Nat) : Eval Ending :=
  Eval.settle a fun
    | .ok n => pure (.code n)
    | .error .outOfFuel => pure .outOfFuel
    | .error (.raised e) => Eval.settle (settle e) fun
      | .ok ending => pure ending
      | .error .outOfFuel => pure .outOfFuel
      | .error (.raised e) => pure (.escaped e)

/-- Runs a compiled program. -/
def execute (verbose : Bool) (p : Program) (entry : Option EntrySpec)
    (arguments : List String) (input : String) : Report :=
  let (r, s) := (endingOf (runProgram verbose p entry arguments)).run (Eval.prelude input)
  let ending := match r with
    | .ok e => e
    | .error _ => .outOfFuel
  ⟨ending, ⟨s.output.toList⟩, ⟨s.errors.toList⟩, s⟩

/-! ## Whole runs -/

/-- The report of a run that ends before there is a program. -/
def early (code : Nat) (output errors : List String) : Report :=
  ⟨.code code, linesText output, linesText errors, Eval.prelude ""⟩

/-- Compiles and runs a script. -/
def runScript (script : String) (entry : Option EntrySpec) (arguments : List String)
    (verbose : Bool) (config : Option String) (input : String) : Act Report := do
  tell (.started script arguments)
  match ← Config.load config with
  | .error e => return early 1 [] [e.message]
  | .ok c =>
    match ← Program.compileProgram c script with
    | .error lines => return early 1 [] lines
    | .ok p => return execute verbose p entry arguments input

end Run

/-- Runs a command line. The notices of the stages before the program come first. -/
def run (argv : List String) (input : String) : Act Report := do
  match parseCommandLine argv with
  | .error e => return Run.early 1 [usage] [e.message]
  | .ok .help => return Run.early 0 [usage] []
  | .ok (.run script entry arguments verbose config) =>
    let report ← Run.runScript script entry arguments verbose config input
    let told := (← get).notices.reverse.map (Run.noticeText verbose)
    return { report with errors := (String.join told : Points) ++ report.errors }

end BraceScript
