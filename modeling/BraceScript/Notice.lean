import BraceScript.Text.Quoted

/-!
# Notices

What a run tells a user who asked for it: one line for each step that it takes.
-/

namespace BraceScript

/-- A step worth telling. -/
inductive Notice
  | started (script : String) (arguments : List String)
  | configuration (path : String)
  | defaultConfiguration
  | scanning (path : String)
  | scanned (path : String) (includes imports : Nat)
  | copied (path copy : String) (offset includes imports : Nat)
  | removedCopy (copy path : String)
  | including (path target : String)
  | resolved (units passes : Nat)
  | compilingAll (files : Nat) (references : List String)
  | compiling (path : String)
  | bound (reference name : String)
  | failed (errors : Nat)
  | loaded (types : Nat)
  | candidates (names : List String)
  | invoking (name : String) (arguments : Nat)
  deriving DecidableEq, Repr

/-- How many includes and imports a file has, in words. -/
def countsText (includes imports : Nat) : String :=
  toString includes ++ " include(s), " ++ toString imports ++ " import(s)"

/-- The wording of a notice. -/
def Notice.text : Notice → String
  | .started s as => "Script " ++ s ++ ", args " ++ Text.quotedList as
  | .configuration p => "Loading configuration from " ++ p
  | .defaultConfiguration => "No configuration file found, using defaults"
  | .scanning p => "Scanning " ++ p
  | .scanned p i m => p ++ ": " ++ countsText i m
  | .copied p c o i m =>
    p ++ ": rewritten to " ++ c ++ " (line offset " ++ toString o ++ "), " ++ countsText i m
  | .removedCopy c p => "Removed temporary file " ++ c ++ " for " ++ p
  | .including p t => p ++ " includes " ++ t
  | .resolved u p =>
    "Resolved " ++ toString u ++ " source unit(s) in " ++ toString p ++ " pass(es)"
  | .compilingAll n rs =>
    "Compiling " ++ toString n ++ " file(s) with references " ++ Text.quotedList rs
  | .compiling p => "Compiling " ++ p
  | .bound r n => "Bound library " ++ r ++ " as '" ++ n ++ "'"
  | .failed n => "Compilation failed with " ++ toString n ++ " error(s)"
  | .loaded n => "Loaded " ++ toString n ++ " type(s)"
  | .candidates ns => "Entry point candidates: " ++ Text.quotedList ns
  | .invoking n c => "Invoking " ++ n ++ " with " ++ toString c ++ " argument(s)"

/-- The line that shows a notice. -/
def Notice.line (n : Notice) : String := "\x1b[94mDEBUG:\x1b[0m " ++ n.text ++ "\n"

end BraceScript
