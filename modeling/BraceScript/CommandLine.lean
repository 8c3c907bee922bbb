import BraceScript.Text.Digit
import BraceScript.Text.Quoted

/-!
# The command line

Options come first and begin with a dash; the first argument without a dash is the script, and
everything behind it belongs to the script. `parseCommandLine` reads a whole command line.

An option may be shortened as long as no other option begins the same way. A value is attached
with an equals sign; an option that lacks it takes the argument behind it only when that argument
cannot be an option: a lone dash, a negative number, or something with a space in it.
-/

namespace BraceScript

/-! ## Entry points -/

/-- An entry procedure named by the user. -/
structure EntrySpec where
  type : String
  method : String
  deriving DecidableEq, Repr

/-- Splits a text at its last point; both sides must not be empty. -/
def EntrySpec.parse? (text : String) : Option EntrySpec :=
  let cs := text.toList.reverse
  match cs.dropWhile (· != '.') with
  | [] => none
  | _ :: type =>
    let method := cs.takeWhile (· != '.')
    if type.isEmpty || method.isEmpty then none
    else some ⟨String.ofList type.reverse, String.ofList method.reverse⟩

/-- The name of an entry procedure. -/
def EntrySpec.name (e : EntrySpec) : String := e.type ++ "." ++ e.method

/-! ## Options -/

/-- An option of the command line. -/
inductive Switch
  | help
  | entry
  | verbose
  | config
  deriving DecidableEq, Repr

/-- Every spelling of an option. -/
def switches : List (String × Switch) := [
  ("-h", .help), ("-help", .help), ("-entry", .entry), ("-verbose", .verbose), ("-config", .config)]

/-- How an option is shown. -/
def Switch.shown : Switch → String
  | .help => "-h/-help"
  | .entry => "-entry"
  | .verbose => "-verbose"
  | .config => "-config"

/-- Whether an option takes a value. -/
def Switch.takesValue : Switch → Bool
  | .entry | .config => true
  | .help | .verbose => false

/-- Why a command line is refused. -/
inductive UsageError
  | ambiguous (argument : String) (candidates : List String)
  | missingValue (switch : Switch)
  | ignoredValue (switch : Switch) (value : String)
  | unrecognized (arguments : List String)
  | invalidEntry
  | noScript
  deriving DecidableEq, Repr

/-- The wording of a refusal. -/
def UsageError.message : UsageError → String
  | .ambiguous a cs => "ambiguous option: " ++ a ++ " could match " ++ ", ".intercalate cs
  | .missingValue s => "argument " ++ s.shown ++ ": expected one argument"
  | .ignoredValue s v =>
    "argument " ++ s.shown ++ ": ignored explicit argument " ++ Text.quoted v
  | .unrecognized as => "unrecognized arguments: " ++ " ".intercalate as
  | .invalidEntry => "Invalid entry point"
  | .noScript => "No script file given"

/-- What an argument among the options is. -/
inductive Argument
  /-- A known option, with the text attached to it. -/
  | switch (s : Switch) (attached : Option String)
  /-- An unknown option. -/
  | unknown
  /-- No option: it can be the value of one. -/
  | plain
  deriving DecidableEq, Repr

/-- Whether a text is a negative number. -/
def isNegativeNumber (arg : String) : Bool :=
  match arg.toList with
  | '-' :: cs =>
    let cs := if cs.getLast? == some '\n' then cs.dropLast else cs
    match cs.dropWhile Text.isDigit with
    | [] => !cs.isEmpty
    | '.' :: ds => !ds.isEmpty && ds.all Text.isDigit
    | _ => false
  | _ => false

/-- The options that an argument may shorten, or that it attaches a text to by its first letter:
each with its spelling and the attached text. -/
def shortened (arg : String) : List (String × Switch × Option String) :=
  switches.filterMap fun (spelling, s) =>
    if spelling.toList = arg.toList.take 2 then
      some (spelling, s, some (String.ofList (arg.toList.drop 2)))
    else if arg.toList.isPrefixOf spelling.toList then some (spelling, s, none)
    else none

/-- An argument cut at its first equals sign. -/
def cutAtEquals (arg : String) : String × Option String :=
  match arg.toList.dropWhile (· != '=') with
  | [] => (arg, none)
  | _ :: value => (String.ofList (arg.toList.takeWhile (· != '=')), some (String.ofList value))

/-- What an argument is that names no option in full. -/
def leftover (arg : String) : Argument :=
  if isNegativeNumber arg || arg.toList.contains ' ' then .plain else .unknown

/-- What an argument that begins with a dash is. -/
def classify (arg : String) : Except UsageError Argument :=
  match switches.lookup arg, cutAtEquals arg with
  | some s, _ => .ok (.switch s none)
  | none, (name, value) =>
    match arg.toList, switches.lookup name, value with
    | [_], _, _ => .ok .plain
    | _, some s, some v => .ok (.switch s (some v))
    | '-' :: '-' :: _, _, _ => .ok (leftover arg)
    | _, _, _ =>
      match shortened arg with
      | [] => .ok (leftover arg)
      | [(_, s, attached)] => .ok (.switch s attached)
      | candidates => .error (.ambiguous arg (candidates.map (·.1)))

/-- The arguments among the options with what they are. Behind a double dash there are no options;
the double dash itself is none either, and no value. -/
def classifyAll : List String → Except UsageError (List (String × Argument))
  | [] => .ok []
  | a :: as =>
    if a = "--" then .ok ((a, .unknown) :: as.map (·, .plain))
    else do
      let k ← classify a
      let ks ← classifyAll as
      return (a, k) :: ks

/-- What the options say. -/
structure Options where
  help : Bool
  entry : Option String
  verbose : Bool
  config : Option String
  deriving DecidableEq, Repr

/-- The options before any argument is read. -/
def Options.initial : Options := ⟨false, none, false, none⟩

/-- Sets an option that takes no value. -/
def Options.raise (o : Options) : Switch → Options
  | .help => { o with help := true }
  | .verbose => { o with verbose := true }
  | _ => o

/-- Sets an option to a value. -/
def Options.set (o : Options) (value : String) : Switch → Options
  | .entry => { o with entry := some value }
  | .config => { o with config := some value }
  | _ => o

/-- Reads a text attached to an option without value: it can only be the letters of options that
have one-letter spellings. -/
def Options.raiseAttached (o : Options) (s : Switch) : List Char → Except UsageError Options
  | [] => .error (.ignoredValue s "")
  | [c] =>
    match switches.lookup (String.ofList ['-', c]) with
    | some s' => .ok ((o.raise s).raise s')
    | none => .error (.ignoredValue s (String.ofList [c]))
  | c :: cs =>
    match switches.lookup (String.ofList ['-', c]) with
    | some s' => (o.raise s).raiseAttached s' cs
    | none => .error (.ignoredValue s (String.ofList (c :: cs)))

/-- Reads classified arguments; gives the options and the arguments left over. -/
def readOptions (o : Options) : List (String × Argument) → Except UsageError (Options × List String)
  | [] => .ok (o, [])
  | (_, .switch s none) :: as =>
    if s.takesValue then
      match as with
      | (v, .plain) :: as => readOptions (o.set v s) as
      | _ => .error (.missingValue s)
    else readOptions (o.raise s) as
  | (_, .switch s (some v)) :: as =>
    if s.takesValue then readOptions (o.set v s) as
    else do
      let o ← o.raiseAttached s v.toList
      readOptions o as
  | (a, _) :: as => do
    let (o, rest) ← readOptions o as
    return (o, a :: rest)

/-! ## Whole command lines -/

/-- A command line in its three parts: options, script, and arguments of the script. -/
def splitArguments : List String → List String × Option String × List String
  | [] => ([], none, [])
  | a :: as =>
    if a.toList.head? == some '-' then
      let r := splitArguments as
      (a :: r.1, r.2)
    else ([], some a, as)

/-- What a command line asks for. -/
inductive Command
  | help
  | run (script : String) (entry : Option EntrySpec) (arguments : List String) (verbose : Bool)
      (config : Option String)
  deriving DecidableEq, Repr

/-- The entry procedure that the options name. -/
def Options.entrySpec (o : Options) : Except UsageError (Option EntrySpec) :=
  match o.entry with
  | none => .ok none
  | some text =>
    match EntrySpec.parse? text with
    | some e => .ok (some e)
    | none => .error .invalidEntry

/-- Reads a command line. -/
def parseCommandLine (argv : List String) : Except UsageError Command := do
  let (options, script, arguments) := splitArguments argv
  let (o, rest) ← readOptions .initial (← classifyAll options)
  if !rest.isEmpty then throw (.unrecognized rest)
  if o.help then return .help
  let entry ← o.entrySpec
  match script with
  | none => throw .noScript
  | some script => return .run script entry arguments o.verbose o.config

/-- How the program is used. -/
def usage : String :=
  "Usage:\ncsrun -h\n\tdisplay help\ncsrun [options] <script file> <script args>\n"
    ++ "\t-entry\t\t-entry=<Type>.<Method>\n\t-config\t\t-config=<configuration file>\n"
    ++ "\t-verbose\tdebug output on stderr\n"
    ++ "Options go before the script file; unknown options are rejected."

end BraceScript
