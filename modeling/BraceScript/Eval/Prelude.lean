import BraceScript.Eval.Builtin
import BraceScript.Eval.Scope
import BraceScript.Program.Library

/-!
# What programs start with

Before any class of a program is loaded its names are bound to the ready-made classes, helpers and
modules, and then to its libraries.
-/

namespace BraceScript.Eval

open Program (Library Libraries Constant)

/-! ## Ready-made classes -/

/-- A class whose members are static functions and constants. -/
def staticClass (name : String) (functions : List (String × Native)) (constants : Variables) :
    ClassInfo :=
  ⟨name, .core .object,
    constants ++ functions.map fun f => (f.1, .staticMethod (.native f.2)), true⟩

/-- The class of the writers behind the console. -/
def writerClass : ClassInfo :=
  ⟨"_ConsoleWriter", .core .object, [
    ("__init__", .native .writerInit), ("_stream", .native .writerStream),
    ("Write", .native .writerWrite), ("WriteLine", .native .writerWriteLine),
    ("Flush", .native .writerFlush)], true⟩

/-- The ready-made classes. The class of writers comes first, and a writer for each kind of output
is the first and second object. -/
def preludeClasses : List ClassInfo := [
  writerClass,
  staticClass "Console" [("Write", .consoleWrite), ("WriteLine", .consoleWriteLine),
    ("ReadLine", .consoleReadLine)] [("Out", .object 0), ("Error", .object 1)],
  staticClass "Convert" [("ToInt32", .toInt32), ("ToDouble", .toDouble),
    ("ToBoolean", .toBoolean), ("ToString", .toText)] [],
  staticClass "Math" [("Abs", .abs), ("Max", .max), ("Min", .min), ("Sqrt", .sqrt), ("Pow", .pow),
    ("Floor", .floor), ("Ceiling", .ceiling), ("Round", .round)]
    [("PI", .float 3.141592653589793 0), ("E", .float 2.718281828459045 0)],
  staticClass "String" [("Join", .join), ("Format", .formatText),
    ("IsNullOrEmpty", .isNullOrEmpty), ("Concat", .concat)] [("Empty", "")]]

/-- The writers for the output and for the error output. -/
def preludeWriters : List Instance :=
  ["stdout", "stderr"].map fun (name : String) => ⟨.loaded 0, [("_stream_name", .text name)], [], [], none⟩

/-! ## Modules -/

/-- Where the modules come from that are part of every program. -/
def builtInSource : String := " (built-in)"

/-- The mark of the first double that is no number. -/
def preludeMark : Nat := 1

/-- The modules that programs can know, in the order of `sharedModules`. -/
def preludeModules : List Module := [
  ⟨"math", builtInSource, [("floor", .native .wholeFloor), ("sqrt", .native .squareRoot),
    ("ceil", .native .wholeCeiling), ("pow", .native .powerOf), ("fmod", .native .floatRemainder),
    ("pi", .float 3.141592653589793 0), ("e", .float 2.718281828459045 0),
    ("tau", .float 6.283185307179586 0), ("inf", .float (1.0 / 0.0) 0),
    ("nan", .float (0.0 / 0.0) preludeMark)]⟩,
  ⟨"os", " (frozen)", [("path", .module (sharedPlace "os.path"))]⟩,
  ⟨"posixpath", " (frozen)", [("basename", .native .baseName)]⟩,
  ⟨"json", "", []⟩, ⟨"string", "", []⟩, ⟨"re", "", [("sub", .native .substitute)]⟩,
  ⟨"sys", builtInSource, [("exit", .native .exit), ("stdin", .stream "stdin"),
    ("stdout", .stream "stdout"), ("stderr", .stream "stderr"), ("argv", .list 0),
    ("path", .list 1), ("maxsize", .int (indexBound - 1)), ("platform", "linux"),
    ("byteorder", "little")]⟩,
  ⟨"builtins", builtInSource, []⟩]

/-- The module that is shared under a name. -/
def sharedModule (name : String) : Value := .module (sharedPlace name)

/-! ## Names -/

/-- The ready-made classes by name. -/
def preludeClassNames : Variables :=
  preludeClasses.mapIdx fun i c => (c.name, .cls (.loaded i))

/-- The names that every program starts with. -/
def preludeNames : Variables := [
  ("__name__", .text programName), ("__builtins__", sharedModule "builtins"),
  ("sys", sharedModule "sys"), ("_math", sharedModule "math"), ("_re", sharedModule "re"),
  ("Any", .core .any), ("List", .listHint), ("_cs_str", .native .text), ("_cs_add", .native .add),
  ("_is_integer", .native .isInteger), ("_cs_div", .native .divide),
  ("_cs_mod", .native .remainder), ("_cs_format", .native .format)] ++ preludeClassNames

/-- The state in which programs start. -/
def prelude (input : String) : Store :=
  { Store.empty input with
    lists := #[#[], #[]]
    objects := preludeWriters.toArray
    classes := preludeClasses.toArray
    modules := preludeModules.toArray
    globals := preludeNames
    marks := preludeMark }

/-! ## Libraries -/

/-- The value of a constant of a library. -/
def constantValue : Constant → Value
  | .int n => .int n
  | .text t => .text t

/-- The name of the module that a library file becomes. -/
def libraryName (name : String) : String := "csrun_lib_" ++ name

/-- A library as a value. -/
def libraryValue : Library → Eval Value
  | .module name => pure (sharedModule name)
  | .file name path constants =>
    newModule ⟨libraryName name, " from " ++ Text.quoted path,
      Bindings.putAll [] (constants.map fun c => (c.1, constantValue c.2))⟩

/-- Binds the libraries of a program. -/
def bindLibraries (ls : Libraries) : Eval Unit :=
  ls.forM fun (name, l) => do bindGlobal name (← libraryValue l)

end BraceScript.Eval
