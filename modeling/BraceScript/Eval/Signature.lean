import BraceScript.Eval.Store

/-!
# Signatures

A signature says what arguments a function takes. `Signature.bind` pairs the arguments of a call
with the parameters, or says what is wrong with their number.
-/

namespace BraceScript.Eval

/-- How many arguments a function takes, next to its parameters. -/
inductive Arity
  /-- One for each parameter, but those with a value of their own can be left out. -/
  | fixed
  /-- Any number more than that. -/
  | open
  deriving DecidableEq, Repr

/-- A function as its callers see it. -/
structure Signature where
  name : String
  /-- The parameters, with their values when they are left out. -/
  params : List (String × Option Value)
  arity : Arity

namespace Signature

/-- The parameters that cannot be left out. -/
def required (g : Signature) : List (String × Option Value) := g.params.filter (·.2.isNone)

/-- The values of parameters behind the arguments that were given, and the names of those that
have none. -/
def complete : List (String × Option Value) → List Value → List Value × List String
  | [], _ => ([], [])
  | _ :: ps, v :: vs =>
    let r := complete ps vs
    (v :: r.1, r.2)
  | (_, some d) :: ps, [] =>
    let r := complete ps []
    (d :: r.1, r.2)
  | (x, none) :: ps, [] =>
    let r := complete ps []
    (r.1, x :: r.2)

/-- What a function is called with: the values of its parameters, and further arguments. -/
def bind (g : Signature) (args : List Value) : Except Fault (List Value × List Value) :=
  let most := g.params.length
  let given := args.length
  if g.arity = .fixed && most < given then
    .error (.tooManyArguments g.name g.required.length most given)
  else
    match complete g.params args with
    | (vs, []) => .ok (vs, args.drop most)
    | (_, missing) => .error (.missingArguments g.name missing)

end Signature

namespace Native

/-- Required parameters. -/
def required (names : List String) : List (String × Option Value) := names.map (·, none)

/-- The signature of a native function. Built-in functions count their arguments themselves. -/
def signature : Native → Signature
  | .text => ⟨"_cs_str", required ["value"], .fixed⟩
  | .add => ⟨"_cs_add", required ["left", "right"], .fixed⟩
  | .divide => ⟨"_cs_div", required ["left", "right"], .fixed⟩
  | .remainder => ⟨"_cs_mod", required ["left", "right"], .fixed⟩
  | .isInteger => ⟨"_is_integer", required ["value"], .fixed⟩
  | .format => ⟨"_cs_format", required ["template", "args"], .fixed⟩
  | .replacement => ⟨"_cs_format.<locals>.replace", required ["args", "match"], .fixed⟩
  | .writerInit => ⟨"_ConsoleWriter.__init__", required ["self", "stream_name"], .fixed⟩
  | .writerStream => ⟨"_ConsoleWriter._stream", required ["self"], .fixed⟩
  | .writerWrite => ⟨"_ConsoleWriter.Write", [("self", none), ("value", some "")], .open⟩
  | .writerWriteLine => ⟨"_ConsoleWriter.WriteLine", [("self", none), ("value", some "")], .open⟩
  | .writerFlush => ⟨"_ConsoleWriter.Flush", required ["self"], .fixed⟩
  | .consoleWrite => ⟨"Console.Write", [("value", some "")], .open⟩
  | .consoleWriteLine => ⟨"Console.WriteLine", [("value", some "")], .open⟩
  | .consoleReadLine => ⟨"Console.ReadLine", [], .fixed⟩
  | .toInt32 => ⟨"Convert.ToInt32", required ["value"], .fixed⟩
  | .toDouble => ⟨"Convert.ToDouble", required ["value"], .fixed⟩
  | .toBoolean => ⟨"Convert.ToBoolean", required ["value"], .fixed⟩
  | .toText => ⟨"Convert.ToString", required ["value"], .fixed⟩
  | .abs => ⟨"Math.Abs", required ["value"], .fixed⟩
  | .max => ⟨"Math.Max", required ["left", "right"], .fixed⟩
  | .min => ⟨"Math.Min", required ["left", "right"], .fixed⟩
  | .sqrt => ⟨"Math.Sqrt", required ["value"], .fixed⟩
  | .pow => ⟨"Math.Pow", required ["base", "exponent"], .fixed⟩
  | .floor => ⟨"Math.Floor", required ["value"], .fixed⟩
  | .ceiling => ⟨"Math.Ceiling", required ["value"], .fixed⟩
  | .round => ⟨"Math.Round", [("value", none), ("digits", some (.int 0))], .fixed⟩
  | .join => ⟨"String.Join", required ["separator", "values"], .fixed⟩
  | .formatText => ⟨"String.Format", required ["template"], .open⟩
  | .isNullOrEmpty => ⟨"String.IsNullOrEmpty", required ["value"], .fixed⟩
  | .concat => ⟨"String.Concat", [], .open⟩
  | .baseName => ⟨"basename", required ["p"], .fixed⟩
  | .initOf c => ⟨c.name ++ ".__init__", required ["self"], .open⟩
  | .length => ⟨"len", [], .open⟩
  | .isInstance => ⟨"isinstance", [], .open⟩
  | .getAttribute => ⟨"getattr", [], .open⟩
  | .absolute => ⟨"abs", [], .open⟩
  | .greatest => ⟨"max", [], .open⟩
  | .least => ⟨"min", [], .open⟩
  | .rounded => ⟨"round", [], .open⟩
  | .wholeFloor => ⟨"floor", [], .open⟩
  | .wholeCeiling => ⟨"ceil", [], .open⟩
  | .squareRoot => ⟨"sqrt", [], .open⟩
  | .powerOf => ⟨"pow", [], .open⟩
  | .floatRemainder => ⟨"fmod", [], .open⟩
  | .substitute => ⟨"sub", required ["pattern", "repl", "string"], .open⟩
  | .exit => ⟨"exit", [], .open⟩
  | .isWhole => ⟨"is_integer", [], .open⟩
  | .strip => ⟨"strip", [], .open⟩
  | .stripEnd => ⟨"rstrip", [], .open⟩
  | .lower => ⟨"lower", [], .open⟩
  | .joinItems => ⟨"join", [], .open⟩
  | .writeText => ⟨"write", [], .open⟩
  | .readLine => ⟨"readline", [], .open⟩
  | .flush => ⟨"flush", [], .open⟩
  | .builtin n => ⟨n, [], .open⟩

end Native

end BraceScript.Eval
