import BraceScript.Eval.Exec
import BraceScript.Eval.Prelude
import BraceScript.Program.Compile

/-!
# Loading programs

A class is loaded by defining its functions in order and then giving its static fields their
values. Its name is bound when that is done, so neither the hints of its functions nor the values
of its fields can mean the class itself.
-/

namespace BraceScript.Eval

open Code (privateName)
open Lowering (TypeDecl)

/-- Defines a function in the body of a class. -/
def defineFunction (frame : Frame) (owner : Nat) (f : Code.Function) : Eval Unit := do
  let own := frame.meant
  let marker ← if f.isStatic then some <$> valueOf frame "staticmethod" else pure none
  let params ← f.params.mapM fun p => do
    match p.hint with
    | none => return (own p.name, none)
    | some h => return (own p.name, some (← eval fuel frame h))
  let v ← newFunction {
    name := frame.className ++ "." ++ f.name
    className := frame.className
    owner := owner
    params := params
    ownNames := (f.params.map (·.name) ++ assignedAll f.body).map own
    body := f.body
    attrs := [] }
  assignName frame f.name (← match marker with
    | none => pure v
    | some m => apply fuel m [v])

/-- The class that a value stands for when another class derives from it. -/
def baseClass (s : Store) : Value → Except Fault ClassRef
  | .cls (.core c) => if c.isBase then .ok (.core c) else .error (.unusableBase c.name)
  | .cls c => .ok c
  | .listHint | .hint _ => .ok (.core .list)
  | .generic c _ => .ok c
  | .native f =>
    .error (if f.core = .function then .functionBase else .uncreatableBase f.core.name)
  | .function _ => .error .functionBase
  | .module _ => .error .moduleBase
  | .bool _ => .error .boolBase
  | .text _ => .error .textBase
  | .special "Ellipsis" _ => .error (.noArgumentsBase "EllipsisType")
  | .special _ "_Helper" => .error (.takesNoArguments "_Helper")
  | .special _ "NotImplementedType" => .error (.noArgumentsBase "NotImplementedType")
  | .special _ t => .error (.initArgumentsBase t)
  | v => .error (.noArgumentsBase (s.typeName v))

/-- The members of a class when its body is run. -/
def classMembers (owner : Nat) (c : Code.Class) : Eval Variables :=
  withLocals [] do
    let frame : Frame := ⟨c.name, [], none⟩
    c.functions.forM (defineFunction frame owner)
    c.fields.forM fun (x, e) => do assignName frame x (← eval fuel frame e)
    return (← get).locals

/-- Looks for what makes classes. It is one of the names in `__builtins__`, which a library or a class
can be called as well. -/
def findMaker : Eval Unit := do
  let s ← get
  match s.globals.get? "__builtins__" with
  | some (.module p) =>
    if p = builtinsPlace then return ()
    else match (s.module p).attrs.get? "__build_class__" with
      | none => fail .noClassMaker
      | some v => fail (.notCallable (s.typeName v))
  | some (.cls c) => fail (.classNotSubscriptable (s.className c))
  | _ => return ()

/-- Loads a class and binds its name. -/
def loadClass (c : Code.Class) : Eval Value := do
  findMaker
  let base ← match c.base with
    | none => pure (.core .object)
    | some b => globalValue b
  let place ← newClass ⟨c.name, .core .object, [], false⟩
  let members ← classMembers place c
  let base ← reading fun s => baseClass s base
  changeClass place fun _ => ⟨c.name, base, members, true⟩
  let v := Value.cls (.loaded place)
  bindGlobal c.name v
  return v

/-- Loads a program: its types by name, in order. -/
def load (p : Program) : Eval Variables := do
  bindLibraries p.libraries
  p.types.mapM fun d => do return (d.name, ← loadClass d.code)

end BraceScript.Eval
