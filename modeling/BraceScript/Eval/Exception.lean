import BraceScript.Eval.Cursor

/-!
# Exceptions

Some core exceptions read their arguments: they keep them in attributes of their own, and may
refuse them. `newExceptionOf` makes an exception of a class and `initException` is the initialiser
of the core exceptions.
-/

namespace BraceScript.Eval

open Text (Points)

/-! ## Attributes -/

/-- The attributes that exceptions of a core class have of their own. -/
def ownFields : List (String × List String) := [
  ("SyntaxError", ["msg", "filename", "lineno", "offset", "text", "end_lineno", "end_offset",
    "print_file_and_line"]),
  ("OSError", ["errno", "strerror", "filename", "filename2"]),
  ("ImportError", ["msg", "name", "path"]),
  ("StopIteration", ["value"]),
  ("SystemExit", ["code"]),
  ("AttributeError", ["name", "obj"]),
  ("NameError", ["name"]),
  ("UnicodeDecodeError", ["encoding", "object", "start", "end", "reason"]),
  ("UnicodeEncodeError", ["encoding", "object", "start", "end", "reason"]),
  ("UnicodeTranslateError", ["encoding", "object", "start", "end", "reason"]),
  ("BaseExceptionGroup", ["message", "exceptions"])]

/-- Whether exceptions of a core class have an attribute of their own. -/
def Core.hasField (c : Core) (name : String) : Bool :=
  ownFields.any fun (cls, names) => c.isSubclass (.exception cls) && names.contains name

/-- The attributes that cannot be set. -/
def readOnlyFields : List String := ["message", "exceptions"]

/-- The attributes that can only be integers. -/
def placeFields : List String := ["start", "end"]

/-! ## Reading arguments -/

/-- The name of the class of a value, or of the value itself for null. -/
def Store.argumentType (s : Store) : Value → String
  | .null => "None"
  | v => s.typeName v

/-- Values by the names they are kept under. -/
def named (names : List String) (vs : List Value) : Variables := names.zip vs

/-- The attributes of a syntax error. The second of two arguments holds its place. -/
def syntaxFields (args : List Value) : Calling Variables := do
  let message := named ["msg"] args
  match args with
  | [_, details] =>
    let vs ← allItems details
    if vs.length < 4 then fail (.takes "function" (.atLeast 4) vs.length)
    else if 6 < vs.length then fail (.takes "function" (.atMost 6) vs.length)
    else if vs.length = 5 then fail .noEndOffset
    else
      return message
        ++ named ["filename", "lineno", "offset", "text", "end_lineno", "end_offset"] vs
  | _ => return message

/-- The attributes of a system error and the arguments that it keeps. Two to five arguments are a
number, a reason, a path, something of no use, and another path. -/
def systemFields (args : List Value) : Variables × List Value :=
  if args.length < 2 || 5 < args.length then ([], args)
  else
    let first := given? args 2
    let second := if first.isNone then none else given? args 4
    let paths := named ["filename", "filename2"] (first.toList ++ second.toList)
    (named ["errno", "strerror"] args ++ paths, if paths.isEmpty then args else args.take 2)
where
  /-- The argument at a place, if there is one and it is not null. -/
  given? (args : List Value) (place : Nat) : Option Value :=
    args[place]?.filter fun
      | .null => false
      | _ => true

/-- The class of the system errors that say how much was written before. -/
def blockingClass : ClassRef := .core (.exception "BlockingIOError")

/-- The attributes of a system error, the arguments that it keeps, and how much was written: that
is what a number as a path means for some. -/
def readSystem (c : ClassRef) (args : List Value) :
    Calling (Variables × List Value × Variables) := do
  let (fields, kept) := systemFields args
  match args with
  | _ :: _ :: v :: _ =>
    if c = blockingClass && args.length ≤ 5 && ((← get).bare v).num?.isSome then
      let n ← asInteger v
      if fitsIndex n then return (named ["errno", "strerror"] args, args, [("characters_written", .int n)])
      else fail .countTooLarge
    else return (fields, kept, [])
  | _ => return (fields, kept, [])

/-- Takes an argument that has to be a text. -/
def textArgument (place : Nat) (v : Value) : Calling Value := do
  match (← get).bare v with
  | .text t => return .text t
  | _ => fail (.argument ("argument " ++ toString place) "str" ((← get).argumentType v))

/-- The attributes of an error about characters: an encoding unless it is about no encoding, a
text, two places and a reason. -/
def characterFields (isEncoded hasText : Bool) (args : List Value) : Calling Variables := do
  let count := if isEncoded then 5 else 4
  if args.length != count then fail (.takes "function" (.exactly count) args.length)
  else
    let encodings ← (if isEncoded then args.take 1 else []).mapM (textArgument 1)
    match if isEncoded then args.drop 1 else args with
    | [object, start, stop, reason] =>
      let object ← if hasText then textArgument (count - 3) object else pure object
      let start ← asInteger start
      let stop ← asInteger stop
      let reason ← textArgument count reason
      if !hasText then fail (.noBytes ((← get).typeName object))
      else return named ["encoding"] encodings
        ++ named ["object", "start", "end", "reason"] [object, .int start, .int stop, reason]
    | _ => return []

/-- The fault that a group of a class of ordinary exceptions holds another exception. -/
def Store.groupFault (s : Store) (c : ClassRef) : Fault :=
  .groupNesting (match c with
    | .core _ => none
    | c => some (s.className c))

/-- The attributes of a group of exceptions, and whether they are all ordinary. A group that is an
ordinary exception itself holds no other. -/
def groupFields (c : ClassRef) (args : List Value) : Calling (Variables × Bool) := do
  match args with
  | [message, exceptions] =>
    let s ← get
    match s.bare message with
    | .text _ => pure ()
    | _ => fail (.argument "BaseExceptionGroup.__new__() argument 1" "str" (s.argumentType message))
    match s.bare exceptions with
    | .text _ | .tuple _ | .list _ | .range .. => pure ()
    | _ => if (s.meaning? exceptions "__getitem__").isNone then fail .groupSequence
    let vs ← allItems exceptions
    if vs.isEmpty then fail .groupEmpty
    match vs.findIdx? fun v => !s.isRaisable v with
    | some i => fail (.groupItem i)
    | none => pure ()
    let allOrdinary := vs.all fun v => s.isOneOf v ["Exception"]
    if !allOrdinary && s.isSubclass c (.core (.exception "Exception")) then fail (s.groupFault c)
    return (named ["message", "exceptions"] [message, .tuple vs], allOrdinary)
  | vs => fail (.takes "BaseExceptionGroup.__new__()" (.exactly 2) vs.length)

/-! ## Making exceptions -/

/-- The system errors that have a class of their own, by number. -/
def systemErrors : List (Int × String) := [
  (1, "PermissionError"), (2, "FileNotFoundError"), (3, "ProcessLookupError"),
  (4, "InterruptedError"), (10, "ChildProcessError"), (11, "BlockingIOError"),
  (13, "PermissionError"), (17, "FileExistsError"), (20, "NotADirectoryError"),
  (21, "IsADirectoryError"), (32, "BrokenPipeError"), (103, "ConnectionAbortedError"),
  (104, "ConnectionResetError"), (108, "BrokenPipeError"), (110, "TimeoutError"),
  (111, "ConnectionRefusedError"), (114, "BlockingIOError"), (115, "BlockingIOError")]

/-- The class that a system error is really of. -/
def Store.systemClass (s : Store) (c : ClassRef) (args : List Value) : ClassRef :=
  match args with
  | number :: _ :: _ =>
    if c = .core (.exception "OSError") && args.length ≤ 5 then
      match (s.bare number).int?.bind fun n => systemErrors.lookup n with
      | some name => .core (.exception name)
      | none => c
    else c
  | _ => c

/-- Whether a loaded class has an initialiser for its objects. -/
def Store.hasInit (s : Store) (c : ClassRef) : Bool :=
  (s.loadedMember? "__init__" (s.ancestors c)).isSome

/-- Makes an exception of a class, before its initialiser is called. A system error reads its
arguments now if its class has no initialiser. -/
def newExceptionOf (c : ClassRef) (args : List Value) : Calling Nat := do
  let s ← get
  let core := s.coreOf c
  if core.isSubclass (.exception "BaseExceptionGroup") then
    let (fields, allOrdinary) ← groupFields c args
    let c := if c = .core (.exception "BaseExceptionGroup") && allOrdinary then
        .core (.exception "ExceptionGroup")
      else c
    newObject ⟨c, [], args, fields, none⟩
  else if core.isSubclass (.exception "OSError") then
    if s.hasInit c then newObject ⟨c, [], [], [], none⟩
    else
      let c := s.systemClass c args
      let (fields, kept, written) ← readSystem c args
      newObject ⟨c, written, kept, fields, none⟩
  else newObject ⟨c, [], args, [], none⟩

/-- The status that a program ends with for the arguments of the exception that ends it. -/
def exitStatus : List Value → Value
  | [] => .null
  | [v] => v
  | vs => .tuple vs

/-- What the initialiser of the core exceptions does with an exception. -/
def initException (p : Nat) (args : List Value) : Calling Unit := do
  let s ← get
  let o := s.object p
  let core := s.coreOf o.cls
  let is (name : String) : Bool := core.isSubclass (.exception name)
  if is "OSError" then
    if s.hasInit o.cls then
      let (fields, kept, _) ← readSystem o.cls args
      changeObject p fun o => { o with arguments := kept, fields := fields }
  else
    changeObject p fun o => { o with arguments := args }
    let fields : Variables ←
      if is "SyntaxError" then syntaxFields args
      else if is "ImportError" then pure (if args.length = 1 then named ["msg"] args else [])
      else if is "StopIteration" then pure [("value", args.headD .null)]
      else if is "SystemExit" then pure [("code", exitStatus args)]
      else if is "UnicodeTranslateError" then characterFields false true args
      else if is "UnicodeEncodeError" then characterFields true true args
      else if is "UnicodeDecodeError" then characterFields true false args
      else pure []
    changeObject p fun o => { o with fields := o.fields.putAll fields }

end BraceScript.Eval
