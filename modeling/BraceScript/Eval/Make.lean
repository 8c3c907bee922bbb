import BraceScript.Eval.Attribute
import BraceScript.Eval.Convert

/-!
# Making values of a class

A call of a class makes a value of it. `construct` is the call of a built-in class and
`instantiate` that of a loaded one, which makes an object and then calls its initialiser. An object
of a class derived from that of built-in values holds such a value from the start, except that
lists, dictionaries and sets are filled by their initialiser.
-/

namespace BraceScript.Eval

open Text (Points)

/-! ## Arguments -/

/-- The only argument of a call that takes at most one. -/
def optional (function : String) : List Value → Calling (Option Value)
  | [] => pure none
  | [v] => pure (some v)
  | vs => fail (.expected function (.atMost 1) vs.length)

/-! ## Filling collections -/

/-- The key and the value that an item of a row of entries gives. -/
def entryOf (i : Nat) (item : Value) : Calling (Value × Value) := do
  match ← unlessRaised ["TypeError"] (allItems item) with
  | none => fail (.noPair i)
  | some [k, v] => return (k, v)
  | some vs => fail (.pairLength i vs.length)

/-- Puts the entries of a row into a dictionary, in order. -/
def putRow (p : Nat) : Nat → List Value → Calling Unit
  | _, [] => pure ()
  | i, item :: items => do
    let (k, v) ← entryOf i item
    putEntry p k v
    putRow p (i + 1) items

/-- Puts the entries that a value holds into a dictionary. -/
def updateDict (p : Nat) (v : Value) : Calling Unit := do
  let s ← get
  match s.bare v with
  | .dict q => (s.entries q).toList.forM fun (k, w) => putEntry p k w
  | _ => putRow p 0 (← allItems v)

/-- Adds the items of a value to a set. -/
def updateSet (p : Nat) (v : Value) : Calling Unit := do (← allItems v).forM (addMember p)

/-- A new dictionary with the entries of a value, if there is one. -/
def dictOf (v? : Option Value) : Calling Value := do
  let d ← newDict #[]
  match d, v? with
  | .dict p, some v => updateDict p v
  | _, _ => pure ()
  return d

/-- The place of a new set with the items of a value, if there is one. -/
def membersFrom (v? : Option Value) : Calling Nat := do
  let p ← newMembers #[]
  match v? with
  | some v => updateSet p v
  | none => pure ()
  return p

/-- The items of a value, if there is one. -/
def itemsFrom (v? : Option Value) : Calling (List Value) :=
  match v? with
  | some v => allItems v
  | none => pure []

/-! ## Built-in values -/

/-- The integer that arguments make. -/
def makeInt : List Value → Calling Value
  | [] => pure (.int 0)
  | [v] => return .int (← toInteger v)
  | [v, base] => return .int (← toIntegerIn v base)
  | vs => fail (.takes "int()" (.atMost 2) vs.length)

/-- The double that arguments make. -/
def makeFloat (args : List Value) : Calling Value := do
  match ← optional "float" args with
  | none => return .float 0.0 0
  | some v => toDouble v

/-- Refuses an argument that is not a text. -/
def checkTextArgument (name : String) (v : Value) : Calling Unit := do
  match (← get).bare v with
  | .text _ => pure ()
  | _ => fail (.argument ("str() argument '" ++ name ++ "'") "str" ((← get).argumentType v))

/-- The text that arguments make. Bytes could be decoded, but scripts have none. -/
def makeText : List Value → Calling Value
  | [] => pure ""
  | [v] => toText v
  | v :: encoding :: errors =>
    if 1 < errors.length then fail (.takes "str()" (.atMost 3) (errors.length + 2))
    else do
      checkTextArgument "encoding" encoding
      errors.forM (checkTextArgument "errors")
      match (← get).bare v with
      | .text _ => fail .textDecoding
      | _ => fail (.noBytesFound ((← get).typeName v))

/-- The range that arguments make. -/
def makeRange : List Value → Calling Value
  | [] => fail (.expected "range" (.atLeast 1) 0)
  | [stop] => return .range 0 (← asInteger stop) 1
  | [start, stop] => do
    let a ← asInteger start
    return .range a (← asInteger stop) 1
  | [start, stop, step] => do
    let a ← asInteger start
    let b ← asInteger stop
    let c ← asInteger step
    if c = 0 then fail .zeroStep else return .range a b c
  | vs => fail (.expected "range" (.atMost 3) vs.length)

/-- The members behind a class, for an object that has the class in its line. -/
def superOf (start : ClassRef) (self : Value) : Eval Value := do
  if ((← get).lineOf self).contains start then return .super start self else fail .superMismatch

/-- The members behind a class that arguments ask for. -/
def makeSuper : List Value → Calling Value
  | [.cls c, self] => superOf c self
  | v :: rest => do
    if 1 < rest.length then fail (.expected "super()" (.atMost 2) (rest.length + 1))
    else fail (.superType ((← get).typeName v))
  | [] => fail .superWithoutArguments

/-- A value of a built-in class from arguments. -/
def construct (c : Core) (args : List Value) : Calling Value := do
  match c with
  | .exception _ => do
    let p ← newExceptionOf (.core c) args
    initException p args
    return .object p
  | .int => makeInt args
  | .float => makeFloat args
  | .text => makeText args
  | .range => makeRange args
  | .super => makeSuper args
  | .bool => return .bool (← ((← optional "bool" args).map truth).getD (pure false))
  | .list => newList (← itemsFrom (← optional "list" args)).toArray
  | .tuple => return .tuple (← itemsFrom (← optional "tuple" args))
  | .dict => dictOf (← optional "dict" args)
  | .set => return .set (← membersFrom (← optional "set" args))
  | .frozenSet => return .frozenSet (← membersFrom (← optional "frozenset" args))
  | .type =>
    match args with
    | [v] => return .cls ((← get).classOf v)
    | _ => fail .typeArguments
  | .staticMethod =>
    match args with
    | [f] => return .staticMethod f
    | _ => fail (.expected "staticmethod" (.exactly 1) args.length)
  | .object =>
    if args.isEmpty then return .object (← newObject ⟨.core .object, [], [], [], none⟩)
    else fail (.takesNoArguments "object")
  | .null => if args.isEmpty then return .null else fail (.noArgumentsBase "NoneType")
  | .any => fail (.cannotInstantiate "Any")
  | c => fail (.notAvailable c.name)

/-! ## Objects of loaded classes -/

/-- The name of the member that makes the objects of a class. -/
def makerName : String := "__new__"

/-- The built-in value that an object of a class derived from a core class holds at first. -/
def innerOf (core : Core) (cls : String) (args : List Value) : Calling (Option Value) := do
  match core with
  | .int => some <$> makeInt args
  | .float => some <$> makeFloat args
  | .text => do
    let t ← makeText args
    return some ((← get).bare t)
  | .tuple => return some (.tuple (← itemsFrom (← optional "tuple" args)))
  | .frozenSet => return some (.frozenSet (← membersFrom (← optional cls args)))
  | .list => some <$> newList #[]
  | .dict => some <$> newDict #[]
  | .set => return some (.set (← newMembers #[]))
  | _ => return none

/-- Refuses arguments that a class without a maker of its own cannot take. -/
def checkArguments (c : ClassRef) (args : List Value) : Eval Unit := do
  let s ← get
  match s.coreOf c with
  | .object =>
    if !args.isEmpty && !s.hasInit c then fail (.takesNoArguments (s.className c))
  | .any => if !args.isEmpty then fail .newTakesNoArguments
  | .type => if args.length != 3 then fail (.takes "type.__new__()" (.exactly 3) args.length)
  | .staticMethod =>
    if args.length != 1 then fail (.expected "staticmethod" (.exactly 1) args.length)
  | _ => pure ()

/-- Makes an object of a loaded class, before its initialiser is called. -/
def allocate (c : ClassRef) (args : List Value) : Calling Value := do
  checkArguments c args
  let s ← get
  let core := s.coreOf c
  if core.isException then return .object (← newExceptionOf c args)
  else return .object (← newObject ⟨c, [], [], [], ← innerOf core (s.className c) args⟩)

/-- Calls the initialiser of an object. -/
def initialise (self : Value) (args : List Value) : Calling Unit := do
  let s ← get
  match s.member? (s.classOf self) initName with
  | none => pure ()
  | some m =>
    match ← call (tied self m) args with
    | .null => pure ()
    | v => fail (.initReturned ((← get).typeName v))

/-- An object of a loaded class from arguments. A class can make its objects itself. -/
def instantiate (c : ClassRef) (args : List Value) : Calling Value := do
  let s ← get
  match s.loadedMember? makerName (s.ancestors c) with
  | some f =>
    let self ← call (untied f) (.cls c :: args)
    let s ← get
    if s.isSubclass (s.classOf self) c then initialise self args
    return self
  | none =>
    let self ← allocate c args
    initialise self args
    return self

/-- What the initialiser of objects says to arguments that it does not know. A class that makes its
objects itself may take them. -/
def initObject (c : ClassRef) (args : List Value) : Eval Unit := do
  let s ← get
  if !args.isEmpty then
    if s.hasInit c then fail (.initTakesNoArguments "object")
    else if s.coreOf c = .object && (s.loadedMember? makerName (s.ancestors c)).isNone then
      fail (.initTakesNoArguments (s.className c))

/-- What the initialiser of a core class does with an object. -/
def initBuiltin (self : Value) (args : List Value) (c : Core) : Calling Unit := do
  let s ← get
  match c, self, s.bare self with
  | .exception _, .object p, _ => if s.isRaisable self then initException p args
  | .list, _, .list p =>
    let v? ← optional "list" args
    modify fun s => { s with lists := s.lists.setIfInBounds p #[] }
    match v? with
    | some v => extend p v
    | none => pure ()
  | .dict, _, .dict p =>
    match ← optional "dict" args with
    | some v => updateDict p v
    | none => pure ()
  | .set, _, .set p =>
    let v? ← optional (s.typeName self) args
    modify fun s => { s with sets := s.sets.setIfInBounds p #[] }
    match v? with
    | some v => updateSet p v
    | none => pure ()
  | .object, self, _ => initObject (s.classOf self) args
  | _, _, _ => pure ()

end BraceScript.Eval
