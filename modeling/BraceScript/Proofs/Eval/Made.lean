import BraceScript.Proofs.Eval.Evolution

/-!
# What operations are made of

An operation on values is made of steps, of calls, and of looking up the few names that ready-made
functions use. A step reads and changes a store apart from its surroundings, which it does not even
see: the variables of the current scope, the names of the program, and the code of functions. It
takes back nothing that was written, and it changes no more than code can that never assigns some
attribute. `Made` says this of an operation, by how it is put together, and what follows for all
operations follows by induction on it: they leave what their calls leave (`Made.obeys`).
-/

namespace BraceScript.Eval
open Code
open Text (Points)

/-! ## Surroundings -/

/-- A store with other variables in the current scope. -/
@[simps, grind]
def Store.scoped (s : Store) (names : Variables) : Store := { s with locals := names }

/-- What operations on values do not see of a store: the variables of the current scope, what the
names of the program stand for, and the code of functions. -/
structure Surroundings where
  locals : Variables
  globals : Variables
  code : Nat → Closure

/-- No variables, no names and no code. -/
def Surroundings.none : Surroundings := ⟨[], [], fun _ => default⟩

/-- A function with the code of another one. It keeps its name and attributes. -/
def Closure.running (f g : Closure) : Closure := { g with name := f.name, attrs := f.attrs }

/-- A store with other surroundings. -/
@[simps, grind]
def Store.amid (s : Store) (o : Surroundings) : Store := { s with
  locals := o.locals
  globals := o.globals
  functions := s.functions.mapIdx fun p f => f.running (o.code p) }

namespace Store
variable (s : Store)

/-- The surroundings in a store. -/
def around : Surroundings := ⟨s.locals, s.globals, s.function⟩

variable (o : Surroundings)

@[simp]
theorem items_amid : (s.amid o).items = s.items := (rfl)

@[simp]
theorem entries_amid : (s.amid o).entries = s.entries := (rfl)

@[simp]
theorem members_amid : (s.amid o).members = s.members := (rfl)

@[simp]
theorem object_amid : (s.amid o).object = s.object := (rfl)

@[simp]
theorem loadedClass_amid : (s.amid o).loadedClass = s.loadedClass := (rfl)

theorem function_amid (p : Nat) : (s.amid o).function p
    = if p < s.functions.size then (s.function p).running (o.code p) else default := by
  simp only [function, amid, Array.getElem?_mapIdx]
  split
  · next hp => simp [Array.getElem?_eq_getElem hp]
  · next hp => simp [Array.getElem?_eq_none (Nat.not_lt.mp hp)]

theorem function_of_size_le {p : Nat} (hp : s.functions.size ≤ p) : s.function p = default := by
  rw [function, Array.getElem?_eq_none hp, Option.getD_none]

@[simp]
theorem name_function_amid (p : Nat) : ((s.amid o).function p).name = (s.function p).name := by
  rw [function_amid]
  split
  · rfl
  · next hp => rw [s.function_of_size_le (Nat.not_lt.mp hp)]

@[simp]
theorem attrs_function_amid (p : Nat) : ((s.amid o).function p).attrs = (s.function p).attrs := by
  rw [function_amid]
  split
  · rfl
  · next hp => rw [s.function_of_size_le (Nat.not_lt.mp hp)]

/-- Of surroundings that were replaced nothing is left. -/
@[simp]
theorem amid_amid (o' : Surroundings) : (s.amid o).amid o' = s.amid o' := by
  rw [amid, amid, Array.mapIdx_mapIdx]
  rfl

/-- A store amid its own surroundings. -/
theorem amid_around : s.amid s.around = s := by
  have hfunctions : (s.functions.mapIdx fun p f => f.running (s.function p)) = s.functions := by
    refine Array.ext (by simp) fun p hp hp' => ?_
    simp [Closure.running, function, Array.getElem?_eq_getElem hp']
  rw [amid, around, hfunctions]

/-- A function is given an attribute whatever its code is. -/
theorem amid_functions_modify (p : Nat) (attrs : Variables → Variables) :
    (s.functions.mapIdx fun p f => f.running (o.code p)).modify p
        (fun f => { f with attrs := attrs f.attrs })
      = (s.functions.modify p fun f => { f with attrs := attrs f.attrs }).mapIdx fun p f =>
        f.running (o.code p) := by
  refine Array.ext_getElem? fun q => ?_
  simp only [Array.getElem?_modify, Array.getElem?_mapIdx]
  split <;> cases s.functions[q]? <;> rfl

@[simp]
theorem module_amid : (s.amid o).module = s.module := (rfl)

@[simp]
theorem className_amid : (s.amid o).className = s.className := (rfl)

@[simp]
theorem bare_amid : (s.amid o).bare = s.bare := (rfl)

@[simp]
theorem num?_amid : (s.amid o).num? = s.num? := (rfl)

@[simp]
theorem membersOf?_amid : (s.amid o).membersOf? = s.membersOf? := (rfl)

@[simp]
theorem depth_amid : (s.amid o).depth = s.depth := (rfl)

@[simp]
theorem item?_amid : (s.amid o).item? = s.item? := (rfl)

@[simp]
theorem itemsOf_amid : (s.amid o).itemsOf = s.itemsOf := (rfl)

@[simp]
theorem isDirect_amid : (s.amid o).isDirect = s.isDirect := (rfl)

@[simp]
theorem bracketed_amid : (s.amid o).bracketed = s.bracketed := (rfl)

@[simp]
theorem size?_amid : (s.amid o).size? = s.size? := (rfl)

@[simp]
theorem plainTruth_amid : (s.amid o).plainTruth = s.plainTruth := (rfl)

@[simp]
theorem row?_amid : (s.amid o).row? = s.row? := (rfl)

@[simp]
theorem fullName_amid : (s.amid o).fullName = s.fullName := (rfl)

@[simp]
theorem shownDepth_amid : (s.amid o).shownDepth = s.shownDepth := (rfl)

@[simp]
theorem functionAttribute?_amid : (s.amid o).functionAttribute? = s.functionAttribute? := by
  funext f x
  cases f <;> simp [functionAttribute?]

@[simp]
theorem line_amid : (s.amid o).line = s.line := by
  funext n c
  induction n generalizing c with
  | zero => cases c <;> rfl
  | succ n ih =>
    cases c with
    | core c => rfl
    | loaded p => simp [line, ih]

@[simp]
theorem loadedMember?_amid : (s.amid o).loadedMember? = s.loadedMember? := by
  funext name cs
  induction cs with
  | nil => rfl
  | cons c cs ih => cases c <;> simp [loadedMember?, ih]

@[simp]
theorem keyMember?_amid : (s.amid o).keyMember? = s.keyMember? := by
  funext cs
  induction cs with
  | nil => rfl
  | cons c cs ih => cases c <;> simp [keyMember?, ih]

@[simp]
theorem ancestors_amid : (s.amid o).ancestors = s.ancestors := by
  funext a
  simp [ancestors]

@[simp]
theorem isSubclass_amid : (s.amid o).isSubclass = s.isSubclass := by
  funext a b
  simp [isSubclass]

@[simp]
theorem coreOf_amid : (s.amid o).coreOf = s.coreOf := by
  funext a
  simp [coreOf]

@[simp]
theorem isException_amid : (s.amid o).isException = s.isException := by
  funext a
  simp [isException]

@[simp]
theorem classOf_amid : (s.amid o).classOf = s.classOf := by
  funext a
  simp [classOf]

@[simp]
theorem typeName_amid : (s.amid o).typeName = s.typeName := by
  funext a
  simp [typeName]

@[simp]
theorem lineStart_amid : (s.amid o).lineStart = s.lineStart := by
  funext a
  simp [lineStart]

@[simp]
theorem isRaisable_amid : (s.amid o).isRaisable = s.isRaisable := by
  funext a
  simp [isRaisable]

@[simp]
theorem meaning?_amid : (s.amid o).meaning? = s.meaning? := by
  funext a b
  simp [meaning?]

@[simp]
theorem textMember?_amid : (s.amid o).textMember? = s.textMember? := by
  funext p
  simp [textMember?]

@[simp]
theorem isDerived_amid : (s.amid o).isDerived = s.isDerived := by
  funext a b
  simp [isDerived]

@[simp]
theorem isOneOf_amid : (s.amid o).isOneOf = s.isOneOf := by
  funext a b
  simp [isOneOf]

@[simp]
theorem argumentType_amid : (s.amid o).argumentType = s.argumentType := by
  funext a
  simp [argumentType]

@[simp]
theorem groupFault_amid : (s.amid o).groupFault = s.groupFault := by
  funext a
  simp [groupFault]

@[simp]
theorem systemClass_amid : (s.amid o).systemClass = s.systemClass := by
  funext a b
  simp [systemClass]

@[simp]
theorem hasInit_amid : (s.amid o).hasInit = s.hasInit := by
  funext a
  simp [hasInit]

@[simp]
theorem means_amid : (s.amid o).means = s.means := by
  funext a b
  simp [means]

@[simp]
theorem overrides_amid : (s.amid o).overrides = s.overrides := by
  funext a b c
  simp [overrides]

@[simp]
theorem isRepeatable_amid : (s.amid o).isRepeatable = s.isRepeatable := by
  funext a
  simp [isRepeatable]

@[simp]
theorem isCollection_amid : (s.amid o).isCollection = s.isCollection := by
  funext a
  simp [isCollection]

@[simp]
theorem ownMember?_amid : (s.amid o).ownMember? = s.ownMember? := by
  funext a b
  simp [ownMember?]

@[simp]
theorem memberOf?_amid : (s.amid o).memberOf? = s.memberOf? := by
  funext a b
  simp [memberOf?]

@[simp]
theorem member?_amid : (s.amid o).member? = s.member? := by
  funext a b
  simp [member?]

@[simp]
theorem lineOf_amid : (s.amid o).lineOf = s.lineOf := by
  funext a
  simp [lineOf]

@[simp]
theorem describe?_amid : (s.amid o).describe? = s.describe? := by
  funext a b
  simp [describe?]

@[simp]
theorem instanceAttribute?_amid : (s.amid o).instanceAttribute? = s.instanceAttribute? := by
  funext a b c
  simp [instanceAttribute?]

@[simp]
theorem attribute?_amid : (s.amid o).attribute? = s.attribute? := by
  funext a b
  simp [attribute?]

@[simp]
theorem missing_amid : (s.amid o).missing = s.missing := by
  funext a b
  simp [missing]

end Store

@[simp]
theorem hintPart_amid (s : Store) (o : Surroundings) (shown : Value → Calling Points) :
    hintPart (s.amid o) shown = hintPart s shown := by
  funext v
  cases v <;> simp [hintPart]

/-! ## Looking at a store -/

/-- The store as operations look at it: without its surroundings. -/
def view : Eval Store := fun s => (.ok (s.amid .none), s)

/-- A computation that looks only at what operations look at. -/
theorem get_bind_eval {β : Type} {f : Store → Eval β} (h : ∀ s, f (s.amid .none) = f s) :
    get >>= f = view >>= f := by
  funext s
  rw [stateBind_apply, stateBind_apply]
  show f s s = f (s.amid .none) s
  rw [h]

theorem get_bind_calling {β : Type} {f : Store → Calling β} (h : ∀ s, f (s.amid .none) = f s) :
    get >>= f = (liftM view : Calling Store) >>= f := by
  funext caller s
  show ((get : Eval Store) >>= fun s => f s caller) s = (view >>= fun s => f s caller) s
  rw [get_bind_eval fun s => by rw [h]]

/-! ## Looking up names -/

/-- What a name of the program stands for, if it is bound. -/
def bound (name : String) : Eval (Option Value) := modifyGet fun s => (s.globals.get? name, s)

/-- What a name stands for that is not bound: something built in, if anything. -/
def unbound (name : String) : Eval Value := do
  match ((← view).module builtinsPlace).attrs.get? name |>.orElse fun _ => builtinValue? name with
  | some v => return v
  | none => fail (.undefinedName name)

theorem globalValue_eq (name : String) : globalValue name = (do
    match ← bound name with
    | some v => return v
    | none => unbound name) := by
  funext s
  have hbound : bound name s = (.ok (s.globals.get? name), s) := rfl
  rw [bind_of_ok _ hbound]
  unfold globalValue
  rw [bind_of_ok _ (get_eq_ok s)]
  cases s.globals.get? name <;> rfl

/-- A name that ready-made functions look up. -/
def Relied (name : String) : Prop := name ∈ reliedNames

instance (name : String) : Decidable (Relied name) := inferInstanceAs (Decidable (name ∈ reliedNames))

theorem relied : Relied "isinstance" ∧ Relied "getattr" ∧ Relied "str" ∧ Relied "int" ∧
    Relied "float" ∧ Relied "bool" ∧ Relied "abs" ∧ Relied "max" ∧ Relied "min" ∧
    Relied "round" ∧ Relied "ValueError" ∧ Relied "sys" ∧ Relied "_math" ∧ Relied "_re" ∧
    Relied "_cs_str" ∧ Relied "_cs_div" ∧ Relied "_cs_format" ∧ Relied "_is_integer" ∧
    Relied "Console" := by decide

/-! ## Input and output -/

/-- A store that is at least as far as another one in what was written and in what was read. -/
structure Ahead (s t : Store) : Prop where
  output : s.output.toList <+: t.output.toList
  errors : s.errors.toList <+: t.errors.toList
  input : t.input <:+ s.input

section
variable {s t u : Store}

@[grind ←]
theorem Ahead.of_eq (houtput : t.output = s.output) (herrors : t.errors = s.errors)
    (hinput : t.input = s.input) : Ahead s t :=
  ⟨houtput ▸ List.prefix_rfl, herrors ▸ List.prefix_rfl, hinput ▸ List.suffix_rfl⟩

theorem Ahead.refl (s : Store) : Ahead s s := .of_eq rfl rfl rfl

theorem Ahead.trans (h : Ahead s t) (h' : Ahead t u) : Ahead s u :=
  ⟨h.output.trans h'.output, h.errors.trans h'.errors, h'.input.trans h.input⟩

end

/-! ## What operations are made of -/

/-- What the operations on values are made of: steps that read and change the store apart from its
surroundings, names that are looked up, and calls of values. No step changes more than code can change
that never assigns the attribute `x`. -/
inductive Made (x : String) : {α : Type} → Calling α → Prop
  | throw {α : Type} (e : Stop) : Made x (throw e : Calling α)
  | step {α : Type} (g : Store → α × Store)
    (hamid : ∀ s o, g (s.amid o) = ((g s).1, (g s).2.amid o))
    (hahead : ∀ s, Ahead s (g s).2) (hstep : ∀ s, Spared x s → Evolves x s (g s).2) :
    Made x (liftM (modifyGet g : Eval α))
  | lookup (name : String) (hname : Relied name) : Made x (liftM (bound name))
  | call (f : Value) (args : List Value) : Made x (call f args)
  | bind {α β : Type} {a : Calling α} {f : α → Calling β} (ha : Made x a)
    (hf : ∀ v, Made x (f v)) : Made x (a >>= f)
  | ending {α β : Type} {a : Calling α} {next : Except Stop α → Calling β} (ha : Made x a)
    (hnext : ∀ r, Made x (next r)) (hfuel : next (.error .outOfFuel) = throw .outOfFuel) :
    Made x (ending a next)

/-- An operation that calls nothing. -/
def Plain {α : Type} (x : String) (a : Eval α) : Prop := Made x (liftM a : Calling α)

attribute [grind ←] Made.throw Made.lookup Made.call Made.bind Made.ending

/-- A step leaves the surroundings as they are. -/
theorem amid_of_step {α : Type} {g : Store → α × Store}
    (hamid : ∀ s o, g (s.amid o) = ((g s).1, (g s).2.amid o)) (s : Store) :
    (g s).2 = (g s).2.amid s.around := by
  have hself := hamid s s.around
  rw [s.amid_around] at hself
  exact congrArg Prod.snd hself

/-- A step sees nothing of the variables of the current scope. -/
theorem scoped_of_step {α : Type} {g : Store → α × Store}
    (hamid : ∀ s o, g (s.amid o) = ((g s).1, (g s).2.amid o)) (s : Store) (names : Variables) :
    g (s.scoped names) = ((g s).1, (g s).2.scoped names) := by
  have hscoped (t : Store) (o : Surroundings) :
      (t.amid o).scoped names = t.amid { o with locals := names } := rfl
  calc g (s.scoped names) = g (s.amid { s.around with locals := names }) := by
        rw [← hscoped, s.amid_around]
    _ = ((g s).1, ((g s).2.amid s.around).scoped names) := hamid s _
    _ = ((g s).1, (g s).2.scoped names) := by rw [← amid_of_step hamid s]

section
variable {x : String} {α β : Type}

@[grind ←]
theorem Made.lift {a : Eval α} (h : Plain x a) : Made x (liftM a : Calling α) := h

@[grind ←]
theorem Plain.throw (e : Stop) : Plain x (throw e : Eval α) := Made.throw e

theorem Plain.step (g : Store → α × Store)
    (hamid : ∀ s o, g (s.amid o) = ((g s).1, (g s).2.amid o))
    (hahead : ∀ s, Ahead s (g s).2) (hstep : ∀ s, Spared x s → Evolves x s (g s).2) :
    Plain x (modifyGet g : Eval α) :=
  Made.step g hamid hahead hstep

@[grind ←]
theorem Plain.pure (a : α) : Plain x (pure a : Eval α) :=
  .step (fun s => (a, s)) (fun _ _ => rfl) .refl fun s _ => .refl s

@[grind ←]
theorem Plain.view : Plain x view :=
  .step (fun s => (s.amid .none, s)) (fun s o => by rw [s.amid_amid]) .refl fun s _ => .refl s

@[grind ←]
theorem Plain.bind {a : Eval α} {f : α → Eval β} (ha : Plain x a) (hf : ∀ v, Plain x (f v)) :
    Plain x (a >>= f) := Made.bind ha hf

@[grind ←]
theorem Plain.map {a : Eval α} {f : α → β} (ha : Plain x a) : Plain x (f <$> a) :=
  ha.bind fun v => .pure (f v)

@[grind ←]
theorem Plain.raise (v : Value) : Plain x (raise v : Eval α) := .throw _

theorem Plain.modify {f : Store → Store}
    (hamid : ∀ s o, f (s.amid o) = (f s).amid o)
    (hahead : ∀ s, Ahead s (f s)) (hstep : ∀ s, Spared x s → Evolves x s (f s)) :
    Plain x (modify f : Eval Unit) :=
  .step (fun s => ((), f s)) (fun s o => by rw [hamid]) hahead hstep

@[grind ←]
theorem Made.pure (a : α) : Made x (pure a : Calling α) := .lift (.pure a)

@[grind ←]
theorem Made.map {a : Calling α} {f : α → β} (ha : Made x a) : Made x (f <$> a) :=
  ha.bind fun v => .pure (f v)

@[grind ←]
theorem Made.resume (r : Except Stop α) : Made x (resume r) := by
  cases r with
  | ok a => exact .pure a
  | error e => exact .throw e

/-- A computation that looks at a store, apart from its surroundings. -/
theorem Made.looks {f : Store → Calling β} (hview : ∀ s, f (s.amid .none) = f s)
    (hf : ∀ s, Made x (f s)) : Made x (get >>= f) := by
  rw [get_bind_calling hview]
  exact (Made.lift Plain.view).bind hf

@[grind ←]
theorem Made.modify {f : Store → Store}
    (hamid : ∀ s o, f (s.amid o) = (f s).amid o)
    (hahead : ∀ s, Ahead s (f s)) (hstep : ∀ s, Spared x s → Evolves x s (f s)) :
    Made x (modify f : Calling Unit) :=
  .lift (.modify hamid hahead hstep)

@[grind ←]
theorem Made.mapM {f : α → Calling β} {as : List α} (hf : ∀ a, Made x (f a)) :
    Made x (as.mapM f) := by
  induction as with
  | nil => exact .pure []
  | cons a as ih =>
    rw [List.mapM_cons]
    exact (hf a).bind fun _ => ih.bind fun _ => .pure _

@[grind ←]
theorem Made.forM {f : α → Calling PUnit} {as : List α} (hf : ∀ a, Made x (f a)) :
    Made x (as.forM f) := by
  induction as with
  | nil => exact .pure _
  | cons a as ih => exact (hf a).bind fun _ => ih

@[grind ←]
theorem Made.filterM {f : α → Calling Bool} {as : List α} (hf : ∀ a, Made x (f a)) :
    Made x (as.filterM f) := by
  have haux (kept : List α) : Made x (as.filterAuxM f kept) := by
    induction as generalizing kept with
    | nil => exact .pure _
    | cons a as ih => exact (hf a).bind fun _ => ih _
  exact (haux []).bind fun _ => .pure _

/-- Operations leave what their calls leave. -/
@[grind ←]
theorem Made.obeys {a : Calling α} (h : Made x a) : Obeys x a := by
  induction h with
  | throw e => exact .throw e
  | step g hamid _ hstep =>
    refine .lift fun s hs => ⟨hstep s hs, ?_⟩
    have hlocals := congrArg Store.locals (amid_of_step hamid s)
    exact hlocals
  | lookup name _ => exact .lift (.of_same fun _ => rfl)
  | call f args => exact .call f args
  | bind _ _ iha ihf => exact .bind iha ihf
  | ending _ _ _ iha ihnext => exact .ending iha ihnext

@[grind ←]
theorem Plain.leaves {a : Eval α} (h : Plain x a) : Leaves x a :=
  Made.obeys h (fun _ _ => MonadExcept.throw Stop.outOfFuel) fun _ _ => .throw _

end

end BraceScript.Eval
