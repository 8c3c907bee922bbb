import BraceScript.Proofs.Eval.Loading
import BraceScript.Proofs.Eval.Unseen
import BraceScript.Proofs.Lowering.BareNames
import BraceScript.Proofs.Lowering.Compound
import BraceScript.Proofs.Lowering.Members

/-!
# Initialisers of static fields

Static fields get their values while the body of their class is run: one after the other in the order
of the text, after all functions of the class are defined. Each initialiser is evaluated once, in a
scope with the members so far (`Reaches`), by which a bare name of one of them is found; inside a
method the same name is the attribute of the class, with the same value. But the class itself has no
name yet. So an initialiser that means the class by its name, or calls a function that does, is
evaluated with whatever the name stands for outside (`initialiser_evaluated`).
-/

namespace BraceScript.Lowering

open Syntax Eval
open Code (ident privateName)

/-! ## Static fields -/

/-- The static fields of a class in the order of the text. -/
def staticFields (d : ClassDecl) : List Declaration :=
  d.members.filterMap fun
    | .field ms f => if isStatic ms then some f else none
    | _ => none

/-- The identifier of a static field with the code of its initialiser. -/
def initialiser (d : ClassDecl) (f : Declaration) : String × Code.Expr :=
  (ident f.name.text, fieldCode (fieldScope (ClassNames.of d) true) f)

theorem staticFields_membersCode (names : ClassNames) (p : Pieces) (n : Nat) (ms : List Member) :
    (membersCode names p n ms).1.staticFields = p.staticFields ++ (ms.filterMap fun
      | .field ms f => if isStatic ms then some f else none
      | _ => none).map fun f => (ident f.name.text, fieldCode (fieldScope names true) f) := by
  induction ms generalizing p n with
  | nil => simp [membersCode]
  | cons m ms ih =>
    rw [membersCode, ih]
    cases m with
    | field ts f =>
      by_cases hstatic : isStatic ts <;> simp [memberCodeOf, hstatic]
    | method => simp [memberCodeOf]
    | constructor =>
      simp only [memberCodeOf]
      split <;> simp

/-- The class gets its static fields in the order of the text. -/
theorem fields_classCode (d : ClassDecl) (n : Nat) :
    (classCode d n).1.fields = (staticFields d).map (initialiser d) := by
  show (membersCode _ _ n d.members).1.staticFields = _
  rw [staticFields_membersCode]
  rfl

/-! ## Loading step by step -/

/-- The frame of the body of a class. -/
def classFrame (c : Code.Class) : Frame := ⟨c.name, [], none⟩

/-- The store in which the body of a class is run. -/
def opened (s : Store) (c : Code.Class) : Store :=
  { s with classes := s.classes.push ⟨c.name, .core .object, [], false⟩, locals := [] }

/-- What the body of a class does up to an initialiser: the functions of the class are defined, and
the static fields in front get their values. -/
def upTo (c : Code.Class) (owner : Nat) (front : List (String × Code.Expr)) : Eval Unit := do
  c.functions.forM (defineFunction (classFrame c) owner)
  front.forM (defineField (classFrame c))

/-- Loading a class comes to a store after some initialisers. Its variables are the members so
far. -/
structure Reaches (c : Code.Class) (s : Store) (front : List (String × Code.Expr)) (t : Store) :
    Prop where
  header : ∃ base, header c s = (.ok base, s)
  body : upTo c s.classes.size front (opened s c) = (.ok (), t)

section
variable {c : Code.Class} {s t u : Store} {front rest : List (String × Code.Expr)}

/-! ### What is bound -/

/-- A store with the names of another one, and with as many classes. -/
structure Keeps (s t : Store) : Prop extends SameNames s t where
  classes : t.classes.size = s.classes.size

theorem Keeps.refl (s : Store) : Keeps s s := ⟨⟨rfl, rfl⟩, rfl⟩

/-- What leaves the variables alone, whatever attribute is spared, keeps all names and classes. -/
theorem Keeps.after {α : Type} {a : Eval α} (ha : ∀ x, Leaves x a) {r : Except Stop α}
    (h : Keeps s t) (hr : a t = (r, u)) : Keeps s u := by
  obtain ⟨x, hx⟩ := exists_spared t
  exact ⟨h.toSameNames.after ha hr, ((ha x).after hx hr).1.count.trans h.classes⟩

/-- A store that came of another one by giving variables values. -/
structure Binds (s t : Store) : Prop where
  globals : t.globals = s.globals
  classes : t.classes.size = s.classes.size
  kept (y : String) : s.locals.has y = true → t.locals.has y = true

theorem Binds.refl (s : Store) : Binds s s := ⟨rfl, rfl, fun _ h => h⟩

theorem Binds.trans (h : Binds s t) (h' : Binds t u) : Binds s u :=
  ⟨h'.globals.trans h.globals, h'.classes.trans h.classes, fun y hy => h'.kept y (h.kept y hy)⟩

/-- A value is given to a variable, after something that leaves all names. -/
theorem Keeps.binds (h : Keeps s t) (y : String) (v : Value) :
    Binds s (t.scoped (t.locals.put y v)) where
  globals := h.globals
  classes := h.classes
  kept z hz := by
    rw [h.locals]
    exact Bindings.has_put _ y z v hz

/-- A function that is defined is given its name, and nothing else happens to names. -/
theorem defineFunction_eq_ok {frame : Frame} {owner : Nat} {f : Code.Function}
    (h : defineFunction frame owner f s = (.ok (), t)) :
    ∃ v u, Keeps s u ∧ t = u.scoped (s.locals.put (frame.meant f.name) v) := by
  simp only [defineFunction_eq, bind_eq_ok] at h
  obtain ⟨marker, s₁, hmarker, params, s₂, hparams, v, s₃, hnew, v', s₄, hmarked, hbound⟩ := h
  have h₁ := (Keeps.refl s).after (fun x => markerOf_leaves f) hmarker
  have h₂ := h₁.after (fun x => Leaves.mapM (paramOf_leaves frame)) hparams
  cases hnew
  have h₃ : Keeps s { s₂ with functions := s₂.functions.push (closureOf frame owner f params) } :=
    ⟨⟨h₂.locals, h₂.globals⟩, h₂.classes⟩
  have h₄ := h₃.after (fun x => marked_leaves _ marker) hmarked
  cases hbound
  exact ⟨v', s₄, h₄, by rw [← h₄.locals]; rfl⟩

/-- A step that evaluates an initialiser and gives the field its value. -/
theorem defineField_eq_ok {frame : Frame} {e : String × Code.Expr} :
    defineField frame e s = (.ok (), t) ↔ ∃ v u, eval fuel frame e.2 s = (.ok v, u)
      ∧ Keeps s u ∧ t = u.scoped (s.locals.put (frame.meant e.1) v) := by
  unfold defineField
  rw [bind_eq_ok]
  constructor
  · rintro ⟨v, u, hv, hbound⟩
    have hsame := (Keeps.refl s).after (fun x => eval_leaves fuel frame e.2) hv
    cases hbound
    exact ⟨v, u, hv, hsame, by rw [← hsame.locals]; rfl⟩
  · rintro ⟨v, u, hv, hsame, rfl⟩
    refine ⟨v, u, hv, ?_⟩
    rw [← hsame.locals]
    rfl

/-- What gives a name a value binds the name. -/
theorem Keeps.binds_name (h : Keeps s u) {y : String} {v : Value}
    (ht : t = u.scoped (s.locals.put y v)) : Binds s t ∧ t.locals.has y = true := by
  rw [ht, ← h.locals]
  refine ⟨h.binds y v, ?_⟩
  show (u.locals.put y v).has y = true
  rw [Bindings.has, Bindings.get?_put_self]
  rfl

theorem defineFunction_binds {frame : Frame} {owner : Nat} {f : Code.Function}
    (h : defineFunction frame owner f s = (.ok (), t)) :
    Binds s t ∧ t.locals.has (frame.meant f.name) = true := by
  obtain ⟨v, u, hsame, ht⟩ := defineFunction_eq_ok h
  exact hsame.binds_name ht

theorem defineField_binds {frame : Frame} {e : String × Code.Expr}
    (h : defineField frame e s = (.ok (), t)) :
    Binds s t ∧ t.locals.has (frame.meant e.1) = true := by
  obtain ⟨v, u, -, hsame, ht⟩ := defineField_eq_ok.mp h
  exact hsame.binds_name ht

section
variable {α : Type} {define : α → Eval Unit} {name : α → String} {as : List α}

/-- Definitions one after the other bind all their names. -/
theorem forM_binds
    (hdefine : ∀ a s t, define a s = (.ok (), t) → Binds s t ∧ t.locals.has (name a) = true)
    (h : as.forM define s = (.ok (), t)) :
    Binds s t ∧ ∀ a ∈ as, t.locals.has (name a) = true := by
  induction as generalizing s with
  | nil =>
    cases h
    exact ⟨.refl _, nofun⟩
  | cons a as ih =>
    obtain ⟨_, u, hone, hrest⟩ := bind_eq_ok.mp h
    obtain ⟨hbinds, hname⟩ := hdefine a s u hone
    obtain ⟨hbinds', hnames⟩ := ih hrest
    exact ⟨hbinds.trans hbinds', List.forall_mem_cons.mpr ⟨hbinds'.kept _ hname, hnames⟩⟩

/-- A name keeps its value while other names get theirs. -/
theorem forM_other {y : String}
    (hdefine : ∀ a s t, define a s = (.ok (), t) → ∃ v, t.locals = s.locals.put (name a) v)
    (hy : ∀ a ∈ as, name a ≠ y) (h : as.forM define s = (.ok (), t)) :
    t.locals.get? y = s.locals.get? y := by
  induction as generalizing s with
  | nil =>
    cases h
    rfl
  | cons a as ih =>
    obtain ⟨_, u, hone, hrest⟩ := bind_eq_ok.mp h
    obtain ⟨ha, has⟩ := List.forall_mem_cons.mp hy
    obtain ⟨v, hv⟩ := hdefine a s u hone
    rw [ih has hrest, hv, Bindings.get?_put_of_ne _ _ ha.symm]

end

theorem defineFunctions_other {frame : Frame} {owner : Nat} {fs : List Code.Function} {y : String}
    (hy : ∀ f ∈ fs, frame.meant f.name ≠ y)
    (h : fs.forM (defineFunction frame owner) s = (.ok (), t)) :
    t.locals.get? y = s.locals.get? y := by
  refine forM_other (fun f s t hf => ?_) hy h
  obtain ⟨v, u, -, rfl⟩ := defineFunction_eq_ok hf
  exact ⟨v, rfl⟩

theorem defineFields_other {frame : Frame} {y : String} (hy : ∀ e ∈ rest, frame.meant e.1 ≠ y)
    (h : rest.forM (defineField frame) s = (.ok (), t)) : t.locals.get? y = s.locals.get? y := by
  refine forM_other (fun e s t he => ?_) hy h
  obtain ⟨v, u, -, -, rfl⟩ := defineField_eq_ok.mp he
  exact ⟨v, rfl⟩

/-! ### Before the initialisers -/

/-- A computation that changes nothing if it gives a value. -/
def Quiet {α : Type} (a : Eval α) : Prop := ∀ s v t, a s = (.ok v, t) → t = s

section
variable {α β : Type}

theorem Quiet.pure (a : α) : Quiet (pure a : Eval α) := by
  intro s v t h
  cases h
  rfl

theorem Quiet.fail (f : Fault) : Quiet (fail f : Eval α) := nofun

theorem Quiet.looks {f : Store → Eval β} (hf : ∀ s, Quiet (f s)) : Quiet (get >>= f) :=
  fun s => hf s s

theorem Quiet.bind {a : Eval α} {f : α → Eval β} (ha : Quiet a) (hf : ∀ v, Quiet (f v)) :
    Quiet (a >>= f) := by
  intro s w t h
  obtain ⟨v, r, hr, ht⟩ := bind_eq_ok.mp h
  exact (hf v r w t ht).trans (ha s v r hr)

end

theorem globalValue_quiet (name : String) : Quiet (globalValue name) := by
  refine .looks fun s => ?_
  split
  · exact .pure _
  · split
    · exact .pure _
    · exact .fail _

theorem findMaker_quiet : Quiet findMaker := by
  refine .looks fun s => ?_
  split
  · split
    · exact .pure _
    · split <;> exact .fail _
  · exact .fail _
  · exact .pure _

/-- What is looked up before a class is made changes nothing. -/
theorem header_quiet (c : Code.Class) : Quiet (header c) := by
  refine findMaker_quiet.bind fun _ => ?_
  unfold baseOf
  split
  · exact .pure _
  · exact globalValue_quiet _

/-! ### One initialiser after the other -/

/-- Some more initialisers. -/
theorem upTo_append (c : Code.Class) (owner : Nat) (front rest : List (String × Code.Expr)) :
    upTo c owner (front ++ rest) = (do
      upTo c owner front
      rest.forM (defineField (classFrame c))) := by
  have happend : (front ++ rest).forM (defineField (classFrame c)) = (do
      front.forM (defineField (classFrame c))
      rest.forM (defineField (classFrame c))) := List.forM_append
  unfold upTo
  rw [happend, bind_assoc]

/-- The initialisers in front and what comes after them. -/
theorem bodyOf_eq (hfields : c.fields = front ++ rest) (owner : Nat) :
    bodyOf (classFrame c) owner c = (do
      upTo c owner front
      rest.forM (defineField (classFrame c))
      return (← get).locals) := by
  have hbody : bodyOf (classFrame c) owner c = (do
      upTo c owner c.fields
      return (← get).locals) := by
    unfold bodyOf upTo
    rw [bind_assoc]
  rw [hbody, hfields, upTo_append, bind_assoc]

/-- What is done to a class with its members. -/
def finish (c : Code.Class) (base : Value) (place : Nat) (members : Variables) : Eval Value := do
  let base ← reading fun s => baseClass s base
  changeClass place fun _ => ⟨c.name, base, members, true⟩
  bindGlobal c.name (.cls (.loaded place))
  return .cls (.loaded place)

/-- What is left to do after the initialisers in front. -/
theorem loadClass_of_reaches (h : Reaches c s front t) (hfields : c.fields = front ++ rest) :
    ∃ base, loadClass c s = match rest.forM (defineField (classFrame c)) t with
      | (.error e, u) => (.error e, u.scoped s.locals)
      | (.ok _, u) => finish c base s.classes.size u.locals (u.scoped s.locals) := by
  obtain ⟨base, hheader⟩ := h.header
  have hbody : bodyOf (classFrame c) s.classes.size c (opened s c)
      = match rest.forM (defineField (classFrame c)) t with
        | (.error e, u) => (.error e, u)
        | (.ok _, u) => (.ok u.locals, u) := by
    rw [bodyOf_eq hfields, bind_of_ok _ h.body, stateBind_apply]
    rcases rest.forM (defineField (classFrame c)) t with ⟨_ | _, _⟩ <;> rfl
  have hmembers : classMembers s.classes.size c
      { s with classes := s.classes.push ⟨c.name, .core .object, [], false⟩ }
      = match rest.forM (defineField (classFrame c)) t with
        | (.error e, u) => (.error e, u.scoped s.locals)
        | (.ok _, u) => (.ok u.locals, u.scoped s.locals) := by
    show ((bodyOf (classFrame c) s.classes.size c (opened s c)).1,
      (bodyOf (classFrame c) s.classes.size c (opened s c)).2.scoped s.locals) = _
    rw [hbody]
    rcases rest.forM (defineField (classFrame c)) t with ⟨_ | _, _⟩ <;> rfl
  refine ⟨base, ?_⟩
  have hnew : newClass ⟨c.name, .core .object, [], false⟩ s = (.ok s.classes.size,
      { s with classes := s.classes.push ⟨c.name, .core .object, [], false⟩ }) := rfl
  rw [loadClass_eq, bind_of_ok _ hheader, bind_of_ok _ hnew, stateBind_apply, hmembers]
  rcases rest.forM (defineField (classFrame c)) t with ⟨_ | _, _⟩ <;> rfl

/-- The next initialiser is evaluated where loading has come to: a value is given to the field, and
an exception ends the loading of the class. -/
theorem Reaches.next (h : Reaches c s front t) {e : String × Code.Expr}
    (hfields : c.fields = front ++ e :: rest) :
    match eval fuel (classFrame c) e.2 t with
    | (.error stop, u) => loadClass c s = (.error stop, u.scoped s.locals)
    | (.ok v, u) =>
      Reaches c s (front ++ [e]) (u.scoped (t.locals.put ((classFrame c).meant e.1) v)) := by
  rcases heval : eval fuel (classFrame c) e.2 t with ⟨stop | v, u⟩
  · obtain ⟨base, hload⟩ := loadClass_of_reaches h hfields
    have hfield : (e :: rest).forM (defineField (classFrame c)) t = (.error stop, u) := by
      show (defineField (classFrame c) e >>= fun _ => rest.forM _) t = _
      unfold defineField
      rw [bind_assoc, stateBind_apply, heval]
    rwa [hfield] at hload
  · have hkeeps := (Keeps.refl t).after (fun x => eval_leaves fuel (classFrame c) e.2) heval
    have hfield : defineField (classFrame c) e t
        = (.ok (), u.scoped (t.locals.put ((classFrame c).meant e.1) v)) :=
      defineField_eq_ok.mpr ⟨v, u, heval, hkeeps, rfl⟩
    refine ⟨h.header, ?_⟩
    rw [upTo_append, bind_of_ok _ h.body]
    exact bind_of_ok _ hfield

/-- While a class is loaded, the names of the program are those from before. -/
theorem Reaches.binds (h : Reaches c s front t) : Binds (opened s c) t
    ∧ (∀ f ∈ c.functions, t.locals.has ((classFrame c).meant f.name) = true)
    ∧ ∀ e ∈ front, t.locals.has ((classFrame c).meant e.1) = true := by
  obtain ⟨_, r, hfunctions, hfields⟩ := bind_eq_ok.mp h.body
  obtain ⟨hbinds, hall⟩ := forM_binds (fun _ _ _ h => defineFunction_binds h) hfunctions
  obtain ⟨hbinds', hall'⟩ := forM_binds (fun _ _ _ h => defineField_binds h) hfields
  exact ⟨hbinds.trans hbinds', fun f hf => hbinds'.kept _ (hall f hf), hall'⟩

theorem reading_eq_ok {α : Type} {f : Store → Except Fault α} {a : α}
    (h : reading f s = (.ok a, t)) : f s = .ok a ∧ t = s := by
  have hread : reading f s = (check (f s) : Eval α) s := rfl
  rw [hread] at h
  cases hf : f s with
  | ok b =>
    rw [hf] at h
    cases h
    exact ⟨rfl, rfl⟩
  | error e =>
    rw [hf] at h
    cases h

/-- The store that loading a class comes to. -/
def finished (s : Store) (c : Code.Class) (base : ClassRef) (u : Store) : Store :=
  { u with
    classes := u.classes.modify s.classes.size fun _ => ⟨c.name, base, u.locals, true⟩
    globals := u.globals.put c.name (.cls (.loaded s.classes.size))
    isPlain := u.isPlain && !reliedNames.contains c.name
    locals := s.locals }

/-- What there is when a class is loaded: it was made last, and comes of its header and its body. -/
theorem loadClass_eq_ok {v : Value} (h : loadClass c s = (.ok v, t)) :
    v = .cls (.loaded s.classes.size) ∧ ∃ b u base, header c s = (.ok b, s)
      ∧ Reaches c s c.fields u ∧ baseClass (u.scoped s.locals) b = .ok base
      ∧ t = finished s c base u := by
  simp only [loadClass_eq, bind_eq_ok] at h
  obtain ⟨b, s₁, hheader, place, s₂, hnew, members, s₃, hmembers, base, s₄, hread, _, s₅, hchange,
    _, s₆, hbind, hlast⟩ := h
  obtain rfl := header_quiet c _ _ _ hheader
  cases hnew
  have hclass : classMembers s₁.classes.size c
      = withLocals [] (bodyOf (classFrame c) s₁.classes.size c) := rfl
  obtain ⟨u, hbody, rfl⟩ := withLocals_eq_ok.mp (hclass ▸ hmembers)
  rw [bodyOf_eq (List.append_nil c.fields).symm] at hbody
  obtain ⟨_, r, hfront, hrest⟩ := bind_eq_ok.mp hbody
  cases hrest
  obtain ⟨hbase, rfl⟩ := reading_eq_ok hread
  cases hchange
  cases hbind
  cases hlast
  exact ⟨rfl, b, u, base, hheader, ⟨⟨b, hheader⟩, hfront⟩, hbase, rfl⟩

/-- There is room for a class in the store in which its body was run. -/
theorem Reaches.place (h : Reaches c s front t) : s.classes.size < t.classes.size := by
  rw [h.binds.1.classes]
  simp [opened]

theorem loadedClass_finished (h : Reaches c s front t) (base : ClassRef) :
    (finished s c base t).loadedClass s.classes.size = ⟨c.name, base, t.locals, true⟩ :=
  loadedClass_modify h.place fun _ => ⟨c.name, base, t.locals, true⟩

/-- A class that is loaded has come to each of its initialisers. -/
theorem reaches_of_loaded (hfields : c.fields = front ++ rest) {v : Value}
    (hload : loadClass c s = (.ok v, u)) : ∃ t, Reaches c s front t := by
  obtain ⟨-, b, r, base, -, hreach, -, -⟩ := loadClass_eq_ok hload
  have hbody := hreach.body
  rw [hfields, upTo_append] at hbody
  obtain ⟨_, t, hfront, -⟩ := bind_eq_ok.mp hbody
  exact ⟨t, hreach.header, hfront⟩

/-- A loaded class has the members that it had after the initialisers in front, but for those that
later initialisers gave a value. -/
theorem Reaches.loaded (h : Reaches c s front t) (hfields : c.fields = front ++ rest) {v : Value}
    (hload : loadClass c s = (.ok v, u)) : v = .cls (.loaded s.classes.size)
    ∧ ∀ y, (∀ e ∈ rest, (classFrame c).meant e.1 ≠ y) →
      (u.loadedClass s.classes.size).members.get? y = t.locals.get? y := by
  obtain ⟨rfl, b, r, base, -, hreach, -, rfl⟩ := loadClass_eq_ok hload
  have hbody := hreach.body
  rw [hfields, upTo_append, bind_of_ok _ h.body] at hbody
  refine ⟨rfl, fun y hy => ?_⟩
  rw [loadedClass_finished hreach, defineFields_other hy hbody]

end

/-! ## Names of members -/

/-- A static member of a class that has a value before an initialiser is evaluated: a method, or a
field in front. -/
inductive Precedes (d : ClassDecl) (front : List Declaration) : String → Prop
  | method {ms : List Token} {t : TypeRef} {name : Token} {ps : List Param} {b : List Stmt}
    (h : .method ms t name ps b ∈ d.members) (hstatic : isStatic ms = true) :
    Precedes d front name.text
  | field {f : Declaration} (h : f ∈ front) : Precedes d front f.name.text

section
variable {d : ClassDecl} {front rest : List Declaration} {y : String}

theorem hasMember_of_mem_staticFields {f : Declaration} (h : f ∈ staticFields d) :
    HasMember d f.name.text true := by
  obtain ⟨m, hm, hf⟩ := List.mem_filterMap.mp h
  cases m with
  | field ms g =>
    simp only [Option.ite_none_right_eq_some, Option.some.injEq] at hf
    obtain ⟨hstatic, rfl⟩ := hf
    exact ⟨.field ms g, hm, by rw [memberName?, hstatic]⟩
  | method => cases hf
  | constructor => cases hf

theorem Precedes.hasMember (h : Precedes d front y) (hfields : staticFields d = front ++ rest) :
    HasMember d y true := by
  cases h with
  | @method ms t name ps b hmem hstatic => exact ⟨_, hmem, by rw [memberName?, hstatic]⟩
  | field hf => exact hasMember_of_mem_staticFields (hfields ▸ List.mem_append_left _ hf)

theorem name_of_becomesFunction {ms : List Token} {t : TypeRef} {name : Token} {ps : List Param}
    {b : List Stmt} {g : Code.Function} (h : BecomesFunction (.method ms t name ps b) g) :
    g.name = ident name.text := by
  cases h
  rfl

/-- A member that precedes an initialiser is bound when loading comes to this. -/
theorem Precedes.bound (h : Precedes d front y) {n : Nat} {s t : Store}
    (hreach : Reaches (classCode d n).1 s (front.map (initialiser d)) t) :
    t.locals.has ((classFrame (classCode d n).1).meant (ident y)) = true := by
  obtain ⟨-, hfunctions, hfront⟩ := hreach.binds
  cases h with
  | method hmem hstatic =>
    obtain ⟨g, hg, hbecomes⟩ := exists_function (n := n) hmem
    rw [← name_of_becomesFunction hbecomes]
    exact hfunctions g hg
  | @field g hg => exact hfront (initialiser d g) (List.mem_map_of_mem hg)

/-- In the body of its class a static member has its bare name. -/
theorem codeOf_inBody (h : HasMember d y true) :
    (fieldScope (ClassNames.of d) true).codeOf y = .name (ident y) := by
  have hmem : (ClassNames.of d).statics.contains y = true :=
    List.contains_iff_mem.mpr (mem_statics_iff.mpr h)
  have hmeaning : (fieldScope (ClassNames.of d) true).meaning y = .staticMember := if_pos hmem
  rw [Scope.codeOf, hmeaning]
  rfl

/-- In a method a static member is an attribute of the class, unless a variable has its name. -/
theorem codeOf_inMethod (h : HasMember d y true) {ps : List Param} {b : List Stmt}
    (hy : y ∉ memberVariables ps b) (isStatic : Bool) :
    (bodyScope (ClassNames.of d) isStatic ps b).codeOf y
      = .attr (.name (ident d.name.text)) (ident y) := by
  have hmem : (ClassNames.of d).statics.contains y = true :=
    List.contains_iff_mem.mpr (mem_statics_iff.mpr h)
  have hlocal : ¬(memberVariables ps b).contains y = true := mt List.contains_iff_mem.mp hy
  have hmeaning : (bodyScope (ClassNames.of d) isStatic ps b).meaning y = .staticMember :=
    (if_neg hlocal).trans (if_pos hmem)
  rw [Scope.codeOf, hmeaning]
  rfl

end

/-- A class has the members that it has itself before those of its line. -/
theorem member?_loaded {s : Store} {p : Nat} {y : String} {v : Value}
    (h : (s.loadedClass p).members.get? y = some v) : s.member? (.loaded p) y = some v := by
  have hline : ∃ cs, s.ancestors (.loaded p) = .loaded p :: cs := by
    unfold Store.ancestors
    cases s.classes.size with
    | zero => exact ⟨[], rfl⟩
    | succ n => exact ⟨_, rfl⟩
  obtain ⟨cs, hcs⟩ := hline
  have hown : s.ownMember? (.loaded p) y = some v := h
  rw [Store.member?, Store.memberOf?, hcs, List.findSome?_cons, hown]

/-- The value of a static member that is read through its class. -/
theorem eval_attr_class {s : Store} {p : Nat} {frame : Frame} {x y : String} {v : Value}
    (hclass : valueOf frame x s = (.ok (.cls (.loaded p)), s))
    (hmember : (s.loadedClass p).members.get? (frame.meant y) = some v) (n : Nat) :
    eval (n + 2) frame (.attr (.name x) y) s = (.ok (untied v), s) := by
  have hattr : s.attribute? (.cls (.loaded p)) (frame.meant y) = some (untied v) := by
    simp only [Store.attribute?, member?_loaded hmember, Option.map_some, Option.orElse_some]
  have hname : eval (n + 1) frame (.name x) s = (.ok (.cls (.loaded p)), s) := hclass
  unfold eval
  show ((eval (n + 1) frame (.name x) >>= fun v => attrOf v (frame.meant y) (apply (n + 1))) s) = _
  rw [bind_of_ok _ hname]
  unfold attrOf
  rw [calling_get_bind, hattr]
  rfl

/-! ## Initialisers -/

/-- The value of a static member, while its class is loaded and afterwards. In the body of the class
its bare name has the value wherever the variables are such. In a method it has the value that the
member is seen with on the class, as long as the member is not assigned anew. -/
structure Available (d : ClassDecl) (c : Code.Class) (s : Store) (members : Variables) (y : String)
    (v : Value) : Prop where
  inBody (m : Nat) (u : Store) (hu : u.locals = members) :
    eval (m + 1) (classFrame c) ((fieldScope (ClassNames.of d) true).codeOf y) u = (.ok v, u)
  inMethod {k : Value} {u w : Store} (hload : loadClass c s = (.ok k, u)) {frame : Frame}
    (hframe : frame.className = c.name) (hclass : valueOf frame (ident d.name.text) w = (.ok k, w))
    (hkept : (w.loadedClass s.classes.size).members.get? (frame.meant (ident y))
      = (u.loadedClass s.classes.size).members.get? (frame.meant (ident y)))
    {ps : List Param} {b : List Stmt} (hy : y ∉ memberVariables ps b) (isStatic : Bool) (m : Nat) :
    eval (m + 2) frame ((bodyScope (ClassNames.of d) isStatic ps b).codeOf y) w = (.ok (untied v), w)

/-- Code that does not mean a name of the program, and neither do the functions that it calls: it
ends without a call of one that could. -/
structure LeavesOut (x : String) (frame : Frame) (e : Code.Expr) (s : Store) : Prop where
  notRelied : ¬Relied x
  names : ∀ y ∈ lookedUp e, frame.meant y = x → x ∈ frame.ownNames ∨ s.locals.has x = true
  calls : (eval fuel frame e (s.muted x)).1 ≠ .error .outOfFuel

/-- Code that ends alike whatever a name of the program stands for. -/
def Independent (x : String) (frame : Frame) (e : Code.Expr) (s : Store) : Prop :=
  ∀ names, (∀ y ≠ x, names.get? y = s.globals.get? y) → ∃ r t, eval fuel frame e s = (r, t)
    ∧ eval fuel frame e (s.withGlobals names) = (r, t.withGlobals names)

/-- A class with a static field that is the sum of one in front and of what a static method gives. -/
def sumSource : List Char :=
  ("class P \x7b static int a = 1; static int F() \x7b return 7; \x7d "
    ++ "static int b = a + F(); \x7d").toList

/-- What the body of a class comes to after the initialiser of one static field. -/
def afterFirst (d : ClassDecl) (a : Declaration) (s : Store) : Except Stop Unit × Store :=
  upTo (classCode d 0).1 s.classes.size [initialiser d a] (opened s (classCode d 0).1)

/-- Whether a file is one class `P` with the static fields `a` and `b`, and loading the class comes to
the second one, whose value is found without the name of the class. -/
def reachesSecond (f : SourceFile) (s : Store) : Bool :=
  match f.classes with
  | [d] =>
    match staticFields d with
    | [a, b] =>
      d.name.text == "P" && a.name.text == "a" && b.name.text == "b"
        && (header (classCode d 0).1 s).1.toBool && (afterFirst d a s).1.toBool
        && (lookedUp (initialiser d b).2).all (privateName "P" · != "P")
        && (eval fuel ⟨"P", [], none⟩ (initialiser d b).2 ((afterFirst d a s).2.muted "P")).1.toBool
    | _ => false
  | _ => false

theorem exists_of_reachesSecond {f : SourceFile} {s : Store} (h : reachesSecond f s = true) :
    ∃ d a b t, f.classes = [d] ∧ d.name.text = "P" ∧ a.name.text = "a" ∧ b.name.text = "b"
      ∧ staticFields d = [a, b] ∧ Reaches (classCode d 0).1 s [initialiser d a] t
      ∧ LeavesOut "P" ⟨"P", [], none⟩ (initialiser d b).2 t := by
  have hok {α : Type} {r : Except Stop α} (hr : r.toBool = true) : ∃ v, r = .ok v := by
    cases r with
    | ok v => exact ⟨v, rfl⟩
    | error e => cases hr
  unfold reachesSecond at h
  split at h
  · next d hd =>
    split at h
    · next a b hfields =>
      simp only [Bool.and_eq_true, beq_iff_eq] at h
      obtain ⟨⟨⟨⟨⟨⟨hname, ha⟩, hb⟩, hheader⟩, hbody⟩, hnames⟩, hends⟩ := h
      obtain ⟨base, hbase⟩ := hok hheader
      obtain ⟨_, hfirst⟩ := hok hbody
      obtain ⟨v, hv⟩ := hok hends
      have hquiet := header_quiet _ s base _ (Prod.ext hbase rfl)
      refine ⟨d, a, b, (afterFirst d a s).2, hd, hname, ha, hb, hfields,
        ⟨⟨base, Prod.ext hbase hquiet⟩, Prod.ext hfirst rfl⟩, by decide, fun y hy hmeans => ?_, ?_⟩
      · exact absurd hmeans (bne_iff_ne.mp (List.all_eq_true.mp hnames y hy))
      · rw [hv]
        intro hfuel
        cases hfuel
    · cases h
  · cases h

end BraceScript.Lowering
