import BraceScript.Proofs.Eval.Creation
import BraceScript.Proofs.Eval.Later
import BraceScript.Proofs.Lowering.Identifiers

/-!
# Chains of script classes

A program is loaded bases first, so when a class is loaded the name in its header is that of the
class it derives from, and the line of the new class is a chain with that class behind it
(`Stands`). Code that runs and classes that are loaded afterwards leave the chain as it is, as long
as nothing gives a value to the members by which objects are made. So every line of script classes
stands when its last class is loaded (`Progress`), and an object of that class is made by what the
classes of the line contribute, from the root down: the instance fields get their values in the
order of the text, and then the body of the constructor is run (`creation_runs`).
-/

namespace BraceScript.Eval

open Code (ident privateName selfName)
open Lowering
open Syntax (ClassDecl Member)
open Program (namesOf namesOf_append BasesFirst)

/-! ## What a class contributes -/

/-- The statements that a class contributes to a new object: its instance fields get their values in
the order of the text, and then comes the body of its constructor; `k` is the number of flags used
before the constructor. -/
def shareSteps (c : ClassDecl) (k : Nat) : List Code.Stmt :=
  (instanceFields c.members).map (fieldSet (ClassNames.of c))
    ++ (firstConstructor? c.members).elim [] fun r => (constructorCode (ClassNames.of c) k r).2

/-- Whether a class contributes anything: it has an instance field or a constructor. -/
def contributes (c : ClassDecl) : Bool :=
  (firstConstructor? c.members).isSome || !(instanceFields c.members).isEmpty

/-- What stands in front of it in the initialiser. -/
def frontOf (c : ClassDecl) : List Code.Stmt := if c.base.isSome then [baseInit] else []

/-- What a class contributes: its statements, in a frame of the class. -/
structure IsShareOf (c : ClassDecl) (sh : Share) : Prop where
  steps : ∃ k, sh.steps = shareSteps c k
  frame : ∃ place, sh.frame = ⟨ident c.name.text,
    (selfName :: assignedAll sh.steps).map (privateName (ident c.name.text)), some (place, selfName)⟩

/-- What a class contributes, if it does. -/
inductive Shares (c : ClassDecl) : Option Share → Prop
  | nothing (h : contributes c = false) : Shares c none
  | share {sh : Share} (h : contributes c = true) (hsh : IsShareOf c sh) : Shares c (some sh)

/-- The body of the initialiser is the call of the one behind and what the class contributes. -/
theorem samePass_of_trimsTo {c : ClassDecl} {k : Nat} {body : List Code.Stmt}
    (h : TrimsTo (initBody c k) body) : SamePass (frontOf c ++ shareSteps c k) body := by
  unfold initBody at h
  unfold shareSteps frontOf
  cases hconstructor : firstConstructor? c.members with
  | none =>
    rw [hconstructor] at h
    rw [Option.elim_none, List.append_nil]
    cases h with
    | whole => exact .more _
    | dropped h => exact List.append_cancel_right h ▸ .same _
  | some r =>
    rw [hconstructor] at h
    rw [Option.elim_some, ← List.append_assoc]
    cases h with
    | whole => exact .same _
    | dropped h => exact h ▸ .less _

theorem assignedAll_initBody (c : ClassDecl) (k : Nat) :
    assignedAll (initBody c k) = assignedAll (shareSteps c k) := by
  unfold initBody shareSteps
  cases firstConstructor? c.members <;> cases c.base
    <;> simp [assignedAll_append, baseInit, assignedAll, assigned]

/-! ## Loaded classes -/

/-- A class without a member of the names that making an object looks up, and with a constructor
without parameters, if any. -/
structure Simple (c : ClassDecl) : Prop where
  members : ∀ m ∈ c.members, ∀ y ∈ memberName? m, y.1 ≠ initName ∧ y.1 ≠ makerName
  params : initParams c = []

instance (c : ClassDecl) : Decidable (Simple c) :=
  decidable_of_iff ((∀ m ∈ c.members, ∀ y ∈ memberName? m, y.1 ≠ initName ∧ y.1 ≠ makerName)
    ∧ (initParams c).isEmpty = true)
    ⟨fun h => ⟨h.1, List.isEmpty_iff.mp h.2⟩, fun h => ⟨h.members, List.isEmpty_iff.mpr h.params⟩⟩

section
variable {c : ClassDecl} {n : Nat} {y : String} {s t u : Store} {v : Value}

theorem storedName_eq_makerName_iff : Entry.storedName c y = makerName ↔ y = makerName :=
  storedName_eq_iff (by decide +kernel) (by decide +kernel) (by decide +kernel)

theorem Simple.method (h : Simple c) {m : Member} {f : Code.Function} (hm : m ∈ c.members)
    (hf : BecomesFunction m f) : (classFrame (classCode c n).1).meant f.name ≠ initName
      ∧ (classFrame (classCode c n).1).meant f.name ≠ makerName := by
  cases hf with
  | method =>
    exact (h.members _ hm _ rfl).imp (mt storedName_eq_initName_iff.mp)
      (mt storedName_eq_makerName_iff.mp)

theorem meant_initName (frame : Frame) : frame.meant initName = initName :=
  Entry.privateName_init frame.className

theorem Simple.function (h : Simple c) {f : Code.Function} (hf : f ∈ (classCode c n).1.functions) :
    (classFrame (classCode c n).1).meant f.name ≠ makerName := by
  obtain ⟨methods, inits, hfunctions, hmethods, hinits⟩ := exists_initialiser c n
  rw [hfunctions] at hf
  rcases List.mem_append.mp hf with hf | hf
  · obtain ⟨m, hm, hbecomes⟩ := hmethods f hf
    exact (h.method hm hbecomes).2
  · rcases hinits with ⟨rfl, -⟩ | ⟨-, k, body, -, rfl⟩
    · cases hf
    · obtain rfl := List.mem_singleton.mp hf
      exact ne_of_eq_of_ne (meant_initName _) (by decide)

theorem Simple.field (h : Simple c) {e : String × Code.Expr} (he : e ∈ (classCode c n).1.fields) :
    (classFrame (classCode c n).1).meant e.1 ≠ initName
      ∧ (classFrame (classCode c n).1).meant e.1 ≠ makerName := by
  rw [fields_classCode] at he
  obtain ⟨f, hf, rfl⟩ := List.mem_map.mp he
  obtain ⟨m, hm, hname⟩ := hasMember_of_mem_staticFields hf
  exact (h.members m hm _ hname).imp (mt storedName_eq_initName_iff.mp)
    (mt storedName_eq_makerName_iff.mp)

/-- A function that initialises objects is defined as it stands. -/
theorem defineFunction_init (frame : Frame) (owner : Nat) (body : List Code.Stmt) (s : Store) :
    defineFunction frame owner ⟨initName, [selfParam], false, body⟩ s = (.ok (), { s with
      functions := s.functions.push
        (closureOf frame owner ⟨initName, [selfParam], false, body⟩ [(frame.meant selfName, none)])
      locals := s.locals.put (frame.meant initName) (.function s.functions.size) }) := by
  rw [defineFunction_eq]
  rfl

theorem meant_selfName (frame : Frame) : frame.meant selfName = selfName :=
  privateName_of_not_private (by decide +kernel)

/-- The function does what the class contributes. -/
theorem initialises_closureOf (c : ClassDecl) (owner k : Nat) {body : List Code.Stmt}
    (h : TrimsTo (initBody c k) body) : ∃ sh, IsShareOf c sh
      ∧ Initialises (closureOf (classFrame (classCode c n).1) owner
        ⟨initName, [selfParam], false, body⟩ [(selfName, none)]) owner (frontOf c) sh := by
  refine ⟨⟨_, shareSteps c k⟩, ⟨⟨k, rfl⟩, owner, ?_⟩, ⟨rfl, rfl, rfl, samePass_of_trimsTo h⟩⟩
  rw [← assignedAll_initBody, ← h.assigned]
  rfl

/-- The members of a class by which objects are made, when the class is loaded. -/
structure HasMembers (c : ClassDecl) (s : Store) (place : Nat) : Prop where
  maker : (s.loadedClass place).members.get? makerName = none
  init : ∃ share?, Shares c share?
    ∧ HasInit s place (frontOf c) share? ((s.loadedClass place).members.get? initName)
  placed (q : Nat) (h : (s.loadedClass place).members.get? initName = some (.function q)) :
    q < s.functions.size

/-- After the functions of a class are defined, the initialiser is there if the class contributes
anything. -/
theorem functions_init (h : Simple c) {owner : Nat} (hnone : s.locals.get? initName = none)
    (hdefined : (classCode c n).1.functions.forM
      (defineFunction (classFrame (classCode c n).1) owner) s = (.ok (), t)) :
    ∃ share?, Shares c share? ∧ HasInit t owner (frontOf c) share? (t.locals.get? initName)
      ∧ ∀ q, t.locals.get? initName = some (.function q) → q < t.functions.size := by
  let frame := classFrame (classCode c n).1
  obtain ⟨methods, inits, hfunctions, hmethods, hinits⟩ := exists_initialiser c n
  have hmethod : ∀ f ∈ methods, frame.meant f.name ≠ initName := by
    intro f hf
    obtain ⟨m, hm, hbecomes⟩ := hmethods f hf
    exact (h.method hm hbecomes).1
  have happend : (methods ++ inits).forM (defineFunction frame owner) = (do
      methods.forM (defineFunction frame owner)
      inits.forM (defineFunction frame owner)) := List.forM_append
  rw [hfunctions, happend] at hdefined
  obtain ⟨_, r, hfirst, hrest⟩ := bind_eq_ok.mp hdefined
  rcases hinits with ⟨rfl, hconstructor, hfields⟩ | ⟨hsome, k, body, htrims, rfl⟩
  · cases hrest
    rw [defineFunctions_other hmethod hfirst, hnone]
    exact ⟨none, .nothing (by simp [contributes, hconstructor, hfields]), .none, nofun⟩
  · rw [h.params] at hrest
    obtain ⟨_, r', hone, hlast⟩ := bind_eq_ok.mp hrest
    cases hlast
    cases (defineFunction_init frame owner body r).symm.trans hone
    obtain ⟨sh, hsh, hinit⟩ := initialises_closureOf (n := n) c owner k htrims
    have hfound : (r.locals.put (frame.meant initName) (.function r.functions.size)).get? initName
        = some (.function r.functions.size) := by
      rw [meant_initName, Bindings.get?_put_self]
    rw [meant_selfName]
    refine ⟨some sh, .share ?_ hsh, ?_, ?_⟩
    · simpa [contributes] using hsome
    · rw [hfound]
      refine .function ?_
      simpa [Store.function] using hinit
    · intro q hq
      cases hfound.symm.trans hq
      simp

/-- What a class is loaded with. -/
theorem hasMembers_of_loaded (h : Simple c) (hc : SparedBy initName (classCode c n).1)
    (hs : Spared initName s) (hload : loadClass (classCode c n).1 s = (.ok v, t)) :
    HasMembers c t s.classes.size := by
  obtain ⟨-, b, u, base, -, hreach, -, rfl⟩ := loadClass_eq_ok hload
  have hmembers : ((finished s (classCode c n).1 base u).loadedClass s.classes.size).members
      = u.locals := congrArg ClassInfo.members (loadedClass_finished hreach base)
  obtain ⟨_, r, hfunctions, hfields⟩ := bind_eq_ok.mp hreach.body
  have hfield (y : String) (hy : ∀ e ∈ (classCode c n).1.fields,
      (classFrame (classCode c n).1).meant e.1 ≠ y) : u.locals.get? y = r.locals.get? y :=
    defineFields_other hy hfields
  obtain ⟨share?, hshares, hinit, hplaced⟩ := functions_init h rfl hfunctions
  rw [← hfield initName fun e he => (h.field he).1] at hinit hplaced
  have hspared : Spared initName r := ((defineFunctions_proceeds hc _).after
    (s := opened s (classCode c n).1) ⟨hs.writer, hs.functions⟩ hfunctions).2
  have hlater : Later initName r u := ((defineFields_proceeds _ _).after hspared hfields).1
  refine ⟨?_, ⟨share?, hshares, ?_⟩, ?_⟩
  · rw [hmembers, hfield makerName fun e he => (h.field he).2]
    exact defineFunctions_other (fun f hf => h.function hf) hfunctions
  · rw [hmembers]
    exact hinit.kept fun q hq => hlater.function q (hplaced q hq)
  · rw [hmembers]
    exact fun q hq => (hplaced q hq).trans_le hlater.functions

/-- What a loaded class derives from. -/
theorem base_of_loaded {k : Code.Class} (hload : loadClass k s = (.ok v, t)) :
    ∃ b r base, baseOf k s = (.ok b, s) ∧ baseClass r b = .ok base
      ∧ (t.loadedClass s.classes.size).base = base
      ∧ (t.loadedClass s.classes.size).isBuilt = true ∧ s.classes.size < t.classes.size
      ∧ t.globals = s.globals.put k.name (.cls (.loaded s.classes.size)) := by
  obtain ⟨-, b, u, base, hheader, hreach, hbase, rfl⟩ := loadClass_eq_ok hload
  obtain ⟨_, r, hmaker, hb⟩ := bind_eq_ok.mp hheader
  obtain rfl := findMaker_quiet _ _ _ hmaker
  have hclass := loadedClass_finished hreach base
  have hglobals : u.globals = r.globals := hreach.binds.1.globals
  refine ⟨b, _, base, hb, hbase, by rw [hclass], by rw [hclass], ?_, ?_⟩
  · simpa [finished] using hreach.place
  · show u.globals.put _ _ = _
    rw [hglobals]

end

/-! ## Lines of script classes -/

/-- A script class and the classes behind it in its line: the last one has no base, and each of the
others derives from the one behind it. -/
inductive Derives : ClassDecl → List ClassDecl → Prop
  | root {c : ClassDecl} (h : c.base = none) : Derives c []
  | derived {c c' : ClassDecl} {cs : List ClassDecl} {b : Syntax.Token} (h : c.base = some b)
    (hb : b.text = c'.name.text) (hrest : Derives c' cs) : Derives c (c' :: cs)

instance : (c : ClassDecl) → (cs : List ClassDecl) → Decidable (Derives c cs)
  | c, [] => decidable_of_iff (c.base.isNone = true)
    ⟨fun h => .root (Option.isNone_iff_eq_none.mp h), fun | .root h => Option.isNone_iff_eq_none.mpr h⟩
  | c, c' :: cs =>
    have := instDecidableDerives c' cs
    decidable_of_iff ((c.base.map (·.text)) = some c'.name.text ∧ Derives c' cs) <| by
      constructor
      · rintro ⟨h, hrest⟩
        obtain ⟨b, hb, hname⟩ := Option.map_eq_some_iff.mp h
        exact .derived hb hname hrest
      · rintro (_ | ⟨hb, hname, hrest⟩)
        exact ⟨by rw [hb, Option.map_some, hname], hrest⟩

/-- A line of classes that stands as a chain in a store. -/
structure Stands (s : Store) (c : ClassDecl) (cs : List ClassDecl) (l : Link) (ls : List Link) :
    Prop where
  chain : Chain s (l :: ls)
  shares : List.Forall₂ (fun c l => Shares c l.share?) (c :: cs) (l :: ls)
  bound : s.globals.get? (ident c.name.text) = some (.cls (.loaded l.place))
  placed : ∀ k ∈ l :: ls, k.place < s.classes.size ∧
    ∀ q, (s.loadedClass k.place).members.get? initName = some (.function q) → q < s.functions.size

/-- How a store goes on while nothing gives a value to the members by which objects are made, and
`super` stays what it is among the names of the program. -/
structure Afterwards (s t : Store) : Prop where
  init : Later initName s t
  maker : Later makerName s t
  super : t.globals.get? "super" = s.globals.get? "super"

section
variable {c c' : ClassDecl} {cs : List ClassDecl} {l : Link} {ls : List Link} {s t u : Store}
  {n : Nat} {v : Value}

theorem Afterwards.refl (s : Store) : Afterwards s s := ⟨.refl s, .refl s, rfl⟩

theorem Afterwards.trans (h : Afterwards s t) (h' : Afterwards t u) : Afterwards s u :=
  ⟨h.init.trans h'.init, h.maker.trans h'.maker, h'.super.trans h.super⟩

/-- Running code is one way to go on. -/
theorem Afterwards.of_runs {α : Type} {a : Eval α} (hinit : Runs initName a)
    (hmaker : Runs makerName a) (hs : Spared initName s ∧ Spared makerName s) : Afterwards s (a s).2 where
  init := (hinit s hs.1).later
  maker := (hmaker s hs.2).later
  super := by rw [(hinit s hs.1).globals]

theorem Afterwards.keepsClass (h : Afterwards s t) {place : Nat} (hp : place < s.classes.size)
    (hq : ∀ q, (s.loadedClass place).members.get? initName = some (.function q) →
      q < s.functions.size) : KeepsClass s t place :=
  ⟨h.init.built place hp, h.init.base place hp, h.maker.member place hp, h.init.member place hp,
    fun q hfound => h.init.function q (hq q hfound)⟩

theorem Stands.chain_after (h : Stands s c cs l ls) (hst : Afterwards s t) : Chain t (l :: ls) :=
  h.chain.kept fun k hk => hst.keepsClass (h.placed k hk).1 (h.placed k hk).2

theorem Stands.placed_after (h : Stands s c cs l ls) (hst : Afterwards s t) :
    ∀ k ∈ l :: ls, k.place < t.classes.size ∧
      ∀ q, (t.loadedClass k.place).members.get? initName = some (.function q) →
        q < t.functions.size := by
  intro k hk
  obtain ⟨hplace, hfound⟩ := h.placed k hk
  refine ⟨hplace.trans_le hst.init.classes, fun q hq => ?_⟩
  rw [hst.init.member _ hplace] at hq
  exact (hfound q hq).trans_le hst.init.functions

theorem Stands.after (h : Stands s c cs l ls) (hst : Afterwards s t)
    (hbound : t.globals.get? (ident c.name.text) = s.globals.get? (ident c.name.text)) :
    Stands t c cs l ls :=
  ⟨h.chain_after hst, h.shares, hbound.trans h.bound, h.placed_after hst⟩

/-- A class that is loaded stands alone if it has no base. -/
theorem stands_root (hc : Simple c) (hbase : c.base = none) (hs : Spared initName s)
    (hspared : SparedBy initName (classCode c n).1)
    (hload : loadClass (classCode c n).1 s = (.ok v, t)) : ∃ l, Stands t c [] l [] := by
  obtain ⟨hmaker, ⟨share?, hshares, hinit⟩, hplaced⟩ := hasMembers_of_loaded hc hspared hs hload
  obtain ⟨b, r, base, hb, hclass, hfound, hbuilt, hsize, hglobals⟩ := base_of_loaded hload
  have hcode : (classCode c n).1.base = none := by
    show c.base.map _ = none
    rw [hbase]
    rfl
  rw [baseOf, hcode] at hb
  cases hb
  cases hclass
  have hfront : frontOf c = [] := by rw [frontOf, hbase]; rfl
  rw [hfront] at hinit
  refine ⟨⟨s.classes.size, share?⟩, .root ⟨hbuilt, hfound, hmaker, hinit⟩, .cons hshares .nil, ?_, ?_⟩
  · rw [hglobals]
    exact Bindings.get?_put_self _ _ _
  · exact List.forall_mem_singleton.mpr ⟨hsize, hplaced⟩

/-- A class that is loaded stands in front of the line of the class that its header names. -/
theorem stands_derived (hc : Simple c) {b : Syntax.Token} (hbase : c.base = some b)
    (hname : b.text = c'.name.text) (h : Stands s c' cs l ls) (hs : Spared initName s)
    (hspared : SparedBy initName (classCode c n).1)
    (hload : loadClass (classCode c n).1 s = (.ok v, t)) (hst : Afterwards s t) :
    ∃ l', Stands t c (c' :: cs) l' (l :: ls) := by
  obtain ⟨hmaker, ⟨share?, hshares, hinit⟩, hplaced⟩ := hasMembers_of_loaded hc hspared hs hload
  obtain ⟨w, r, base, hw, hclass, hfound, hbuilt, hsize, hglobals⟩ := base_of_loaded hload
  have hcode : (classCode c n).1.base = some (ident c'.name.text) := by
    show c.base.map _ = _
    rw [hbase, Option.map_some, hname]
  have hvalue : globalValue (ident c'.name.text) s = (.ok (.cls (.loaded l.place)), s) := by
    unfold globalValue
    rw [bind_of_ok _ (get_eq_ok s), h.bound]
    rfl
  rw [baseOf, hcode] at hw
  cases hvalue.symm.trans hw
  cases hclass
  have hfront : frontOf c = [baseInit] := by rw [frontOf, hbase]; rfl
  rw [hfront] at hinit
  have hrest := h.chain_after hst
  refine ⟨⟨s.classes.size, share?⟩, .derived ⟨hbuilt, hfound, hmaker, hinit⟩
    (h.placed l List.mem_cons_self).1 hrest, .cons hshares h.shares, ?_, ?_⟩
  · rw [hglobals]
    exact Bindings.get?_put_self _ _ _
  · refine List.forall_mem_cons.mpr ⟨⟨hsize, hplaced⟩, ?_⟩
    exact h.placed_after hst

end

/-! ## Programs -/

/-- A type of a program that leaves alone how objects are made: its name is not special, and its
code gives no value to a member that making an object looks up. -/
structure Harmless (d : TypeDecl) : Prop where
  word : ¬(d.name ∈ Code.reservedWords ∨ d.name = selfName)
  super : d.name ≠ "super"
  init : SparedBy initName d.code
  maker : SparedBy makerName d.code

instance (d : TypeDecl) : Decidable (Harmless d) :=
  decidable_of_iff (¬(d.name ∈ Code.reservedWords ∨ d.name = selfName) ∧ d.name ≠ "super"
    ∧ SparedBy initName d.code ∧ SparedBy makerName d.code)
    ⟨fun h => ⟨h.1, h.2.1, h.2.2.1, h.2.2.2⟩, fun h => ⟨h.word, h.super, h.init, h.maker⟩⟩

/-- The code of a class with the base of the class. -/
structure IsTypeOf (c : ClassDecl) (d : TypeDecl) : Prop extends IsCodeOf c d where
  base : d.base = c.base.map (·.text)

/-- The types of a program in the order in which they are loaded. -/
structure Orderly (types : List TypeDecl) : Prop where
  first : BasesFirst types types
  harmless : ∀ d ∈ types, Harmless d
  named : ∀ d ∈ types, d.code.name = ident d.name

/-- What holds when some of the types of a program are loaded: every line of classes whose last one
is among them stands. -/
structure Progress (types done : List TypeDecl) (s : Store) : Prop where
  init : Spared initName s
  maker : Spared makerName s
  stands (c : ClassDecl) (cs : List ClassDecl) (hline : Derives c cs)
    (hclasses : ∀ e ∈ c :: cs, Simple e ∧ ∃ d ∈ types, IsTypeOf e d)
    (hdone : ∃ d ∈ done, IsTypeOf c d) : ∃ l ls, Stands s c cs l ls

section
variable {types done rest : List TypeDecl} {d : TypeDecl} {s t : Store} {v : Value}

theorem Harmless.ident_eq (h : Harmless d) : ident d.name = d.name := ident_of_free h.word

theorem Progress.afterwards (h : Progress types done s) (hd : Harmless d)
    (hnamed : d.code.name = ident d.name) (hload : loadClass d.code s = (.ok v, t)) :
    Afterwards s t := by
  obtain ⟨-, -, -, -, -, -, -, -, hglobals⟩ := base_of_loaded hload
  refine ⟨(loadClass_later hd.init h.init hload).1, (loadClass_later hd.maker h.maker hload).1, ?_⟩
  rw [hglobals, hnamed, hd.ident_eq, Bindings.get?_put_of_ne _ _ hd.super.symm]

/-- The next type. Its base is loaded, and the names of the types before it stay bound. -/
theorem Progress.next (h : Progress types done s) (ho : Orderly types)
    (htypes : types = done ++ d :: rest) (hload : loadClass d.code s = (.ok v, t)) :
    Progress types (done ++ [d]) t := by
  have hd : d ∈ types := by simp [htypes]
  have hharmless := ho.harmless d hd
  have hst := h.afterwards hharmless (ho.named d hd) hload
  refine ⟨(loadClass_later hharmless.init h.init hload).2,
    (loadClass_later hharmless.maker h.maker hload).2, fun c cs hline hclasses hdone => ?_⟩
  obtain ⟨e, he, hce⟩ := hdone
  rcases List.mem_append.mp he with he | he
  · obtain ⟨l, ls, hstands⟩ := h.stands c cs hline hclasses ⟨e, he, hce⟩
    obtain ⟨-, -, -, -, -, -, -, -, hglobals⟩ := base_of_loaded hload
    have hne : e.name ≠ d.name := by
      have hnodup := ho.first.nodup
      rw [htypes, namesOf_append, List.nodup_append] at hnodup
      exact hnodup.2.2 _ (List.mem_map_of_mem he) _ List.mem_cons_self
    refine ⟨l, ls, hstands.after hst ?_⟩
    rw [hglobals, ho.named d hd, hharmless.ident_eq, ← hce.name,
      (ho.harmless e (by simp [htypes, he])).ident_eq, Bindings.get?_put_of_ne _ _ hne]
  · obtain rfl := List.mem_singleton.mp he
    obtain ⟨n, hn⟩ := hce.code
    have hsimple := (hclasses c List.mem_cons_self).1
    have hspared := hharmless.init
    rw [hn] at hload hspared
    cases hline with
    | root hbase =>
      obtain ⟨l, hl⟩ := stands_root hsimple hbase h.init hspared hload
      exact ⟨l, [], hl⟩
    | @derived _ c' cs b hbase hname hrest =>
      obtain ⟨-, hclasses⟩ := List.forall_mem_cons.mp hclasses
      obtain ⟨-, e', he', hce'⟩ := hclasses c' List.mem_cons_self
      have hmem : e'.name ∈ namesOf done := by
        refine ho.first.bases done e rest htypes _ ?_ (List.mem_map_of_mem he')
        rw [hce.base, hbase, hce'.name, ← hname]
        rfl
      obtain ⟨e'', he'', hsame⟩ := List.mem_map.mp hmem
      obtain rfl : e'' = e' :=
        List.inj_on_of_nodup_map ho.first.nodup (by simp [htypes, he'']) he' hsame
      obtain ⟨l, ls, hstands⟩ := h.stands c' cs hrest hclasses ⟨e'', he'', hce'⟩
      obtain ⟨l', hl'⟩ := stands_derived hsimple hbase hname hstands h.init hspared hload hst
      exact ⟨l', l :: ls, hl'⟩

/-- So every line stands when its last class is loaded. -/
theorem Progress.load {ds : List TypeDecl} (h : Progress types done s) (ho : Orderly types)
    (htypes : types = done ++ ds ++ rest) {vs : Variables}
    (hload : ds.mapM loadType s = (.ok vs, t)) :
    Progress types (done ++ ds) t ∧ Afterwards s t := by
  induction ds generalizing s done vs with
  | nil =>
    cases hload
    exact ⟨by rwa [List.append_nil], .refl _⟩
  | cons d ds ih =>
    simp only [List.mapM_cons, bind_eq_ok, loadType] at hload
    obtain ⟨e, r', ⟨v, r, hone, hname⟩, es, r'', hothers, hlast⟩ := hload
    cases hname
    cases hlast
    have hd : d ∈ types := by simp [htypes]
    have hsplit : types = done ++ d :: (ds ++ rest) := by simpa using htypes
    have hnext := h.next ho hsplit hone
    obtain ⟨hall, hafter⟩ := ih hnext (by simpa using htypes) hothers
    rw [List.append_assoc] at hall
    exact ⟨hall, (h.afterwards (ho.harmless d hd) (ho.named d hd) hone).trans hafter⟩

end

/-! ### Libraries -/

/-- A library is a module. -/
theorem libraryValue_module {l : Program.Library} {s t : Store} {v : Value}
    (h : libraryValue l s = (.ok v, t)) : (∃ q, v = .module q) ∧ t.globals = s.globals := by
  cases l with
  | module name =>
    cases h
    exact ⟨⟨_, rfl⟩, rfl⟩
  | file name path constants =>
    cases h
    exact ⟨⟨_, rfl⟩, rfl⟩

/-- What is bound to the name of a library is a module. -/
theorem bindLibraries_module {ls : Program.Libraries} {x : String} {s t : Store}
    (hs : ∀ v, s.globals.get? x = some v → ∃ q, v = .module q)
    (h : bindLibraries ls s = (.ok (), t)) :
    ∀ v, t.globals.get? x = some v → ∃ q, v = .module q := by
  induction ls generalizing s with
  | nil =>
    cases h
    exact hs
  | cons l ls ih =>
    obtain ⟨_, u, hone, hrest⟩ := bind_eq_ok.mp h
    refine ih ?_ hrest
    obtain ⟨w, r, hvalue, hbind⟩ := bind_eq_ok.mp hone
    obtain ⟨hmodule, hglobals⟩ := libraryValue_module hvalue
    cases hbind
    intro v hv
    by_cases hx : x = l.1
    · subst hx
      cases (Bindings.get?_put_self _ _ _).symm.trans hv
      exact hmodule
    · refine hs v ?_
      rw [← hglobals, ← hv]
      exact (Bindings.get?_put_of_ne _ _ hx).symm

/-! ### Objects of loaded classes -/

section
variable {h : Host} {encoding : String} {sources references : List String} {p : Program}

theorem classesCode_isTypeOf (file : String) (n : Nat) {cs : List ClassDecl} {c : ClassDecl}
    (hc : c ∈ cs) : ∃ d ∈ classesCode file n cs, IsTypeOf c d := by
  induction cs generalizing n with
  | nil => cases hc
  | cons c' cs ih =>
    rcases List.mem_cons.mp hc with rfl | hc
    · exact ⟨_, List.mem_cons_self, ⟨rfl, n, rfl⟩, rfl⟩
    · obtain ⟨d, hd, hcd⟩ := ih (classCode c' n).2 hc
      exact ⟨d, List.mem_cons_of_mem _ hd, hcd⟩

/-- Every class of the sources is a type of the program. -/
theorem exists_type (hp : (Program.compile encoding sources references h).1 = .ok (.ok p))
    {c : ClassDecl} (hc : c ∈ Entry.declared h encoding sources) : ∃ d ∈ p.types, IsTypeOf c d := by
  obtain ⟨hfine, -⟩ := Program.compile_eq_program_iff.mp hp
  obtain ⟨hperm, -⟩ := Program.types_of_program hp
  obtain ⟨path, hpath, hc⟩ := List.mem_flatMap.mp hc
  obtain ⟨hread, hnone⟩ := hfine path hpath
  obtain ⟨f, hf, hresult⟩ := Entry.sourceFile?_of_fine hread hnone
  rw [hf] at hc
  have hcode : (lowerFile path f).1 = classesCode path 0 f.classes := by
    have hfindings := settleFindings_eq_nil (hresult ▸ hnone : (lowerFile path f).2 = [])
    unfold lowerFile
    rw [hfindings]
    rfl
  obtain ⟨d, hd, hcd⟩ := classesCode_isTypeOf path 0 hc
  refine ⟨d, hperm.mem_iff.mpr (List.mem_flatMap.mpr ⟨path, hpath, ?_⟩), hcd⟩
  rw [hresult, hcode]
  exact hd

theorem orderly_of_program (hp : (Program.compile encoding sources references h).1 = .ok (.ok p))
    (hharmless : ∀ d ∈ p.types, Harmless d) : Orderly p.types :=
  ⟨(Program.types_of_program hp).2, hharmless, fun d hd => (program_named hp d hd).1⟩

theorem prelude_super : preludeNames.get? "super" = none := by decide +kernel

/-- A store in which some types of a program are loaded. -/
theorem progress_of_loadFirst (hp : (Program.compile encoding sources references h).1 = .ok (.ok p))
    (hharmless : ∀ d ∈ p.types, Harmless d) {front back : List TypeDecl}
    (hsplit : p.types = front ++ back) {input : String} {types : Variables} {s₀ : Store}
    (hload : loadFirst p front (prelude input) = (.ok types, s₀)) :
    Progress p.types front s₀ ∧ ∀ v, s₀.globals.get? "super" = some v → ∃ q, v = .module q := by
  obtain ⟨_, r, hlibraries, htypes⟩ := bind_eq_ok.mp hload
  have hstart (x : String) (hx : "_stream_name" ≠ x) : Spared x r := by
    have hprelude : Spared x (prelude input) := ⟨hx, fun p y hy => by cases p <;> cases hy⟩
    exact ((bindLibraries_proceeds p.libraries).after hprelude hlibraries).2
  have hnone : (prelude input).globals.get? "super" = none := prelude_super
  have hmodule := bindLibraries_module (fun v hv => absurd (hnone.symm.trans hv) nofun) hlibraries
  have hbefore : Progress p.types [] r :=
    ⟨hstart initName (by decide), hstart makerName (by decide),
      fun _ _ _ _ ⟨_, hd, _⟩ => absurd hd List.not_mem_nil⟩
  have hall : p.types = [] ++ front ++ back := hsplit
  obtain ⟨hprogress, hafter⟩ := hbefore.load (orderly_of_program hp hharmless) hall htypes
  refine ⟨hprogress, fun v hv => hmodule v ?_⟩
  rw [← hafter.super]
  exact hv

/-- What the classes of a line contribute is what its links do. -/
theorem shares_of_links {cs : List ClassDecl} {ls : List Link}
    (h : List.Forall₂ (fun c l => Shares c l.share?) cs ls) :
    List.Forall₂ IsShareOf (cs.filter contributes) (sharesOf ls) := by
  induction h with
  | nil => exact .nil
  | @cons c l cs ls hcl _ ih =>
    unfold sharesOf
    generalize hshare : l.share? = share? at hcl
    cases hcl with
    | nothing hno =>
      rw [List.filter_cons_of_neg (by simp [hno]), List.filterMap_cons, hshare]
      exact ih
    | share hyes hsh =>
      rw [List.filter_cons_of_pos hyes, List.filterMap_cons, hshare]
      exact .cons hsh ih

end

/-- A line of three classes, and a class that can give what is built in as `super` another value. -/
def lineHost : Host where
  tree := ⟨[(["a.cs"], .file (Text.encodeUtf8
    ("class A \x7b int x = 1; A() \x7b Console.WriteLine(1); \x7d \x7d "
    ++ "class M : A \x7b \x7d class B : M \x7b int y = 2; B() \x7b Console.WriteLine(2); \x7d \x7d "
    ++ "class P \x7b static object Plain() \x7b return new P(); \x7d "
    ++ "static void Swap() \x7b __builtins__.super = Plain; \x7d \x7d").toList))]⟩
  cwd := "/"
  home := "/"
  tempDir := "/"
  copies := []
  named := 0
  notices := []
  asked := []

theorem derives_lineHost : ∃ c cs, Derives c cs ∧ c.name.text = "B"
    ∧ (c :: cs).map contributes = [true, false, true]
    ∧ (∀ e ∈ c :: cs, ∀ r ∈ firstConstructor? e.members, allDeclared r.2 = [])
    ∧ ∀ e ∈ c :: cs, e ∈ Entry.declared lineHost "utf-8" ["a.cs"] ∧ Simple e := by
  have hmem : ∀ e ∈ ((Entry.declared lineHost "utf-8" ["a.cs"]).take 3).reverse,
      e ∈ Entry.declared lineHost "utf-8" ["a.cs"] := fun e he =>
    List.mem_of_mem_take (List.mem_reverse.mp he)
  have hfound : ∃ c ∈ ((Entry.declared lineHost "utf-8" ["a.cs"]).take 3).reverse.head?,
      let line := ((Entry.declared lineHost "utf-8" ["a.cs"]).take 3).reverse
      Derives c line.tail ∧ c.name.text = "B" ∧ line.map contributes = [true, false, true]
        ∧ (∀ e ∈ line, ∀ r ∈ firstConstructor? e.members, allDeclared r.2 = [])
        ∧ ∀ e ∈ line, Simple e := by
    unfold lineHost
    simp only [String.toList_append]
    repeat rw [String.toList_ofList]
    decide +kernel
  generalize ((Entry.declared lineHost "utf-8" ["a.cs"]).take 3).reverse = line at hmem hfound
  obtain ⟨c, hc, hderives, hname, hcontributes, hnone, hsimple⟩ := hfound
  obtain ⟨cs, rfl⟩ := List.head?_eq_some_iff.mp hc
  exact ⟨c, cs, hderives, hname, hcontributes, hnone, fun e he => ⟨hmem e he, hsimple e he⟩⟩

/-- What a call without arguments gives, and what comes of the store. -/
def called? (f : Value) (s : Store) : Option (Value × Store) :=
  match apply fuel f [] s with
  | (.ok v, t) => some (v, t)
  | (.error _, _) => none

theorem called?_eq_some {f v : Value} {s t : Store} (h : called? f s = some (v, t)) :
    apply fuel f [] s = (.ok v, t) := by
  unfold called? at h
  split at h
  · next hcall =>
    cases h
    exact hcall
  · cases h

/-- A loaded program in which an object is made, before and after `super` is given another value. -/
structure Swapping (p : Program) (types : Variables) (s₀ s : Store) (k f b : Value) : Prop where
  program : (Program.compile "utf-8" ["a.cs"] [] lineHost).1 = .ok (.ok p)
  harmless : ∀ d ∈ p.types, Harmless d
  last : "B" ∈ namesOf p.types
  load : loadFirst p p.types (prelude "") = (.ok types, s₀)
  super : (s₀.module builtinsPlace).attrs.get? "super" = none
  bound : s₀.globals.get? "B" = some b
  before : ∃ v t, apply fuel b [] s₀ = (.ok v, t) ∧ t.output = #[49, 10, 50, 10]
  owner : s₀.globals.get? "P" = some k
  function : s₀.attribute? k "Swap" = some f
  swap : ∃ v, apply fuel f [] s₀ = (.ok v, s)
  silent : s.output = #[]
  after : ∃ v t, apply fuel b [] s = (.ok v, t) ∧ t.output = #[50, 10]
    ∧ (t.attribute? v "x").isNone ∧ (t.attribute? v "y").isSome

theorem exists_swapping : ∃ p types s₀ s k f b, Swapping p types s₀ s k f b := by
  have hall : ((Program.program? (Program.compile "utf-8" ["a.cs"] [] lineHost).1).bind fun p =>
      (Entry.loaded? (loadFirst p p.types (prelude ""))).bind fun loaded =>
        (loaded.2.globals.get? "B").bind fun b => (called? b loaded.2).bind fun before =>
          (loaded.2.globals.get? "P").bind fun k => (loaded.2.attribute? k "Swap").bind fun f =>
            (called? f loaded.2).bind fun swapped => (called? b swapped.2).map fun after =>
              decide (((∀ d ∈ p.types, Harmless d) ∧ "B" ∈ namesOf p.types
                ∧ ((loaded.2.module builtinsPlace).attrs.get? "super").isNone
                ∧ before.2.output = #[49, 10, 50, 10]) ∧ swapped.2.output = #[]
                ∧ after.2.output = #[50, 10] ∧ (after.2.attribute? after.1 "x").isNone
                ∧ (after.2.attribute? after.1 "y").isSome))
      = some true := by
    unfold lineHost
    simp only [String.toList_append]
    repeat rw [String.toList_ofList]
    decide +kernel
  obtain ⟨p, hp, hrest⟩ := Option.bind_eq_some_iff.mp hall
  obtain ⟨⟨types, s₀⟩, hload, hrest⟩ := Option.bind_eq_some_iff.mp hrest
  obtain ⟨b, hb, hrest⟩ := Option.bind_eq_some_iff.mp hrest
  obtain ⟨⟨v₀, t₀⟩, hbefore, hrest⟩ := Option.bind_eq_some_iff.mp hrest
  obtain ⟨k, hk, hrest⟩ := Option.bind_eq_some_iff.mp hrest
  obtain ⟨f, hf, hrest⟩ := Option.bind_eq_some_iff.mp hrest
  obtain ⟨⟨w, s⟩, hswap, hrest⟩ := Option.bind_eq_some_iff.mp hrest
  obtain ⟨⟨v, t⟩, hafter, hclear⟩ := Option.map_eq_some_iff.mp hrest
  obtain ⟨⟨hharmless, hlast, hsuper, hwritten⟩, hsilent, hmade⟩ := of_decide_eq_true hclear
  exact ⟨p, types, s₀, s, k, f, b, Program.program?_eq_some.mp hp, hharmless, hlast,
    Entry.loaded?_eq_some.mp hload, Option.isNone_iff_eq_none.mp hsuper, hb,
    ⟨v₀, t₀, called?_eq_some hbefore, hwritten⟩, hk, hf, ⟨w, called?_eq_some hswap⟩, hsilent,
    ⟨v, t, called?_eq_some hafter, hmade⟩⟩

end BraceScript.Eval
