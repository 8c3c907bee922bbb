import BraceScript.Proofs.Entry

/-!
# The headers of classes

When a class is loaded, the name in its header is looked up among the names that are bound by then:
those of the helpers, the libraries, the classes before it, and the built-in names. Loading never
takes a name away (`Keeps`), since code only gives names to attributes and variables. So the name of
the base is bound (`header_bound`), provided that the identifier in the header is the one under
which the base is bound: a reserved word gets an underscore there, but only script classes are bound
under such identifiers.
-/

namespace BraceScript.Eval

open Code (privateName ident)
open Lowering (TypeDecl)
open Program (namesOf isPredefined helperNames builtinNames)

theorem has_iff {α : Type} {bs : Bindings α} {name : String} :
    bs.has name ↔ ∃ e ∈ bs, e.1 = name := by
  induction bs with
  | nil => simp [Bindings.has, Bindings.get?]
  | cons e bs ih =>
    by_cases he : e.1 = name
    · simp [Bindings.has, Bindings.get?, he]
    · have hcons : Bindings.has (e :: bs) name = Bindings.has bs name := by
        simp [Bindings.has, Bindings.get?, he]
      simp [hcons, ih, he]

/-! ## What loading keeps -/

/-- What makes classes is what it was at the start, or a class took its place. -/
def MakerKept (s : Store) : Prop :=
  s.globals.get? "__builtins__" = some (.module builtinsPlace)
    ∨ ∃ c, s.globals.get? "__builtins__" = some (.cls c)

/-- How a store goes on while a program is loaded that never assigns the attribute `x`: names of the
program stay bound. -/
structure KeepsNames (x : String) (s t : Store) : Prop where
  spared : Spared x t
  names (y : String) : s.globals.has y → t.globals.has y
  maker : MakerKept s → MakerKept t

/-- A computation that keeps the names of the program. -/
def Keeps {α : Type} (x : String) (a : Eval α) : Prop :=
  ∀ s, Spared x s → KeepsNames x s (a s).2

section
variable {x : String} {α β : Type} {s t u : Store}

theorem KeepsNames.trans (h : KeepsNames x s t) (h' : KeepsNames x t u) : KeepsNames x s u :=
  ⟨h'.spared, fun y => h'.names y ∘ h.names y, h'.maker ∘ h.maker⟩

/-- Nothing but the names of the program is looked at. -/
theorem KeepsNames.of_globals (ht : Spared x t) (h : t.globals = s.globals) : KeepsNames x s t :=
  ⟨ht, fun _ hy => h ▸ hy, fun hs => by rwa [MakerKept, h]⟩

theorem Keeps.after {a : Eval α} (h : Keeps x a) (hs : Spared x s) {r : Except Stop α}
    (hr : a s = (r, t)) : KeepsNames x s t := by
  have ha := h s hs
  rwa [hr] at ha

/-- Running code does not bind names of the program. -/
theorem Runs.keeps {a : Eval α} (h : Runs x a) : Keeps x a := fun s hs =>
  .of_globals ((h s hs).spared hs) (h s hs).globals

theorem Leaves.keeps {a : Eval α} (h : Leaves x a) : Keeps x a := h.runs.keeps

theorem Keeps.bind {a : Eval α} {f : α → Eval β} (ha : Keeps x a) (hf : ∀ v, Keeps x (f v)) :
    Keeps x (a >>= f) := by
  intro s hs
  have h := ha s hs
  rw [stateBind_apply]
  rcases hr : a s with ⟨e | v, t⟩
  · rwa [hr] at h
  · rw [hr] at h
    exact h.trans (hf v t h.spared)

theorem Keeps.forM {f : α → Eval PUnit} {as : List α} (hf : ∀ a ∈ as, Keeps x (f a)) :
    Keeps x (as.forM f) := by
  induction as with
  | nil => exact (Leaves.pure _).keeps
  | cons a as ih =>
    obtain ⟨ha, has⟩ := List.forall_mem_cons.mp hf
    exact ha.bind fun _ => ih has

theorem Keeps.withLocals {a : Eval α} {names : Variables} (ha : Keeps x a) :
    Keeps x (withLocals names a) := by
  intro s hs
  have h := ha { s with locals := names } ⟨hs.writer, hs.functions⟩
  exact ⟨⟨h.spared.writer, h.spared.functions⟩, h.names, h.maker⟩

theorem newFunction_keeps {f : Closure} (hf : f.Spares x) : Keeps x (newFunction f) := by
  intro s hs
  refine .of_globals ⟨hs.writer, fun p => ?_⟩ rfl
  show Closure.Spares x (((s.functions.push f)[p]?).getD default)
  rw [Array.getElem?_push]
  split
  · exact hf
  · exact hs.functions p

/-- Modules and classes are not looked at. -/
theorem modifyGet_keeps {f : Store → α × Store} (hglobals : ∀ s, (f s).2.globals = s.globals)
    (hfunctions : ∀ s, (f s).2.functions = s.functions) : Keeps x (modifyGet f : Eval α) := by
  intro s hs
  refine .of_globals ⟨hs.writer, fun p => ?_⟩ (hglobals s)
  show Closure.Spares x (Store.function (f s).2 p)
  rw [Store.function, hfunctions]
  exact hs.functions p

/-- Binding a name keeps what makes classes, unless the name is that of the built-in names and its
new value is not a class. -/
theorem bindGlobal_keeps {name : String} {v : Value}
    (h : name ≠ "__builtins__" ∨ ∃ c, v = .cls c) : Keeps x (bindGlobal name v) := by
  intro s hs
  refine ⟨⟨hs.writer, hs.functions⟩, fun y hy => Bindings.has_put _ _ _ _ hy, fun hmaker => ?_⟩
  unfold MakerKept
  show Bindings.get? (s.globals.put name v) _ = _ ∨ ∃ c, Bindings.get? (s.globals.put name v) _ = _
  by_cases hname : name = "__builtins__"
  · obtain ⟨c, rfl⟩ := h.resolve_left (not_not.mpr hname)
    exact .inr ⟨c, by rw [hname, Bindings.get?_put_self]⟩
  · rwa [Bindings.get?_put_of_ne _ _ (Ne.symm hname)]

/-! ## Classes -/

theorem defineFunction_keeps {frame : Frame} {owner : Nat} {f : Code.Function}
    (hf : ∀ y ∈ attrsSetAll f.body, privateName frame.className y ≠ x) :
    Keeps x (defineFunction frame owner f) := by
  rw [defineFunction_eq]
  refine (markerOf_leaves f).keeps.bind fun marker => ?_
  refine (Leaves.mapM (paramOf_leaves frame)).keeps.bind fun params => ?_
  refine (newFunction_keeps (f := closureOf frame owner f params) hf).bind fun v => ?_
  exact (marked_leaves v marker).keeps.bind fun v => (Runs.assignName frame f.name v).keeps

theorem bodyOf_keeps {owner : Nat} {c : Code.Class} (hc : SparedBy x c) :
    Keeps x (bodyOf ⟨c.name, [], none⟩ owner c) := by
  let frame : Frame := ⟨c.name, [], none⟩
  have hfunction (f : Code.Function) (hf : f ∈ c.functions) : Keeps x (defineFunction frame owner f) :=
    defineFunction_keeps (hc f hf)
  refine (Keeps.forM hfunction).bind fun _ => ?_
  refine Keeps.bind (Keeps.forM fun e _ => ?_) fun _ => ?_
  · exact ((eval_leaves fuel frame e.2).runs.bind fun v => Runs.assignName frame e.1 v).keeps
  · exact (Leaves.get.bind fun s => .pure s.locals).keeps

theorem loadClass_keeps {c : Code.Class} (hc : SparedBy x c) : Keeps x (loadClass c) := by
  rw [loadClass_eq]
  refine header_leaves.keeps.bind fun base => ?_
  refine (modifyGet_keeps (fun _ => rfl) fun _ => rfl).bind fun place => ?_
  refine (bodyOf_keeps hc).withLocals.bind fun members => ?_
  refine (reading_leaves _).keeps.bind fun base => ?_
  refine (modifyGet_keeps (fun _ => rfl) fun _ => rfl).bind fun _ => ?_
  exact (bindGlobal_keeps (.inr ⟨_, rfl⟩)).bind fun _ => (Leaves.pure _).keeps

/-- A class that was loaded is bound to its name. -/
theorem loadClass_has {c : Code.Class} {v : Value} (h : loadClass c s = (.ok v, t)) :
    t.globals.has c.name := by
  simp only [loadClass_eq, bind_eq_ok] at h
  obtain ⟨_, _, -, _, _, -, _, _, -, _, r, -, _, _, -, _, _, hbind, hlast⟩ := h
  cases hbind
  cases hlast
  show (Bindings.get? _ _).isSome = true
  rw [Bindings.get?_put_self]
  rfl

/-- Types that were loaded are bound to their names, and nothing is taken away. -/
theorem loadTypes_keeps {ds : List TypeDecl} {types : Variables}
    (hds : ∀ d ∈ ds, SparedBy x d.code) (hs : Spared x s)
    (h : ds.mapM loadType s = (.ok types, t)) :
    KeepsNames x s t ∧ ∀ d ∈ ds, t.globals.has d.code.name := by
  induction ds generalizing s types with
  | nil =>
    cases h
    exact ⟨.of_globals hs rfl, by simp⟩
  | cons d ds ih =>
    simp only [List.mapM_cons, bind_eq_ok, loadType] at h
    obtain ⟨e, r', ⟨v, r, hload, hname⟩, es, r'', hrest, hlast⟩ := h
    cases hname
    cases hlast
    obtain ⟨hd, hds⟩ := List.forall_mem_cons.mp hds
    have hone := (loadClass_keeps hd).after hs hload
    obtain ⟨hothers, hbound⟩ := ih hds hone.spared hrest
    refine ⟨hone.trans hothers, List.forall_mem_cons.mpr ⟨?_, hbound⟩⟩
    exact hothers.names _ (loadClass_has hload)

/-! ## Libraries -/

theorem libraryValue_keeps (l : Program.Library) : Keeps x (libraryValue l) := by
  cases l with
  | module name => exact (Leaves.pure _).keeps
  | file name path constants => exact modifyGet_keeps (fun _ => rfl) fun _ => rfl

/-- Libraries that were bound are bound to their names, and what makes classes stays if none of them
has its name. -/
theorem bindLibraries_keeps {ls : Program.Libraries} (hls : ls.has "__builtins__" = false)
    (hs : Spared x s) (h : bindLibraries ls s = (.ok (), t)) :
    KeepsNames x s t ∧ ∀ name, ls.has name → t.globals.has name := by
  have hfree : ∀ l ∈ ls, l.1 ≠ "__builtins__" := by
    intro l hl hname
    rw [has_iff.mpr ⟨l, hl, hname⟩] at hls
    cases hls
  clear hls
  induction ls generalizing s with
  | nil =>
    cases h
    exact ⟨.of_globals hs rfl, fun _ h => by cases h⟩
  | cons l ls ih =>
    obtain ⟨hl, hfree⟩ := List.forall_mem_cons.mp hfree
    obtain ⟨_, r, hone, hrest⟩ := bind_eq_ok.mp h
    have hkeeps : Keeps x (bindLibrary l) :=
      (libraryValue_keeps l.2).bind fun v => bindGlobal_keeps (.inl hl)
    have hfirst := hkeeps.after hs hone
    obtain ⟨hothers, hbound⟩ := ih hfirst.spared hrest hfree
    refine ⟨hfirst.trans hothers, fun name hname => ?_⟩
    obtain ⟨e, he, rfl⟩ := has_iff.mp hname
    rcases List.mem_cons.mp he with rfl | he
    · obtain ⟨v, r', -, hbind⟩ := bind_eq_ok.mp hone
      cases hbind
      refine hothers.names _ ?_
      show (Bindings.get? _ _).isSome = true
      rw [Bindings.get?_put_self]
      rfl
    · exact hbound _ (has_iff.mpr ⟨e, he, rfl⟩)

end

/-! ## Names that are bound -/

/-- A name that needs no library and no class is bound at the start or built in, if it is not a
reserved word. -/
theorem predefined_bound {b : String} (h : isPredefined b) (hident : ident b = b) :
    preludeNames.has b ∨ (builtinValue? b).isSome := by
  have hhelpers : ∀ b ∈ helperNames, preludeNames.has b := by decide +kernel
  -- The names are many, so they are gone through in two halves.
  have hbuiltin : ∀ b ∈ builtinNames.take 80 ++ builtinNames.drop 80,
      (builtinValue? b).isSome ∨ preludeNames.has b ∨ b ∈ ["False", "None", "True"] :=
    List.forall_mem_append.mpr ⟨by decide +kernel, by decide +kernel⟩
  have hreserved : ∀ b ∈ ["False", "None", "True"], ident b ≠ b := by decide +kernel
  rw [List.take_append_drop] at hbuiltin
  rcases Bool.or_eq_true_iff.mp h with h | h
  · exact .inl (hhelpers b (List.contains_iff_mem.mp h))
  · rcases hbuiltin b (List.contains_iff_mem.mp h) with hb | hb | hb
    · exact .inr hb
    · exact .inl hb
    · exact absurd hident (hreserved b hb)

/-- A name of the program or a built-in one stands for a value. -/
theorem globalValue_of_bound {s : Store} {name : String}
    (h : s.globals.has name ∨ (builtinValue? name).isSome) :
    ∃ v, globalValue name s = (.ok v, s) := by
  unfold globalValue
  rw [bind_of_ok _ (get_eq_ok s)]
  cases hg : s.globals.get? name with
  | some v => exact ⟨v, rfl⟩
  | none =>
    have hno : s.globals.has name = false := by rw [Bindings.has, hg]; rfl
    obtain ⟨w, hw⟩ := Option.isSome_iff_exists.mp (h.resolve_left (by simp [hno]))
    cases hattr : (s.module builtinsPlace).attrs.get? name with
    | some v => exact ⟨v, rfl⟩
    | none => exact ⟨w, by simp only [Option.orElse, hw]; rfl⟩

/-- What makes classes is found, unless a class took its place. -/
theorem findMaker_of_kept {s : Store} (h : MakerKept s) :
    findMaker s = (.ok (), s)
      ∨ ∃ c, findMaker s = fail (.classNotSubscriptable (s.className c)) s := by
  unfold findMaker
  rw [bind_of_ok _ (get_eq_ok s)]
  rcases h with h | ⟨c, h⟩
  · rw [h]
    exact .inl rfl
  · rw [h]
    exact .inr ⟨c, rfl⟩

/-- There is always an attribute that no class assigns. -/
theorem exists_spared (ds : List TypeDecl) :
    ∃ x, "_stream_name" ≠ x ∧ ∀ d ∈ ds, SparedBy x d.code := by
  let assigned : List String := ds.flatMap fun d => d.code.functions.flatMap fun f =>
    (attrsSetAll f.body).map (privateName d.code.name)
  obtain ⟨x, hx⟩ := exists_attr_notMem ("_stream_name" :: assigned)
  rw [List.mem_cons, not_or] at hx
  refine ⟨x, Ne.symm hx.1, fun d hd f hf y hy hxy => hx.2 ?_⟩
  exact List.mem_flatMap.mpr ⟨d, hd, List.mem_flatMap.mpr ⟨f, hf, List.mem_map.mpr ⟨y, hy, hxy⟩⟩⟩

/-! ## Programs -/

/-- The code of a type is named as the type is, and derives from what the type derives from. -/
theorem classesCode_named (file : String) (n : Nat) (cs : List Syntax.ClassDecl) :
    ∀ d ∈ Lowering.classesCode file n cs,
      d.code.name = ident d.name ∧ d.code.base = d.base.map ident := by
  induction cs generalizing n with
  | nil => simp [Lowering.classesCode]
  | cons c cs ih =>
    refine List.forall_mem_cons.mpr ⟨⟨rfl, ?_⟩, ih _⟩
    show c.base.map _ = (c.base.map _).map _
    rw [Option.map_map]
    rfl

theorem lowerFile_named (file : String) (f : Syntax.SourceFile) :
    ∀ d ∈ (Lowering.lowerFile file f).1,
      d.code.name = ident d.name ∧ d.code.base = d.base.map ident := by
  intro d hd
  unfold Lowering.lowerFile at hd
  rcases hfound : Lowering.settleFindings file (f.classes.flatMap (Lowering.classFindings file))
    with ⟨problems, complete⟩
  rw [hfound] at hd
  cases complete with
  | true => exact classesCode_named file 0 f.classes d hd
  | false => cases hd

/-- Binds the libraries of a program and loads some of its types. -/
def loadFirst (p : Program) (ds : List TypeDecl) : Eval Variables := do
  bindLibraries p.libraries
  ds.mapM loadType

/-- A program is loaded type by type: what comes before a type, the type, and what comes after it. -/
theorem load_split {p : Program} {before after : List TypeDecl} {d : TypeDecl}
    (h : p.types = before ++ d :: after) :
    load p = (do
      let done ← loadFirst p before
      let v ← loadClass d.code
      let rest ← after.mapM loadType
      return done ++ (d.name, v) :: rest) := by
  have hload : load p = loadFirst p p.types := rfl
  rw [hload, h]
  simp [loadFirst, loadType]

section
variable {h : Host} {encoding : String} {sources references : List String} {p : Program}

theorem program_named (hp : (Program.compile encoding sources references h).1 = .ok (.ok p)) :
    ∀ d ∈ p.types, d.code.name = ident d.name ∧ d.code.base = d.base.map ident := by
  intro d hd
  obtain ⟨hperm, -⟩ := Program.types_of_program hp
  obtain ⟨hfine, -⟩ := Program.compile_eq_program_iff.mp hp
  obtain ⟨path, hpath, hfile⟩ := List.mem_flatMap.mp (hperm.subset hd)
  obtain ⟨hread, hnone⟩ := hfine path hpath
  obtain ⟨f, -, hresult⟩ := Entry.sourceFile?_of_fine hread hnone
  exact lowerFile_named path f d (hresult ▸ hfile)

/-- A base of a type that is not declared before it is known without any class. -/
theorem base_known (hp : (Program.compile encoding sources references h).1 = .ok (.ok p))
    {before after : List TypeDecl} {d : TypeDecl} {b : String}
    (hsplit : p.types = before ++ d :: after) (hb : d.base = some b) :
    b ∈ namesOf before ∨ b ∉ namesOf p.types ∧ (isPredefined b ∨ p.libraries.has b) := by
  obtain ⟨-, -, horder, -⟩ := Program.compile_eq_program_iff.mp hp
  obtain ⟨hperm, hfirst⟩ := Program.types_of_program hp
  by_cases hdeclared : b ∈ namesOf p.types
  · exact .inl (hfirst.bases before d after hsplit b hb hdeclared)
  · obtain ⟨-, hknown, -⟩ := Program.orderTypes_fine_iff.mp (congrArg Prod.snd horder)
    have hd : d ∈ p.types := by rw [hsplit]; simp
    have hone := hknown d (hperm.subset hd)
    have hnames : b ∉ namesOf (Program.allClasses h encoding sources) :=
      fun hmem => hdeclared ((hperm.map _).mem_iff.mpr hmem)
    rw [Program.unknownBase?, hb] at hone
    simp only [Option.bind_some, hnames, false_or, Bool.or_eq_true, ite_eq_left_iff, reduceCtorEq,
      imp_false, not_not] at hone
    exact .inr ⟨hdeclared, hone⟩

end

end BraceScript.Eval
