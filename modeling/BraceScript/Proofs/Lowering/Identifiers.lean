import BraceScript.Proofs.Entry
import BraceScript.Proofs.Lowering.Hygiene
import BraceScript.Proofs.Lowering.MemberNames
import BraceScript.Proofs.Lowering.Pieces

/-!
# Identifiers that two names share

A name that generated code cannot have gets an underscore at its end (`Escapes`), and inside a class
a private name gets the name of the class in front (`Mangles`). Nothing keeps a program from having
the names that come of this as well, and then two types, two members of a class or two variables of
a member are one. `identifiers_shared` says that this is the only way: any other two names are told
apart. There is one exception, a variable that is declared under one name and read under another
one. Two parameters of a member are never one, since such code is refused.
-/

namespace BraceScript.Lowering

open Syntax
open Code (ident isPrivate privateName)
open Entry (storedName)

/-! ## Words of generated code -/

/-- A name that generated code cannot have, and the name that it gets there. -/
def Escapes (x y : String) : Prop :=
  (x ∈ Code.reservedWords ∨ x = Code.selfName) ∧ y = x ++ "_"

instance (x y : String) : Decidable (Escapes x y) := inferInstanceAs (Decidable (_ ∧ _))

theorem ident_of_reserved {x : String} (h : x ∈ Code.reservedWords ∨ x = Code.selfName) :
    ident x = x ++ "_" := by
  unfold Code.ident
  rw [if_pos (by simpa using h)]

theorem ident_of_free {x : String} (h : ¬(x ∈ Code.reservedWords ∨ x = Code.selfName)) :
    ident x = x := by
  unfold Code.ident
  rw [if_neg (by simpa using h)]

/-- The name that a reserved word gets is not reserved itself. -/
theorem Escapes.ident_eq {x y : String} (h : Escapes x y) : ident y = y := by
  obtain ⟨-, rfl⟩ := h
  have hlast : ∀ w ∈ Code.selfName :: Code.reservedWords, w.toList.getLast? ≠ some '_' := by
    decide +kernel
  refine ident_of_free fun hfree => hlast _ (List.mem_cons.mpr hfree.symm) ?_
  rw [String.toList_append]
  exact List.getLast?_concat

/-- Two names have one identifier just if one of them is what the other gets. -/
theorem ident_eq_ident_iff {x y : String} :
    ident x = ident y ↔ x = y ∨ Escapes x y ∨ Escapes y x := by
  constructor
  · intro h
    by_cases hx : x ∈ Code.reservedWords ∨ x = Code.selfName
      <;> by_cases hy : y ∈ Code.reservedWords ∨ y = Code.selfName
    · rw [ident_of_reserved hx, ident_of_reserved hy] at h
      exact .inl (String.append_left_inj _ |>.mp h)
    · rw [ident_of_reserved hx, ident_of_free hy] at h
      exact .inr (.inl ⟨hx, h.symm⟩)
    · rw [ident_of_free hx, ident_of_reserved hy] at h
      exact .inr (.inr ⟨hy, h⟩)
    · rw [ident_of_free hx, ident_of_free hy] at h
      exact .inl h
  · rintro (rfl | h | h)
    · rfl
    · rw [ident_of_reserved h.1, h.ident_eq, h.2]
    · rw [ident_of_reserved h.1, h.ident_eq, h.2]

/-! ## Private names -/

/-- The name of a class that goes in front of private names. -/
def ownerName (cls : String) : String := String.ofList (cls.toList.dropWhile (· == '_'))

/-- A name that is private to a class, and the name that is meant by it. -/
def Mangles (cls x y : String) : Prop :=
  isPrivate x = true ∧ ownerName cls ≠ "" ∧ y = "_" ++ ownerName cls ++ x

instance (cls x y : String) : Decidable (Mangles cls x y) :=
  inferInstanceAs (Decidable (_ ∧ _ ∧ _))

section
variable {cls x y : String}

theorem privateName_cases (cls x : String) :
    Mangles cls x (privateName cls x)
      ∨ privateName cls x = x ∧ ∀ y, ¬Mangles cls x y := by
  have howner : ownerName cls = "" ↔ (cls.toList.dropWhile (· == '_')).isEmpty = true := by
    rw [ownerName, ← String.toList_eq_nil_iff, String.toList_ofList, List.isEmpty_iff]
  unfold privateName
  by_cases hprivate : isPrivate x && !(cls.toList.dropWhile (· == '_')).isEmpty
  · simp only [hprivate, if_true]
    obtain ⟨hx, hcls⟩ := Bool.and_eq_true_iff.mp hprivate
    exact .inl ⟨hx, fun h => by simp [howner.mp h] at hcls, rfl⟩
  · simp only [hprivate]
    refine .inr ⟨rfl, fun y h => hprivate ?_⟩
    rw [h.1, Bool.true_and, Bool.not_eq_true', ← Bool.not_eq_true]
    exact fun hempty => h.2.1 (howner.mpr hempty)

/-- The name that is meant by a private name begins with just one underscore. -/
theorem Mangles.toList_eq (h : Mangles cls x y) : ∃ c cs, y.toList = '_' :: c :: cs ∧ c ≠ '_' := by
  obtain ⟨-, howner, rfl⟩ := h
  have hhead := List.head?_dropWhile_not (· == '_') cls.toList
  cases hcls : cls.toList.dropWhile (· == '_') with
  | nil => exact absurd (congrArg String.ofList hcls) howner
  | cons c cs =>
    rw [hcls] at hhead
    exact ⟨c, cs ++ x.toList, by simp [ownerName, hcls], by simpa using hhead⟩

/-- So it is not private itself. -/
theorem Mangles.not_private (h : Mangles cls x y) : isPrivate y = false := by
  obtain ⟨c, cs, hy, hc⟩ := h.toList_eq
  have hprefix : ['_', '_'].isPrefixOf ('_' :: c :: cs) = false := by
    simp [List.isPrefixOf, hc.symm]
  rw [isPrivate, hy, hprefix]
  rfl

theorem Mangles.privateName_eq (h : Mangles cls x y) : privateName cls x = y := by
  rcases privateName_cases cls x with hx | ⟨-, hno⟩
  · rw [hx.2.2, h.2.2]
  · exact absurd h (hno y)

theorem privateName_of_not_private (h : isPrivate x = false) : privateName cls x = x := by
  rw [privateName, h]
  rfl

/-- In a class one name is meant by two just if one of them is what is meant by the other. -/
theorem privateName_eq_privateName_iff :
    privateName cls x = privateName cls y ↔ x = y ∨ Mangles cls x y ∨ Mangles cls y x := by
  constructor
  · intro h
    rcases privateName_cases cls x with hx | ⟨hx, -⟩
      <;> rcases privateName_cases cls y with hy | ⟨hy, -⟩
    · rw [hx.2.2, hy.2.2] at h
      exact .inl (String.append_right_inj _ |>.mp h)
    · rw [h, hy] at hx
      exact .inr (.inl hx)
    · rw [← h, hx] at hy
      exact .inr (.inr hy)
    · exact .inl (hx.symm.trans (h.trans hy))
  · rintro (rfl | h | h)
    · rfl
    · rw [h.privateName_eq, privateName_of_not_private h.not_private]
    · rw [h.privateName_eq, privateName_of_not_private h.not_private]

end

/-! ## Names in a class -/

/-- A name of a class that is given the identifier of another one. -/
inductive Meets (c : ClassDecl) (x y : String) : Prop
  | escaped (h : Escapes x y)
  | mangled (h : Mangles (ident c.name.text) x y)

instance (c : ClassDecl) (x y : String) : Decidable (Meets c x y) :=
  decidable_of_iff (Escapes x y ∨ Mangles (ident c.name.text) x y)
    ⟨fun h => h.elim .escaped .mangled, fun h => by cases h <;> simp [*]⟩

theorem head?_reserved {x : String} (h : x ∈ Code.reservedWords ∨ x = Code.selfName) :
    (x ++ "_").toList.head? = x.toList.head? ∧ x.toList.head? ≠ some '_' := by
  have hall : ∀ w ∈ Code.selfName :: Code.reservedWords,
      w.toList ≠ [] ∧ w.toList.head? ≠ some '_' := by decide +kernel
  obtain ⟨hne, hhead⟩ := hall x (List.mem_cons.mpr h.symm)
  rw [String.toList_append, List.head?_append_of_ne_nil _ hne]
  exact ⟨rfl, hhead⟩

theorem head?_ident (x : String) : (ident x).toList.head? = x.toList.head? := by
  by_cases hx : x ∈ Code.reservedWords ∨ x = Code.selfName
  · rw [ident_of_reserved hx, (head?_reserved hx).1]
  · rw [ident_of_free hx]

/-- No name that begins with an underscore is reserved. -/
theorem ident_of_head? {x : String} (h : x.toList.head? = some '_') : ident x = x :=
  ident_of_free fun hx => (head?_reserved hx).2 h

theorem head?_of_isPrivate {x : String} (h : isPrivate x = true) : x.toList.head? = some '_' := by
  obtain ⟨hbegins, -⟩ := Bool.and_eq_true_iff.mp h
  obtain ⟨rest, hrest⟩ := List.isPrefixOf_iff_prefix.mp hbegins
  rw [← hrest]
  rfl

theorem Mangles.head? {cls x y : String} (h : Mangles cls x y) : y.toList.head? = some '_' := by
  obtain ⟨c, cs, hy, -⟩ := h.toList_eq
  rw [hy]
  rfl

/-- Reserved words are neither private names nor what is meant by one. -/
theorem mangles_ident_iff {cls x y : String} :
    Mangles cls (ident x) (ident y) ↔ Mangles cls x y := by
  constructor <;> intro h
  · have hx := head?_of_isPrivate h.1
    have hy := h.head?
    rw [head?_ident] at hx hy
    rwa [ident_of_head? hx, ident_of_head? hy] at h
  · rwa [ident_of_head? (head?_of_isPrivate h.1), ident_of_head? h.head?]

section
variable {c : ClassDecl} {x y : String}

/-- In a class two names are kept as one just if one of them is given the identifier of the
other. -/
theorem storedName_eq_storedName_iff :
    storedName c x = storedName c y ↔ x = y ∨ Meets c x y ∨ Meets c y x := by
  unfold storedName
  rw [privateName_eq_privateName_iff, ident_eq_ident_iff, mangles_ident_iff, mangles_ident_iff]
  constructor
  · rintro ((h | h | h) | h | h)
    · exact .inl h
    · exact .inr (.inl (.escaped h))
    · exact .inr (.inr (.escaped h))
    · exact .inr (.inl (.mangled h))
    · exact .inr (.inr (.mangled h))
  · rintro (h | h | h)
    · exact .inl (.inl h)
    · cases h with
      | escaped h => exact .inl (.inr (.inl h))
      | mangled h => exact .inr (.inl h)
    · cases h with
      | escaped h => exact .inl (.inr (.inr h))
      | mangled h => exact .inr (.inr h)

/-- A name that has nothing to do with reserved words and private names is kept as no other. -/
theorem storedName_eq_iff {z : String} (hprivate : isPrivate z = false)
    (hword : ∀ w ∈ Code.selfName :: Code.reservedWords, z ≠ w ∧ z ≠ w ++ "_")
    (hhead : z.toList.head? = some '_' → z.toList.tail.head? = some '_') :
    storedName c x = z ↔ x = z := by
  have hfree : ¬(z ∈ Code.reservedWords ∨ z = Code.selfName) := fun h =>
    (hword z (List.mem_cons.mpr h.symm)).1 rfl
  have hz : storedName c z = z := by
    rw [storedName, ident_of_free hfree, privateName_of_not_private hprivate]
  have hto : ¬Meets c x z := by
    rintro (⟨hx, hsame⟩ | h)
    · exact (hword x (List.mem_cons.mpr hx.symm)).2 hsame
    · obtain ⟨d, cs, hlist, hd⟩ := h.toList_eq
      rw [hlist] at hhead
      exact hd (Option.some.inj (hhead rfl))
  have hfrom : ¬Meets c z x := by
    rintro (h | h)
    · exact hfree h.1
    · exact Bool.false_ne_true (hprivate.symm.trans h.1)
  calc storedName c x = z ↔ storedName c x = storedName c z := by rw [hz]
    _ ↔ x = z := by rw [storedName_eq_storedName_iff, or_iff_left (by tauto)]

/-- The initialiser shares its name with nothing but a member that is written so. -/
theorem storedName_eq_initName_iff : storedName c x = initName ↔ x = initName :=
  storedName_eq_iff (by decide +kernel) (by decide +kernel) (by decide +kernel)

/-- The name under which a variable is read is that under which another one is kept just if these
are one, but for the one name that is read as another. -/
theorem privateName_globalIdent_eq_iff :
    privateName (ident c.name.text) (Scope.globalIdent x) = storedName c y
      ↔ if x = "string" then y = "String" else x = y ∨ Meets c x y ∨ Meets c y x := by
  by_cases hx : x = "string"
  · have hplain : isPrivate "String" = false := by decide +kernel
    rw [hx, if_pos rfl, Scope.globalIdent, if_pos (by decide), privateName_of_not_private hplain,
      eq_comm]
    exact storedName_eq_iff hplain (by decide +kernel) (by decide +kernel)
  · rw [if_neg hx, ← storedName_eq_storedName_iff, Scope.globalIdent, if_neg (by simpa using hx)]
    rfl

end

/-! ## Variables -/

section
variable (s : Scope) {x : String}

theorem assignedAll_append (b b' : List Code.Stmt) :
    Eval.assignedAll (b ++ b') = Eval.assignedAll b ++ Eval.assignedAll b' := by
  induction b with
  | nil => rfl
  | cons st b ih => rw [List.cons_append, Eval.assignedAll, ih, Eval.assignedAll, List.append_assoc]

theorem assignedAll_blockCode (b : List Code.Stmt) :
    Eval.assignedAll (blockCode b) = Eval.assignedAll b := by
  cases b <;> rfl

theorem assignedAll_singleton (st : Code.Stmt) : Eval.assignedAll [st] = Eval.assigned st :=
  List.append_nil _

/-- A loop gives values to what its body gives values to. -/
theorem assigned_loopCode {condition : Option Code.Expr} {step : Option Code.Stmt}
    {body : List Code.Stmt} {flag : Nat} (h : x ∈ Eval.assignedAll body) :
    x ∈ Eval.assignedAll (loopCode condition step body flag).1 := by
  unfold loopCode
  cases step with
  | none => simpa [Eval.assignedAll, Eval.assigned] using h
  | some step =>
    simp only
    split
    · simp [flaggedLoop, Eval.assignedAll, Eval.assigned, Eval.assignedTail, h]
    · simp [Eval.assignedAll, Eval.assigned, assignedAll_append, h]

theorem assigned_forInitCode {i : Option ForInit} (h : x ∈ forInitVariables i) :
    ident x ∈ Eval.assignedAll (forInitCode s i) := by
  match i with
  | none | some (.assign ..) => cases h
  | some (.declare d) =>
    obtain rfl := List.mem_singleton.mp h
    exact List.mem_cons_self

theorem assigned_filterCode {f : Option CatchFilter} (h : x ∈ filterVariables f) :
    ident x ∈ (filterCode f).2.toList := by
  match f with
  | none | some ⟨_, none⟩ => cases h
  | some ⟨_, some y⟩ =>
    obtain rfl := List.mem_singleton.mp h
    exact List.mem_cons_self

mutual

/-- What a statement declares its code gives values to. -/
theorem assigned_stmtCode (n : Nat) : ∀ {st : Stmt}, x ∈ declared st →
    ident x ∈ Eval.assignedAll (stmtCode s n st).1
  | .declare d, h => by
    obtain rfl := List.mem_singleton.mp h
    exact List.mem_cons_self
  | .ite c b r, h => by
    simp only [stmtCode, assignedAll_singleton, Eval.assigned, assignedAll_blockCode,
      List.mem_append]
    exact (List.mem_append.mp h).imp (assigned_bodyCode n) (assigned_elseCode _)
  | .while c b, h => by
    simp only [stmtCode, assignedAll_singleton, Eval.assigned, assignedAll_blockCode]
    exact assigned_bodyCode n h
  | .for i c st b, h => by
    simp only [stmtCode, assignedAll_append, List.mem_append]
    refine (List.mem_append.mp h).imp (assigned_forInitCode s) fun h => assigned_loopCode ?_
    rw [assignedAll_blockCode]
    exact assigned_bodyCode n h
  | .foreach t y e b, h => by
    simp only [stmtCode, assignedAll_singleton, Eval.assigned, assignedAll_blockCode,
      List.mem_cons]
    exact (List.mem_cons.mp h).imp (congrArg ident) (assigned_bodyCode n)
  | .attempt b hs none, h => by
    simp only [stmtCode, assignedAll_singleton, Eval.assigned, assignedAll_blockCode,
      List.mem_append]
    exact (List.mem_append.mp h).imp (assigned_bodyCode n) (assigned_handlersCode _)
  | .attempt b hs (some f), h => by
    simp only [stmtCode, assignedAll_singleton, Eval.assigned, assignedAll_blockCode,
      List.mem_append]
    refine (List.mem_append.mp h).imp (fun h => ?_) (assigned_bodyCode _)
    exact (List.mem_append.mp h).imp (assigned_bodyCode n) (assigned_handlersCode _)
  | .block b, h => by
    simp only [stmtCode, assignedAll_blockCode]
    exact assigned_bodyCode n h
  | .assign .., h | .step .., h | .ret _, h | .brk, h | .cont, h | .throw _, h | .expr _, h => by
    cases h

/-- What statements declare their code gives values to. -/
theorem assigned_bodyCode (n : Nat) : ∀ {b : List Stmt}, x ∈ allDeclared b →
    ident x ∈ Eval.assignedAll (bodyCode s n b).1
  | [], h => by cases h
  | st :: b, h => by
    simp only [bodyCode, assignedAll_append, List.mem_append]
    exact (List.mem_append.mp h).imp (assigned_stmtCode n) (assigned_bodyCode _)

/-- The same of the rest of a conditional. -/
theorem assigned_elseCode (n : Nat) : ∀ {r : Else}, x ∈ elseDeclared r →
    ident x ∈ Eval.assignedTail (elseCode s n r).1
  | .none, h => by cases h
  | .block b, h => by
    simp only [elseCode, Eval.assignedTail, assignedAll_blockCode]
    exact assigned_bodyCode n h
  | .elseIf c b r, h => by
    simp only [elseCode, Eval.assignedTail, assignedAll_blockCode, List.mem_append]
    exact (List.mem_append.mp h).imp (assigned_bodyCode n) (assigned_elseCode _)

/-- The same of handlers. -/
theorem assigned_handlersCode (n : Nat) : ∀ {hs : List Handler}, x ∈ handlersDeclared hs →
    ident x ∈ Eval.assignedHandlers (handlersCode s n hs).1
  | [], h => by cases h
  | .mk f b :: hs, h => by
    simp only [handlersCode, Eval.assignedHandlers, assignedAll_blockCode, List.mem_append]
    refine (List.mem_append.mp h).imp (fun h => ?_) (assigned_handlersCode _)
    exact (List.mem_append.mp h).imp assigned_filterCode (assigned_bodyCode n)

end

end

/-! ## Classes -/

/-- The names that a function gives values to. -/
def variablesOf (f : Code.Function) : List String := f.params.map (·.name) ++ Eval.assignedAll f.body

/-- The code of a class has a member under the identifier of its name, and the variables of the
member under the identifiers of theirs. -/
inductive Carries (k : Code.Class) : Member → Prop
  | staticField {ts : List Token} {d : Declaration} {value : Code.Expr} (hstatic : isStatic ts = true)
    (he : (ident d.name.text, value) ∈ k.fields) : Carries k (.field ts d)
  | instanceField {ts : List Token} {d : Declaration} {f : Code.Function} {value : Code.Expr}
    (hstatic : isStatic ts = false) (hf : f ∈ k.functions) (hname : f.name = initName)
    (hset : .assign (.attr (.name Code.selfName) (ident d.name.text)) value ∈ f.body) :
    Carries k (.field ts d)
  | method {ts : List Token} {t : TypeRef} {name : Token} {ps : List Param} {b : List Stmt}
    {f : Code.Function} (hf : f ∈ k.functions) (hname : f.name = ident name.text)
    (hvariables : ∀ x ∈ memberVariables ps b, ident x ∈ variablesOf f) :
    Carries k (.method ts t name ps b)
  | constructor {ts : List Token} {name : Token} {ps : List Param} {b : List Stmt}
    {f : Code.Function} (hf : f ∈ k.functions) (hname : f.name = initName)
    (hvariables : ∀ x ∈ memberVariables ps b, ident x ∈ variablesOf f) :
    Carries k (.constructor ts name ps b)

section
variable {c : ClassDecl} {n : Nat}

/-- The parameters and the declared names of a body have their identifiers in its code. -/
theorem variables_bodyCode (s : Scope) (k : Nat) {ps : List Param} {b : List Stmt} {x : String}
    (hx : x ∈ memberVariables ps b) : ident x ∈ (paramsCode ps).map (·.name)
      ++ Eval.assignedAll (blockCode (bodyCode s k b).1) := by
  rw [assignedAll_blockCode]
  refine List.mem_append.mpr ((List.mem_append.mp hx).imp (fun h => ?_) (assigned_bodyCode s k))
  obtain ⟨q, hq, rfl⟩ := List.mem_map.mp h
  exact List.mem_map.mpr ⟨_, List.mem_map_of_mem hq, rfl⟩

theorem TrimsTo.assigned {body trimmed : List Code.Stmt} (h : TrimsTo body trimmed) :
    Eval.assignedAll trimmed = Eval.assignedAll body := by
  cases h with
  | whole => rfl
  | dropped h =>
    rw [h, assignedAll_append]
    exact (List.append_nil _).symm

theorem TrimsTo.mem {body trimmed : List Code.Stmt} (h : TrimsTo body trimmed) {st : Code.Stmt}
    (hst : st ∈ body) (hpass : st ≠ .pass) : st ∈ trimmed := by
  cases h with
  | whole => exact hst
  | dropped h =>
    rw [h] at hst
    exact (List.mem_append.mp hst).resolve_right fun h => hpass (List.mem_singleton.mp h)

/-- The only constructor of a class is its first one. -/
theorem firstConstructor?_of_mem {file : String} (h : classFindings file c = []) {ts : List Token}
    {name : Token} {ps : List Param} {b : List Stmt} (hmem : .constructor ts name ps b ∈ c.members) :
    firstConstructor? c.members = some (ps, b) := by
  have hfirst : ∀ {ms : List Member}, .constructor ts name ps b ∈ ms →
      ∃ ts' name' ps' b', .constructor ts' name' ps' b' ∈ ms
        ∧ firstConstructor? ms = some (ps', b') := by
    intro ms hms
    induction ms with
    | nil => cases hms
    | cons m ms ih =>
      cases m with
      | constructor ts' name' ps' b' => exact ⟨ts', name', ps', b', List.mem_cons_self, rfl⟩
      | field | method =>
        obtain ⟨ts', name', ps', b', hmem', hfound⟩ := ih ((List.mem_cons.mp hms).resolve_left nofun)
        exact ⟨ts', name', ps', b', List.mem_cons_of_mem _ hmem', hfound⟩
  obtain ⟨ts', name', ps', b', hmem', hfound⟩ := hfirst hmem
  obtain ⟨-, -, rfl, rfl⟩ := Member.constructor.inj (eq_of_memberKey_eq h hmem hmem' rfl)
  exact hfound

/-- The code of a class with nothing to report has all members of the class. -/
theorem carries_classCode {file : String} (h : classFindings file c = []) {m : Member}
    (hm : m ∈ c.members) : Carries (classCode c n).1 m := by
  obtain ⟨methods, inits, hfunctions, -, hinits⟩ := exists_initialiser c n
  cases m with
  | field ts d =>
    cases hstatic : isStatic ts with
    | true =>
      have hd : d ∈ staticFields c := List.mem_filterMap.mpr ⟨_, hm, by simp [hstatic]⟩
      have hfield : initialiser c d ∈ (classCode c n).1.fields := by
        rw [fields_classCode]
        exact List.mem_map_of_mem hd
      exact .staticField hstatic hfield
    | false =>
      have hd : d ∈ instanceFields c.members := List.mem_filterMap.mpr ⟨_, hm, by simp [hstatic]⟩
      rcases hinits with ⟨-, -, hnone⟩ | ⟨-, k, body, htrims, rfl⟩
      · rw [hnone] at hd
        cases hd
      · have hset : fieldSet (ClassNames.of c) d ∈ initBody c k :=
          List.mem_append_left _ (List.mem_append_right _ (List.mem_map_of_mem hd))
        exact .instanceField hstatic (hfunctions ▸ List.mem_append_right _ List.mem_cons_self) rfl
          (htrims.mem hset (by simp [fieldSet]))
  | method ts t name ps b =>
    obtain ⟨k, hmethod⟩ := method_membersCode (ClassNames.of c) ⟨[], none, [], []⟩ n hm
    refine .method (List.mem_append_left _ hmethod) rfl fun x hx => ?_
    have hvariable := variables_bodyCode (bodyScope (ClassNames.of c) (isStatic ts) ps b) k hx
    unfold variablesOf
    split
    · exact hvariable
    · exact List.mem_cons_of_mem _ hvariable
  | constructor ts name ps b =>
    have hfirst := firstConstructor?_of_mem h hm
    rcases hinits with ⟨-, hnone, -⟩ | ⟨-, k, body, htrims, rfl⟩
    · rw [hfirst] at hnone
      cases hnone
    · refine .constructor (hfunctions ▸ List.mem_append_right _ List.mem_cons_self) rfl
        fun x hx => List.mem_cons_of_mem _ ?_
      have hvariable := variables_bodyCode (bodyScope (ClassNames.of c) false ps b) k hx
      have hparams : initParams c = ps := by
        rw [initParams, hfirst]
        rfl
      have hbody : initBody c k = (if c.base.isSome then [baseInit] else [])
          ++ (instanceFields c.members).map (fieldSet (ClassNames.of c))
          ++ blockCode (bodyCode (bodyScope (ClassNames.of c) false ps b) k b).1 := by
        rw [initBody, hfirst]
        rfl
      rw [hparams, htrims.assigned, hbody, assignedAll_append]
      rcases List.mem_append.mp hvariable with hparam | hassigned
      · exact List.mem_append_left _ hparam
      · exact List.mem_append_right _ (List.mem_append_right _ hassigned)

theorem nodup_of_repeatedParam? {cls : String} {seen : List String} {ps : List Code.Param}
    (h : Code.repeatedParam? cls seen ps = none) :
    (ps.map fun q => privateName cls q.name).Nodup ∧ ∀ q ∈ ps, privateName cls q.name ∉ seen := by
  induction ps generalizing seen with
  | nil => exact ⟨List.nodup_nil, nofun⟩
  | cons q ps ih =>
    unfold Code.repeatedParam? at h
    simp only at h
    split at h
    · cases h
    · next hnew =>
      obtain ⟨hnodup, hfresh⟩ := ih h
      refine ⟨List.nodup_cons.mpr ⟨fun hmem => ?_, hnodup⟩, List.forall_mem_cons.mpr
        ⟨by simpa using hnew, fun r hr hseen => hfresh r hr (List.mem_cons_of_mem _ hseen)⟩⟩
      obtain ⟨r, hr, hsame⟩ := List.mem_map.mp hmem
      exact hfresh r hr (hsame ▸ List.mem_cons_self)

/-- No two parameters of a function of sound code have one name in the class. -/
theorem params_nodup {k : Code.Class} (h : k.fault? = none) {f : Code.Function}
    (hf : f ∈ k.functions) : (f.params.map fun q => privateName k.name q.name).Nodup := by
  have hnone : k.paramFault? = none := by
    simp only [Code.Class.fault?, Option.orElse_eq_none] at h
    exact h.2.2.1
  have hparam := List.findSome?_eq_none_iff.mp hnone f hf
  exact (nodup_of_repeatedParam? (Option.map_eq_none_iff.mp hparam)).1

end

/-! ## Programs -/

/-- Two types of a program have one identifier just if the name of one is a reserved word and the
other is what this gets (`Escapes`). The same holds of two members of a class and of two variables
of a member, and there a private name and what is meant by it are one as well (`Meets`). No two
parameters are one, the initialiser shares its name only with a member that is written so, and one
variable is read under another name than its own. -/
theorem identifiers_shared {h : Host} {encoding : String} {sources references : List String}
    {p : Program} (hp : (Program.compile encoding sources references h).1 = .ok (.ok p)) :
    (∀ d ∈ p.types, ∀ e ∈ p.types, d.code.name = e.code.name
        ↔ d = e ∨ Escapes d.name e.name ∨ Escapes e.name d.name)
      ∧ ∀ c ∈ Entry.declared h encoding sources, ∃ d ∈ p.types, IsCodeOf c d
        ∧ (∀ m ∈ c.members, Carries d.code m)
        ∧ (∀ x y, storedName c x = storedName c y ↔ x = y ∨ Meets c x y ∨ Meets c y x)
        ∧ (∀ x, storedName c x = initName ↔ x = initName)
        ∧ (∀ f ∈ d.code.functions, (f.params.map fun q => privateName d.code.name q.name).Nodup)
        ∧ ∀ m ∈ c.members, ∀ x ∈ (memberScope (ClassNames.of c) m).locals,
          (memberScope (ClassNames.of c) m).codeOf x = .name (Scope.globalIdent x)
            ∧ ∀ y, privateName d.code.name (Scope.globalIdent x) = storedName c y
              ↔ if x = "string" then y = "String" else x = y ∨ Meets c x y ∨ Meets c y x := by
  obtain ⟨hfine, -, -, hsound⟩ := Program.compile_eq_program_iff.mp hp
  obtain ⟨hperm, hfirst⟩ := Program.types_of_program hp
  obtain ⟨hcode, hnone⟩ := Entry.declared_of_fine hfine
  have hname {c : ClassDecl} {d : TypeDecl} (hd : IsCodeOf c d) :
      d.code.name = ident c.name.text := by
    obtain ⟨n, hn⟩ := hd.code
    rw [hn]
    rfl
  constructor
  · have htype {d : TypeDecl} (hd : d ∈ p.types) : d.code.name = ident d.name := by
      obtain ⟨c, -, hcd⟩ := Entry.exists_of_forall₂ hcode.flip (hperm.subset hd)
      rw [hname hcd, hcd.name]
    intro d hd e he
    rw [htype hd, htype he, ident_eq_ident_iff]
    exact or_congr_left ⟨List.inj_on_of_nodup_map hfirst.nodup hd he, congrArg _⟩
  · intro c hc
    obtain ⟨d, hd, hcd⟩ := Entry.exists_of_forall₂ hcode hc
    obtain ⟨file, hfile⟩ := hnone c hc
    refine ⟨d, hperm.mem_iff.mpr hd, hcd, fun m hm => ?_, fun x y => storedName_eq_storedName_iff,
      fun x => storedName_eq_initName_iff, fun f hf => params_nodup (hsound d hd).2 hf,
      fun m hm x hx => ⟨?_, fun y => ?_⟩⟩
    · obtain ⟨n, hn⟩ := hcd.code
      rw [hn]
      exact carries_classCode hfile hm
    · rw [Scope.codeOf, meaning_of_mem hx]
    · rw [hname hcd]
      exact privateName_globalIdent_eq_iff

/-- A type and members of it that are named by a reserved word, and others that are named by what
this gets. -/
def sharingHost : Host where
  tree := ⟨[(["a.cs"], .file (Text.encodeUtf8
    ("class pass \x7b static int None = 1; static int None_ = 2; "
    ++ "static int F() \x7b int self = 1; int self_ = 2; return self; \x7d \x7d "
    ++ "class pass_ \x7b \x7d").toList))]⟩
  cwd := "/"
  home := "/"
  tempDir := "/"
  copies := []
  named := 0
  notices := []
  asked := []

theorem identifiers_shared_reserved : ∃ p,
    (Program.compile "utf-8" ["a.cs"] [] sharingHost).1 = .ok (.ok p)
      ∧ (∃ d ∈ p.types, ∃ e ∈ p.types, d.name ≠ e.name ∧ d.code.name = e.code.name)
      ∧ ∃ c ∈ Entry.declared sharingHost "utf-8" ["a.cs"], DeclaresMember c.members "None"
        ∧ DeclaresMember c.members "None_" ∧ storedName c "None" = storedName c "None_"
        ∧ ∃ m ∈ c.members, ∃ d ∈ p.types,
          (memberScope (ClassNames.of c) m).locals = ["self", "self_"]
            ∧ privateName d.code.name (Scope.globalIdent "self") = storedName c "self_" := by
  have hnames : (Program.program? (Program.compile "utf-8" ["a.cs"] [] sharingHost).1).map
      (fun p => p.types.map (·.name)) = some ["pass", "pass_"] := by decide +kernel
  have hclass : ∃ c ∈ Entry.declared sharingHost "utf-8" ["a.cs"],
      (∃ m ∈ c.members, memberName? m = some ("None", true))
        ∧ (∃ m ∈ c.members, memberName? m = some ("None_", true))
        ∧ ∃ m ∈ c.members, (memberScope (ClassNames.of c) m).locals = ["self", "self_"] := by
    decide +kernel
  obtain ⟨p, hp, hnames⟩ := Option.map_eq_some_iff.mp hnames
  obtain ⟨c, hc, ⟨m, hm, hmname⟩, ⟨m', hm', hmname'⟩, k, hk, hlocals⟩ := hclass
  have hp := Program.program?_eq_some.mp hp
  obtain ⟨htypes, hclasses⟩ := identifiers_shared hp
  obtain ⟨d', hd', -, -, hmembers, -, -, hvariables⟩ := hclasses c hc
  obtain ⟨d, hd, hdname⟩ := List.mem_map.mp (hnames ▸ List.mem_cons_self)
  obtain ⟨e, he, hename⟩ : ∃ e ∈ p.types, e.name = "pass_" :=
    List.mem_map.mp (hnames ▸ List.mem_cons_of_mem _ List.mem_cons_self)
  refine ⟨p, hp, ⟨d, hd, e, he, ?_, (htypes d hd e he).mpr (.inr (.inl ?_))⟩, c, hc,
    ⟨m, hm, true, hmname⟩, ⟨m', hm', true, hmname'⟩,
    (hmembers _ _).mpr (.inr (.inl (.escaped (by decide +kernel)))), k, hk, d', hd', hlocals, ?_⟩
  · rw [hdname, hename]
    decide
  · rw [hdname, hename]
    decide +kernel
  · refine ((hvariables k hk "self" (hlocals ▸ List.mem_cons_self)).2 "self_").mpr ?_
    rw [if_neg (by decide)]
    exact .inr (.inl (.escaped (by decide +kernel)))

end BraceScript.Lowering
