import BraceScript.Proofs.Eval.Made

/-!
# What operations on values are made of

Every operation that code is made of is `Made` of steps that leave the variables of the current scope
alone, of calls of values, and of looking up names that are relied on; setting an attribute changes
no more than code can change that never assigns another attribute. There is one lemma for each
operation, in the order of the operations themselves, and each follows from those of the parts.
-/

namespace BraceScript.Eval

open Code
open Text (Points)

section
variable {x : String} {α : Type}

/-! ## Making values -/

@[grind ←]
theorem newList_plain (items : Array Value) : Plain x (newList items) :=
  .step _ (fun _ _ => rfl) (fun _ => .of_eq rfl rfl rfl) fun _ _ =>
    .of_eq rfl rfl rfl rfl rfl List.suffix_rfl

@[grind ←]
theorem newDict_plain (entries : Array (Value × Value)) : Plain x (newDict entries) :=
  .step _ (fun _ _ => rfl) (fun _ => .of_eq rfl rfl rfl) fun _ _ =>
    .of_eq rfl rfl rfl rfl rfl List.suffix_rfl

@[grind ←]
theorem newMembers_plain (members : Array Value) : Plain x (newMembers members) :=
  .step _ (fun _ _ => rfl) (fun _ => .of_eq rfl rfl rfl) fun _ _ =>
    .of_eq rfl rfl rfl rfl rfl List.suffix_rfl

@[grind ←]
theorem newFloat_plain (y : Float) : Plain x (newFloat y) := by
  unfold newFloat
  split
  · exact .step _ (fun _ _ => rfl) (fun _ => .of_eq rfl rfl rfl) fun _ _ =>
    .of_eq rfl rfl rfl rfl rfl List.suffix_rfl
  · exact .pure _

@[grind ←]
theorem newObject_plain (o : Instance) : Plain x (newObject o) :=
  .step _ (fun _ _ => rfl) (fun _ => .of_eq rfl rfl rfl) fun s _ => .new_object s o

@[grind ←]
theorem changeObject_plain (p : Nat) {f : Instance → Instance}
    (hf : (fun o => (f o).inner) = Instance.inner) : Plain x (changeObject p f) :=
  .modify (fun _ _ => rfl) (fun _ => .of_eq rfl rfl rfl) fun s _ => .object s p (congrFun hf)

@[grind ←]
theorem newException_plain (name : String) (args : List Value) (fields : Variables) :
    Plain x (newException name args fields) := by
  unfold newException
  grind

/-! ## Raising -/

@[grind ←]
theorem fail_plain (f : Fault) : Plain x (fail f : Eval α) := by
  unfold fail
  grind

@[grind ←]
theorem check_plain (r : Except Fault α) : Plain x (check r) := by
  unfold check
  grind

/-! ## Names -/

@[grind ←]
theorem unbound_plain (name : String) : Plain x (unbound name) := by
  unfold unbound
  grind

@[grind ←]
theorem bound_plain {name : String} (hname : Relied name) : Plain x (bound name) :=
  Made.lookup name hname

@[grind ←]
theorem globalValue_plain {name : String} (hname : Relied name) : Plain x (globalValue name) := by
  rw [globalValue_eq]
  grind

/-- What a name stands for is found without changing the store, whatever name it is. -/
@[grind ←]
theorem globalValue_leaves (name : String) : Leaves x (globalValue name) := by
  rw [globalValue_eq]
  refine Leaves.bind (.of_same fun _ => rfl) fun v? => ?_
  grind

/-! ## Operations that classes define -/

@[grind ←]
theorem ask_made (v : Value) (name : String) (args : List Value) : Made x (ask v name args) := by
  unfold ask
  simp (disch := simp) only [get_bind_calling]
  grind

@[grind ←]
theorem asIndex?_made (v : Value) : Made x (asIndex? v) := by
  refine .looks (by simp) fun s => ?_
  split
  · exact .pure _
  · refine .looks (by simp) fun s => ?_
    split
    · exact .pure _
    · refine (Made.call _ _).bind fun r => ?_
      simp (disch := simp) only [get_bind_calling]
      grind

@[grind ←]
theorem asInteger_made (v : Value) : Made x (asInteger v) := by
  unfold asInteger
  simp (disch := simp) only [get_bind_calling]
  grind

@[grind ←]
theorem lengthFrom_made (v : Value) : Made x (lengthFrom v) := by
  unfold lengthFrom
  grind

@[grind ←]
theorem length_made (v : Value) : Made x (length v) := by
  unfold length
  simp (disch := simp) only [get_bind_calling]
  grind

@[grind ←]
theorem truth_made (v : Value) : Made x (truth v) := by
  unfold truth
  simp (disch := simp) only [get_bind_calling]
  grind

/-! ## Numbers -/

@[grind ←]
theorem give_plain (n : Num) : Plain x n.give := by
  unfold Num.give
  grind

/-! ## Comparing -/

section
variable {agree : Value → Value → Calling Bool} {compare : BinaryOp → Value → Value → Calling Value}

@[grind ←]
theorem firstDifference_made (hagree : ∀ v w, Made x (agree v w)) (vs ws : List Value) :
    Made x (firstDifference agree vs ws) := by
  induction vs generalizing ws with
  | nil => cases ws <;> exact .pure _
  | cons v vs ih =>
    cases ws with
    | nil => exact .pure _
    | cons w ws =>
      unfold firstDifference
      grind

@[grind ←]
theorem orElse_made {a b : Calling (Option Value)} (ha : Made x a) (hb : Made x b) :
    Made x (orElse a b) := by
  unfold orElse
  grind

@[grind ←]
theorem among_made (hagree : ∀ v w, Made x (agree v w)) (v : Value) (ws : List Value) :
    Made x (among agree v ws) := by
  induction ws with
  | nil => exact .pure _
  | cons w ws ih =>
    unfold among
    grind

@[grind ←]
theorem allAmong_made (hagree : ∀ v w, Made x (agree v w)) (ws vs : List Value) :
    Made x (allAmong agree ws vs) := by
  induction vs with
  | nil => exact .pure _
  | cons v vs ih =>
    unfold allAmong
    grind

@[grind ←]
theorem found_made (hagree : ∀ v w, Made x (agree v w)) (k : Value) (es : List (Value × Value)) :
    Made x (entriesAmong.found agree k es) := by
  induction es with
  | nil => exact .pure _
  | cons e es ih =>
    unfold entriesAmong.found
    grind

@[grind ←]
theorem entriesAmong_made (hagree : ∀ v w, Made x (agree v w)) (others es : List (Value × Value)) :
    Made x (entriesAmong agree others es) := by
  induction es with
  | nil => exact .pure _
  | cons e es ih =>
    unfold entriesAmong
    grind

@[grind ←]
theorem compareSets_made (hagree : ∀ v w, Made x (agree v w)) (vs ws : List Value) :
    Made x (compareSets agree vs ws) := by
  unfold compareSets
  grind

@[grind ←]
theorem compareRows_made (hagree : ∀ v w, Made x (agree v w))
    (hcompare : ∀ op v w, Made x (compare op v w)) (op : BinaryOp) (vs ws : List Value) :
    Made x (compareRows agree compare op vs ws) := by
  unfold compareRows
  grind

@[grind ←]
theorem equalParts?_made (hagree : ∀ v w, Made x (agree v w)) (a b : Value) :
    Made x (equalParts? agree a b) := by
  unfold equalParts?
  simp (disch := simp) only [get_bind_calling]
  grind

@[grind ←]
theorem compareBuiltin_made (hagree : ∀ v w, Made x (agree v w))
    (hcompare : ∀ op v w, Made x (compare op v w)) (op : BinaryOp) (a b : Value) :
    Made x (compareBuiltin agree compare op a b) := by
  unfold compareBuiltin
  simp (disch := simp) only [get_bind_calling]
  grind

@[grind ←]
theorem compareFrom_made (hagree : ∀ v w, Made x (agree v w))
    (hcompare : ∀ op v w, Made x (compare op v w)) (op : BinaryOp) (v w : Value) :
    Made x (compareFrom agree compare op v w) := by
  unfold compareFrom
  simp (disch := simp) only [get_bind_calling]
  grind

end

/-- Comparing and agreeing call each other with less depth. -/
theorem compareUpTo_agreeUpTo_made (n : Nat) :
    (∀ op v w, Made x (compareUpTo n op v w)) ∧ ∀ v w, Made x (agreeUpTo n v w) := by
  induction n with
  | zero => exact ⟨fun _ _ _ => by unfold compareUpTo; exact .pure _,
      fun _ _ => by unfold agreeUpTo; exact .pure _⟩
  | succ n ih =>
    obtain ⟨hcompare, hagree⟩ := ih
    constructor
    · intro op v w
      unfold compareUpTo
      simp (disch := simp) only [get_bind_calling]
      grind
    · intro v w
      unfold agreeUpTo
      grind

@[grind ←]
theorem compareValues_made (op : BinaryOp) (v w : Value) : Made x (compareValues op v w) := by
  unfold compareValues
  exact .looks (by simp) fun _ => (compareUpTo_agreeUpTo_made _).1 op v w

@[grind ←]
theorem relate_made (op : BinaryOp) (v w : Value) : Made x (relate op v w) := by
  unfold relate
  grind

@[grind ←]
theorem agree_made (v w : Value) : Made x (agree v w) := by
  unfold agree
  exact .looks (by simp) fun _ => (compareUpTo_agreeUpTo_made _).2 v w

/-! ## Going through values -/

@[grind ←]
theorem start_made (v : Value) : Made x (Cursor.start v) := by
  refine .looks (by simp) fun s => ?_
  split
  · exact .lift (fail_plain _)
  · refine (Made.call _ _).bind fun source => ?_
    simp (disch := simp) only [get_bind_calling]
    grind
  · grind

@[grind ←]
theorem unlessRaised_made {a : Calling α} (names : List String) (ha : Made x a) :
    Made x (unlessRaised names a) := by
  refine .ending ha (fun r => ?_) rfl
  simp (disch := simp) only [get_bind_calling]
  grind

@[grind ←]
theorem advance_made (c : Cursor) : Made x c.advance := by
  unfold Cursor.advance
  simp (disch := simp) only [get_bind_calling]
  grind

theorem go_made (n : Nat) (before : List Value) (c : Cursor) :
    Made x (Cursor.rest.go n before c) := by
  induction n generalizing before c with
  | zero => exact .throw _
  | succ n ih =>
    unfold Cursor.rest.go
    grind

@[grind ←]
theorem rest_made (c : Cursor) : Made x c.rest := go_made _ _ c

@[grind ←]
theorem allItems_made (v : Value) : Made x (allItems v) := by
  unfold allItems
  simp (disch := simp) only [get_bind_calling]
  grind

/-! ## Values as text -/

section
variable {text shown : Value → Calling Points}

@[grind ←]
theorem numbered_made (htext : ∀ v, Made x (text v)) (number reason : Value) :
    Made x (exceptionText.numbered text number reason) := by
  unfold exceptionText.numbered
  grind

theorem exceptionText_made (htext : ∀ v, Made x (text v)) (hshown : ∀ v, Made x (shown v))
    (core : Core) (o : Instance) : Made x (exceptionText core o text shown) := by
  unfold exceptionText
  simp (disch := simp) only [get_bind_calling]
  grind

@[grind ←]
theorem givenText_made (name : String) (f : Value) : Made x (givenText name f) := by
  unfold givenText
  simp (disch := simp) only [get_bind_calling]
  grind

@[grind ←]
theorem textFrom_made (name : String) (f : Value) : Made x (textFrom name f) := by
  unfold textFrom
  grind

@[grind ←]
theorem hintPart_made (hshown : ∀ v, Made x (shown v)) (s : Store) (v : Value) :
    Made x (hintPart s shown v) := by
  unfold hintPart
  grind

end

/-- Values and objects are shown by each other, with less depth. -/
theorem shownUpTo_shownObject_made (n : Nat) :
    (∀ inside v, Made x (shownUpTo n inside v)) ∧ ∀ inside p, Made x (shownObject n inside p) := by
  induction n with
  | zero => exact ⟨fun _ _ => by unfold shownUpTo; exact .pure _,
      fun _ _ => by unfold shownObject; exact .pure _⟩
  | succ n ih =>
    obtain ⟨hvalue, hobject⟩ := ih
    constructor
    · intro inside v
      unfold shownUpTo
      refine .looks (by simp) fun s => ?_
      split
      all_goals grind
    · intro inside p
      unfold shownObject
      simp (disch := simp) only [get_bind_calling]
      grind

@[grind ←]
theorem shown_made (v : Value) : Made x (shown v) := by
  unfold shown
  exact .looks (by simp) fun _ => (shownUpTo_shownObject_made _).1 _ v

theorem textUpTo_made (n : Nat) (v : Value) : Made x (textUpTo n v) := by
  induction n generalizing v with
  | zero =>
    unfold textUpTo
    grind
  | succ n ih =>
    have hexception := exceptionText_made ih (fun v => shown_made (x := x) v)
    unfold textUpTo
    simp (disch := simp) only [get_bind_calling]
    grind

@[grind ←]
theorem text_made (v : Value) : Made x (text v) := by
  unfold text
  exact .looks (by simp) fun _ => textUpTo_made _ v

@[grind ←]
theorem toText_made (v : Value) : Made x (toText v) := by
  unfold toText
  split
  · simp (disch := simp) only [get_bind_calling]
    grind
  · grind

@[grind ←]
theorem plainScriptText_made (v : Value) : Made x (plainScriptText v) := by
  unfold plainScriptText
  grind

/-! ## Exceptions -/

@[grind ←]
theorem syntaxFields_made (args : List Value) : Made x (syntaxFields args) := by
  unfold syntaxFields
  grind

@[grind ←]
theorem readSystem_made (c : ClassRef) (args : List Value) : Made x (readSystem c args) := by
  unfold readSystem
  simp (disch := simp) only [get_bind_calling]
  grind

@[grind ←]
theorem textArgument_made (place : Nat) (v : Value) : Made x (textArgument place v) := by
  unfold textArgument
  simp (disch := simp) only [get_bind_calling]
  grind

@[grind ←]
theorem characterFields_made (isEncoded hasText : Bool) (args : List Value) :
    Made x (characterFields isEncoded hasText args) := by
  unfold characterFields
  extract_lets count
  split
  · exact .lift (fail_plain _)
  · refine (Made.mapM fun v => textArgument_made 1 v).bind fun encodings => ?_
    split
    · extract_lets rest
      have hrest : ∀ object, Made x (rest object) := by
        intro object
        refine (asInteger_made _).bind fun start => ?_
        refine (asInteger_made _).bind fun stop => ?_
        simp (disch := simp) only [get_bind_calling]
        grind
      clear_value rest
      grind
    · exact .pure _

@[grind ←]
theorem groupFields_made (c : ClassRef) (args : List Value) : Made x (groupFields c args) := by
  unfold groupFields
  split
  · refine .looks (by simp) fun s => ?_
    extract_lets ofMembers ofItems
    have hmembers : ∀ u, Made x (ofMembers u) := by
      intro u
      refine (allItems_made _).bind fun vs => ?_
      grind
    have hitems : ∀ u, Made x (ofItems u) := by
      intro u
      clear_value ofMembers
      unfold ofItems
      grind
    clear_value ofItems
    grind
  · grind

@[grind ←]
theorem newExceptionOf_made (c : ClassRef) (args : List Value) :
    Made x (newExceptionOf c args) := by
  unfold newExceptionOf
  simp (disch := simp) only [get_bind_calling]
  grind

@[grind ←]
theorem initException_made (p : Nat) (args : List Value) : Made x (initException p args) := by
  unfold initException
  simp (disch := simp) only [get_bind_calling]
  grind

/-! ## Attributes -/

@[grind ←]
theorem failAttribute_plain (v : Value) (name : String) :
    Plain x (failAttribute v name : Eval α) := by
  unfold failAttribute
  simp (disch := simp) only [get_bind_eval]
  grind

@[grind ←]
theorem attrOf_made (v : Value) (name : String) : Made x (attrOf v name) := by
  unfold attrOf
  simp (disch := simp) only [get_bind_calling]
  grind

@[grind ←]
theorem callAttr_made (v : Value) (name : String) (args : List Value) :
    Made x (callAttr v name args) := by
  unfold callAttr
  grind

@[grind ←]
theorem checkField_made (name : String) (new : Value) : Made x (checkField name new) := by
  unfold checkField
  simp (disch := simp) only [get_bind_calling]
  grind

@[grind ←]
theorem setField_made (p : Nat) (name : String) (new : Value) :
    Made x (setField p name new) := by
  unfold setField
  grind

@[grind ←]
theorem setClass_made (p : Nat) (new : Value) : Made x (setClass p new) := by
  unfold setClass
  simp (disch := simp) only [get_bind_calling]
  grind

@[grind ←]
theorem setInstanceAttribute_made (p : Nat) (name : String) (new : Value) :
    Made x (setInstanceAttribute p name new) := by
  unfold setInstanceAttribute
  simp (disch := simp) only [get_bind_calling]
  grind

/-- An attribute that is not the one in question may be set. -/
theorem setAttribute_made {name : String} (hname : ∀ s, Spared x s → name ≠ x) (v new : Value) :
    Made x (setAttribute v name new) := by
  refine .looks (by simp) fun s => ?_
  split
  · grind
  · split
    · grind
    · exact .lift (.modify (fun _ _ => rfl) (fun _ => .of_eq rfl rfl rfl) fun s hs =>
        .class_member (hname s hs) s _ new)
    · grind
    · grind
    · grind
    · grind
    · exact .modify (fun _ _ => rfl) (fun _ => .of_eq rfl rfl rfl) fun s _ => .module_attr s _ _ _ _
    · refine .modify (fun s o => ?_) (fun _ => .of_eq rfl rfl rfl) fun s _ =>
        .function_attr s _ (·.put name new)
      rw [Store.amid, Store.amid, s.amid_functions_modify o _ (·.put name new)]
    · grind

/-- Whatever the name of an attribute that is set is, there is another one that is not. -/
theorem exists_setAttribute_made (v : Value) (name : String) (new : Value) :
    ∃ x, Made x (setAttribute v name new) := by
  refine ⟨name ++ "'", setAttribute_made (fun _ _ h => ?_) v new⟩
  simpa using congrArg String.length h

/-! ## Hints -/

@[grind ←]
theorem nameHint_made (t : Points) : Made x (nameHint t) := by
  unfold nameHint
  grind

@[grind ←]
theorem hintItem_made (v : Value) : Made x (hintItem v) := by
  unfold hintItem
  simp (disch := simp) only [get_bind_calling]
  grind

@[grind ←]
theorem listHintOf_made (v : Value) : Made x (listHintOf v) := by
  unfold listHintOf
  simp (disch := simp) only [get_bind_calling]
  grind

@[grind ←]
theorem earlier?_made (v : Value) (ws : List Value) : Made x (earlier? v ws) := by
  induction ws with
  | nil => exact .pure _
  | cons w ws ih =>
    unfold earlier?
    grind

theorem checkKeyUpTo_made (n : Nat) (v : Value) : Made x (checkKeyUpTo n v) := by
  induction n generalizing v with
  | zero => exact .pure _
  | succ n ih =>
    unfold checkKeyUpTo
    simp (disch := simp) only [get_bind_calling]
    grind

@[grind ←]
theorem checkKey_made (v : Value) : Made x (checkKey v) :=
  .looks (by simp) fun _ => checkKeyUpTo_made _ v

@[grind ←]
theorem isKey_made (v : Value) : Made x (isKey v) := by
  unfold isKey
  grind

@[grind ←]
theorem hintFor_made (v : Value) : Made x (hintFor v) := by
  refine (isKey_made v).bind fun isKey => ?_
  split
  · refine .looks (by simp) fun s => ?_
    refine (earlier?_made v s.hints).bind fun found => ?_
    split
    · exact listHintOf_made _
    · refine (listHintOf_made v).bind fun h => ?_
      refine Made.bind (.modify (fun _ _ => rfl) (fun s => ?_) fun s _ => .hint s v) fun _ => .pure h
      exact .of_eq rfl rfl rfl
  · exact listHintOf_made v

@[grind ←]
theorem classHint_made (c : ClassRef) (v : Value) : Made x (classHint c v) := by
  unfold classHint
  simp (disch := simp) only [get_bind_calling]
  grind

/-! ## Items by place -/

@[grind ←]
theorem placeOf_made (kind : Sequence) (length : Nat) (place : Value) (outside : Fault) :
    Made x (placeOf kind length place outside) := by
  unfold placeOf
  simp (disch := simp) only [get_bind_calling]
  grind

@[grind ←]
theorem findKey_made (key : Value) (i : Nat) (ks : List Value) : Made x (findKey key i ks) := by
  induction ks generalizing i with
  | nil => exact .pure _
  | cons k ks ih =>
    unfold findKey
    grind

@[grind ←]
theorem keyPlace?_made (p : Nat) (key : Value) : Made x (keyPlace? p key) := by
  unfold keyPlace?
  simp (disch := simp) only [get_bind_calling]
  grind

@[grind ←]
theorem putEntry_made (p : Nat) (key v : Value) : Made x (putEntry p key v) := by
  unfold putEntry
  grind

@[grind ←]
theorem addMember_made (p : Nat) (v : Value) : Made x (addMember p v) := by
  unfold addMember
  simp (disch := simp) only [get_bind_calling]
  grind

@[grind ←]
theorem itemAt_made (v inner place : Value) : Made x (itemAt v inner place) := by
  unfold itemAt
  simp (disch := simp) only [get_bind_calling]
  grind

@[grind ←]
theorem index_made (v place : Value) : Made x (index v place) := by
  unfold index
  simp (disch := simp) only [get_bind_calling]
  grind

@[grind ←]
theorem setIndex_made (v place item : Value) : Made x (setIndex v place item) := by
  unfold setIndex
  simp (disch := simp) only [get_bind_calling]
  grind

/-! ## Operators -/

@[grind ←]
theorem refuse_plain (sign : String) (l r : Value) : Plain x (refuse sign l r : Eval α) := by
  unfold refuse
  simp (disch := simp) only [get_bind_eval]
  grind

@[grind ←]
theorem joined_made (l r : Value) : Made x (joined l r) := by
  unfold joined
  simp (disch := simp) only [get_bind_calling]
  grind

@[grind ←]
theorem repetitions_made (fault : String → Fault) (count : Value) :
    Made x (repetitions fault count) := by
  unfold repetitions
  simp (disch := simp) only [get_bind_calling]
  grind

@[grind ←]
theorem repeatedBy_made (fault : String → Fault) (inner count : Value) :
    Made x (repeatedBy fault inner count) := by
  unfold repeatedBy
  simp (disch := simp) only [get_bind_calling]
  grind

@[grind ←]
theorem membersWithout_made (l r : Value) : Made x (membersWithout l r) := by
  refine .looks (by simp) fun s => ?_
  split
  · refine (Made.filterM fun v => ?_).bind fun kept => .pure _
    exact (among_made agree_made v _).bind fun _ => .pure _
  · exact .pure _

@[grind ←]
theorem setDifference_made (l r : Value) : Made x (setDifference l r) := by
  unfold setDifference
  simp (disch := simp) only [get_bind_calling]
  grind

@[grind ←]
theorem removeInPlace_made (p : Nat) (v : Value) : Made x (removeInPlace p v) := by
  refine (membersWithout_made _ _).bind fun kept => ?_
  split
  · exact .pure _
  · refine Made.bind (.modify (fun _ _ => rfl) (fun _ => .of_eq rfl rfl rfl) fun s _ => ?_)
      fun _ => .pure _
    exact .collections s _ _ _

@[grind ←]
theorem kindOn_made (op : ArithmeticOp) (v l r : Value) : Made x (kindOn op v l r) := by
  unfold kindOn
  simp (disch := simp) only [get_bind_calling]
  grind

@[grind ←]
theorem leftSide_made (op : ArithmeticOp) (l r : Value) : Made x (leftSide op l r) := by
  unfold leftSide
  simp (disch := simp) only [get_bind_calling]
  grind

@[grind ←]
theorem rightSide_made (op : ArithmeticOp) (l r : Value) : Made x (rightSide op l r) := by
  unfold rightSide
  simp (disch := simp) only [get_bind_calling]
  grind

@[grind ←]
theorem combine?_made (op : ArithmeticOp) (l r : Value) : Made x (combine? op l r) := by
  unfold combine?
  simp (disch := simp) only [get_bind_calling]
  grind

@[grind ←]
theorem joinedOr_made (sign : String) (l r : Value) : Made x (joinedOr sign l r) := by
  unfold joinedOr
  simp (disch := simp) only [get_bind_calling]
  grind

@[grind ←]
theorem plus_made (sign : String) (l r : Value) : Made x (plus sign l r) := by
  unfold plus
  grind

@[grind ←]
theorem minus_made (sign : String) (l r : Value) : Made x (minus sign l r) := by
  unfold minus
  grind

@[grind ←]
theorem repeatedOr_made (sign : String) (l r : Value) : Made x (repeatedOr sign l r) := by
  unfold repeatedOr
  simp (disch := simp) only [get_bind_calling]
  grind

@[grind ←]
theorem product_made (sign : String) (l r : Value) : Made x (product sign l r) := by
  unfold product
  grind

@[grind ←]
theorem quotientBy_made (op : ArithmeticOp) (l r : Value) : Made x (quotientBy op l r) := by
  unfold quotientBy
  grind

@[grind ←]
theorem negative_made (v : Value) : Made x (negative v) := by
  unfold negative
  simp (disch := simp) only [get_bind_calling]
  grind

@[grind ←]
theorem binary_made (op : BinaryOp) (l r : Value) : Made x (binary op l r) := by
  unfold binary
  grind

@[grind ←]
theorem extend_made (p : Nat) (v : Value) : Made x (extend p v) := by
  unfold extend
  grind

@[grind ←]
theorem repeatInPlace_made (p : Nat) (count : Value) : Made x (repeatInPlace p count) := by
  unfold repeatInPlace
  grind

@[grind ←]
theorem augmentedBare_made (op : AugmentOp) (old v : Value) :
    Made x (augmentedBare op old v) := by
  unfold augmentedBare
  simp (disch := simp) only [get_bind_calling]
  grind

@[grind ←]
theorem reduced_made (op : AugmentOp) (old v : Value) : Made x (reduced op old v) := by
  unfold reduced
  simp (disch := simp) only [get_bind_calling]
  grind

@[grind ←]
theorem augmented_made (op : AugmentOp) (old v : Value) : Made x (augmented op old v) := by
  unfold augmented
  simp (disch := simp) only [get_bind_calling]
  grind

/-! ## Conversions -/

@[grind ←]
theorem integerFrom_made (name : String) (f : Value) : Made x (integerFrom name f) := by
  unfold integerFrom
  simp (disch := simp) only [get_bind_calling]
  grind

@[grind ←]
theorem doubleFrom_made (v f : Value) : Made x (doubleFrom v f) := by
  unfold doubleFrom
  simp (disch := simp) only [get_bind_calling]
  grind

@[grind ←]
theorem asNumber?_made (v : Value) : Made x (asNumber? v) := by
  unfold asNumber?
  simp (disch := simp) only [get_bind_calling]
  grind

@[grind ←]
theorem real_made (v : Value) : Made x (real v) := by
  unfold real
  simp (disch := simp) only [get_bind_calling]
  grind

@[grind ←]
theorem integerByMembers_made (v : Value) : Made x (integerByMembers v) := by
  refine .looks (by simp) fun s => ?_
  split
  · exact integerFrom_made _ _
  · refine (Made.call _ _).bind fun r => ?_
    simp (disch := simp) only [get_bind_calling]
    grind
  · exact .lift (check_plain _)
  · exact .lift (fail_plain _)

@[grind ←]
theorem toInteger_made (v : Value) : Made x (toInteger v) := by
  unfold toInteger
  simp (disch := simp) only [get_bind_calling]
  grind

@[grind ←]
theorem toIntegerIn_made (v base : Value) : Made x (toIntegerIn v base) := by
  unfold toIntegerIn
  simp (disch := simp) only [get_bind_calling]
  grind

@[grind ←]
theorem toDouble_made (v : Value) : Made x (toDouble v) := by
  refine .looks (by simp) fun s => ?_
  split
  · exact .pure _
  · split
    · grind
    · grind
    · refine (asNumber?_made v).bind fun n => ?_
      grind

@[grind ←]
theorem absolute_made (v : Value) : Made x (absolute v) := by
  unfold absolute
  simp (disch := simp) only [get_bind_calling]
  grind

@[grind ←]
theorem wholeBy_made (name : String) (round : Bool → Nat → Int → Int) (v : Value) :
    Made x (wholeBy name round v) := by
  unfold wholeBy
  simp (disch := simp) only [get_bind_calling]
  grind

@[grind ←]
theorem roundTo_made (v : Value) (digits : Option Value) : Made x (roundTo v digits) := by
  unfold roundTo
  simp (disch := simp) only [get_bind_calling]
  grind

@[grind ←]
theorem pick_made (op : BinaryOp) (best : Value) (vs : List Value) :
    Made x (pick op best vs) := by
  induction vs generalizing best with
  | nil => exact .pure _
  | cons v vs ih =>
    unfold pick
    grind

@[grind ←]
theorem pickOf_made (name : String) (op : BinaryOp) (args : List Value) :
    Made x (pickOf name op args) := by
  unfold pickOf
  grind

@[grind ←]
theorem joinTexts_made (separator : Points) (vs : List Value) :
    Made x (joinTexts separator vs) := by
  unfold joinTexts
  simp (disch := simp) only [get_bind_calling]
  grind

@[grind ←]
theorem baseName_made (v : Value) : Made x (baseName v) := by
  unfold baseName
  simp (disch := simp) only [get_bind_calling]
  grind

/-! ## Making values of a class -/

@[grind ←]
theorem optional_made (function : String) (args : List Value) :
    Made x (optional function args) := by
  unfold optional
  grind

@[grind ←]
theorem entryOf_made (i : Nat) (item : Value) : Made x (entryOf i item) := by
  unfold entryOf
  grind

@[grind ←]
theorem putRow_made (p i : Nat) (items : List Value) : Made x (putRow p i items) := by
  induction items generalizing i with
  | nil => exact .pure _
  | cons item items ih =>
    unfold putRow
    grind

@[grind ←]
theorem updateDict_made (p : Nat) (v : Value) : Made x (updateDict p v) := by
  unfold updateDict
  simp (disch := simp) only [get_bind_calling]
  grind

@[grind ←]
theorem updateSet_made (p : Nat) (v : Value) : Made x (updateSet p v) := by
  unfold updateSet
  grind

@[grind ←]
theorem dictOf_made (v? : Option Value) : Made x (dictOf v?) := by
  unfold dictOf
  grind

@[grind ←]
theorem membersFrom_made (v? : Option Value) : Made x (membersFrom v?) := by
  unfold membersFrom
  grind

@[grind ←]
theorem itemsFrom_made (v? : Option Value) : Made x (itemsFrom v?) := by
  unfold itemsFrom
  grind

@[grind ←]
theorem makeInt_made (args : List Value) : Made x (makeInt args) := by
  unfold makeInt
  grind

@[grind ←]
theorem makeFloat_made (args : List Value) : Made x (makeFloat args) := by
  unfold makeFloat
  grind

@[grind ←]
theorem checkTextArgument_made (name : String) (v : Value) :
    Made x (checkTextArgument name v) := by
  unfold checkTextArgument
  simp (disch := simp) only [get_bind_calling]
  grind

@[grind ←]
theorem makeText_made (args : List Value) : Made x (makeText args) := by
  unfold makeText
  split
  · exact .pure _
  · grind
  · split
    · exact .lift (fail_plain _)
    · refine (checkTextArgument_made _ _).bind fun _ => ?_
      refine (Made.forM fun v => checkTextArgument_made _ v).bind fun _ => ?_
      simp (disch := simp) only [get_bind_calling]
      grind

@[grind ←]
theorem makeRange_made (args : List Value) : Made x (makeRange args) := by
  unfold makeRange
  grind

@[grind ←]
theorem superOf_plain (start : ClassRef) (self : Value) : Plain x (superOf start self) := by
  unfold superOf
  simp (disch := simp) only [get_bind_eval]
  grind

@[grind ←]
theorem makeSuper_made (args : List Value) : Made x (makeSuper args) := by
  unfold makeSuper
  simp (disch := simp) only [get_bind_calling]
  grind

@[grind ←]
theorem construct_made (c : Core) (args : List Value) : Made x (construct c args) := by
  have hbool (v? : Option Value) : Made x ((v?.map truth).getD (pure false)) := by
    cases v? with
    | none => exact .pure _
    | some v => exact truth_made v
  unfold construct
  simp (disch := simp) only [get_bind_calling]
  grind

@[grind ←]
theorem innerOf_made (core : Core) (cls : String) (args : List Value) :
    Made x (innerOf core cls args) := by
  unfold innerOf
  simp (disch := simp) only [get_bind_calling]
  grind

@[grind ←]
theorem checkArguments_plain (c : ClassRef) (args : List Value) :
    Plain x (checkArguments c args) := by
  unfold checkArguments
  simp (disch := simp) only [get_bind_eval]
  grind

@[grind ←]
theorem allocate_made (c : ClassRef) (args : List Value) : Made x (allocate c args) := by
  unfold allocate
  simp (disch := simp) only [get_bind_calling]
  grind

@[grind ←]
theorem initialise_made (self : Value) (args : List Value) : Made x (initialise self args) := by
  unfold initialise
  simp (disch := simp) only [get_bind_calling]
  grind

@[grind ←]
theorem instantiate_made (c : ClassRef) (args : List Value) : Made x (instantiate c args) := by
  unfold instantiate
  simp (disch := simp) only [get_bind_calling]
  grind

@[grind ←]
theorem initObject_plain (c : ClassRef) (args : List Value) : Plain x (initObject c args) := by
  unfold initObject
  simp (disch := simp) only [get_bind_eval]
  grind

@[grind ←]
theorem initBuiltin_made (self : Value) (args : List Value) (c : Core) :
    Made x (initBuiltin self args c) := by
  refine .looks (by simp) fun s => ?_
  split
  · grind
  · refine (optional_made _ _).bind fun v? => ?_
    refine Made.bind (.modify (fun _ _ => rfl) (fun _ => .of_eq rfl rfl rfl) (by grind)) fun _ => ?_
    split
    · exact extend_made _ _
    · exact .pure _
  · grind
  · refine (optional_made _ _).bind fun v? => ?_
    refine Made.bind (.modify (fun _ _ => rfl) (fun _ => .of_eq rfl rfl rfl) (by grind)) fun _ => ?_
    split
    · exact updateSet_made _ _
    · exact .pure _
  · grind
  · exact .pure _

/-! ## Templates -/

@[grind ←]
theorem substituted_made {replace : List Nat → Calling Value} (hreplace : ∀ ds, Made x (replace ds))
    (before : List Nat) (ps : List Piece) : Made x (substituted replace before ps) := by
  induction ps generalizing before with
  | nil => exact .pure _
  | cons p ps ih => cases p <;> unfold substituted <;> grind

/-! ## Ready-made functions -/

@[grind ←]
theorem useName_made {name : String} (hname : Relied name) (args : List Value) :
    Made x (useName name args) := by
  unfold useName
  grind

@[grind ←]
theorem useNames_made {name inner : String} (hname : Relied name) (hinner : Relied inner)
    (v : Value) : Made x (useNames name inner v) := by
  unfold useNames
  grind

@[grind ←]
theorem useMember_made {name : String} (hname : Relied name) (member : String)
    (args : List Value) : Made x (useMember name member args) := by
  unfold useMember
  grind

@[grind ←]
theorem isOf_made (v : Value) {type : String} (htype : Relied type) : Made x (isOf v type) := by
  unfold isOf
  grind [relied]

@[grind ←]
theorem textByNames_made (v : Value) : Made x (textByNames v) := by
  unfold textByNames
  grind [relied]

@[grind ←]
theorem scriptText_made (v : Value) : Made x (scriptText v) := by
  unfold scriptText
  simp (disch := simp) only [get_bind_calling]
  grind

@[grind ←]
theorem isIntegerByNames_made (v : Value) : Made x (isIntegerByNames v) := by
  unfold isIntegerByNames
  grind [relied]

@[grind ←]
theorem areIntegersByNames_made (l r : Value) : Made x (areIntegersByNames l r) := by
  unfold areIntegersByNames
  grind [relied]

@[grind ←]
theorem scriptSum_made (l r : Value) : Made x (scriptSum l r) := by
  unfold scriptSum
  simp (disch := simp) only [get_bind_calling]
  grind [relied]

@[grind ←]
theorem quotientByNames_made (l r : Value) : Made x (quotientByNames l r) := by
  unfold quotientByNames
  grind [relied]

@[grind ←]
theorem scriptQuotient_made (l r : Value) : Made x (scriptQuotient l r) := by
  unfold scriptQuotient
  simp (disch := simp) only [get_bind_calling]
  grind

@[grind ←]
theorem scriptRemainder_made (l r : Value) : Made x (scriptRemainder l r) := by
  unfold scriptRemainder
  simp (disch := simp) only [get_bind_calling]
  grind [relied]

@[grind ←]
theorem textOfArgument_made (v : Value) : Made x (textOfArgument v) := by
  unfold textOfArgument
  simp (disch := simp) only [get_bind_calling]
  grind

@[grind ←]
theorem pieceText_made (args : Value) (p : Piece) : Made x (pieceText args p) := by
  unfold pieceText
  grind

@[grind ←]
theorem fill_made (template : Points) (args : Value) : Made x (fill template args) := by
  unfold fill
  grind

@[grind ←]
theorem replacementByNames_made (args digits : Value) :
    Made x (replacementByNames args digits) := by
  unfold replacementByNames
  grind [relied]

@[grind ←]
theorem substitute_made (pattern replace subject : Value) :
    Made x (substitute pattern replace subject) := by
  unfold substitute
  simp (disch := simp) only [get_bind_calling]
  grind

@[grind ←]
theorem scriptFormat_made (template args : Value) : Made x (scriptFormat template args) := by
  unfold scriptFormat
  simp (disch := simp) only [get_bind_calling]
  grind [relied]

@[grind ←]
theorem textsOf_made (n : Nat) (before : List Value) (c : Cursor) :
    Made x (scriptJoin.textsOf n before c) := by
  induction n generalizing before c with
  | zero => exact .throw _
  | succ n ih =>
    unfold scriptJoin.textsOf
    grind [relied]

@[grind ←]
theorem scriptJoin_made (separator values : Value) : Made x (scriptJoin separator values) := by
  unfold scriptJoin
  grind [relied]

@[grind ←]
theorem scriptConcat_made (vs : List Value) : Made x (scriptConcat vs) := by
  unfold scriptConcat
  grind [relied]

@[grind ←]
theorem streamOf_made (writer : Value) : Made x (streamOf writer) := by
  unfold streamOf
  grind

@[grind ←]
theorem namedStream_made (writer : Value) : Made x (namedStream writer) := by
  unfold namedStream
  grind [relied]

@[grind ←]
theorem writeValue_made (writer v : Value) (args : List Value) :
    Made x (writeValue writer v args) := by
  unfold writeValue
  grind [relied]

@[grind ←]
theorem writeLine_made (writer v : Value) (args : List Value) :
    Made x (writeLine writer v args) := by
  unfold writeLine
  grind

@[grind ←]
theorem useConsole_made (member : String) (args : List Value) :
    Made x (useConsole member args) := by
  unfold useConsole
  grind [relied]

@[grind ←]
theorem consoleLine_made : Made x (consoleLine) := by
  unfold consoleLine
  grind [relied]

@[grind ←]
theorem convertInteger_made (v : Value) : Made x (convertInteger v) := by
  unfold convertInteger
  grind [relied]

@[grind ←]
theorem convertDouble_made (v : Value) : Made x (convertDouble v) := by
  unfold convertDouble
  grind [relied]

@[grind ←]
theorem raiseValue_made (v : Value) : Made x (raiseValue v : Calling α) := by
  unfold raiseValue
  simp (disch := simp) only [get_bind_calling]
  grind

@[grind ←]
theorem convertBoolean_made (v : Value) : Made x (convertBoolean v) := by
  refine (isOf_made v (by grind [relied])).bind fun isText => ?_
  split
  · refine (callAttr_made v "strip" []).bind fun stripped => ?_
    refine (callAttr_made stripped "lower" []).bind fun word => ?_
    refine (relate_made .eq word _).bind fun isTrue => ?_
    grind [relied]
  · exact useName_made (by grind [relied]) _

@[grind ←]
theorem wholeDouble_made (member : String) (v : Value) : Made x (wholeDouble member v) := by
  unfold wholeDouble
  grind [relied]

/-! ## Calls of ready-made functions -/

@[grind ←]
theorem single_made (function : String) (args : List Value) : Made x (single function args) := by
  unfold single
  grind

@[grind ←]
theorem pairOf_made (function : String) (args : List Value) : Made x (pairOf function args) := by
  unfold pairOf
  grind

@[grind ←]
theorem noMore_made (function : String) (more : List Value) : Made x (noMore function more) := by
  unfold noMore
  grind

theorem anyOf_made {test : Value → Calling Bool} (htest : ∀ v, Made x (test v)) (types : List Value) :
    Made x (isInstanceOf.anyOf test types) := by
  induction types with
  | nil => exact .pure _
  | cons t ts ih =>
    unfold isInstanceOf.anyOf
    grind

@[grind ←]
theorem isInstanceOf_made (v : Value) (n : Nat) (type : Value) :
    Made x (isInstanceOf v n type) := by
  induction n generalizing type with
  | zero => exact .pure _
  | succ n ih =>
    have hany := anyOf_made ih
    unfold isInstanceOf
    simp (disch := simp) only [get_bind_calling]
    grind

@[grind ←]
theorem getAttribute_made (v name : Value) (default? : Option Value) :
    Made x (getAttribute v name default?) := by
  unfold getAttribute
  simp (disch := simp) only [get_bind_calling]
  grind

@[grind ←]
theorem strippedCodes_made (function : String) (args : List Value) :
    Made x (strippedCodes function args) := by
  unfold strippedCodes
  simp (disch := simp) only [get_bind_calling]
  grind

@[grind ←]
theorem selfText_made (self : Value) : Made x (selfText self) := by
  unfold selfText
  simp (disch := simp) only [get_bind_calling]
  grind

@[grind ←]
theorem joinItems_made (separator : Points) (v : Value) : Made x (joinItems separator v) := by
  unfold joinItems
  grind

@[grind ←]
theorem writeStream_plain (name : String) (t : Points) : Plain x (writeStream name t) := by
  refine .modify (fun s names => ?_) (fun s => ?_) fun s _ => ?_
  · split
    · rfl
    · split <;> rfl
  · split
    · exact ⟨by simp, List.prefix_rfl, List.suffix_rfl⟩
    · split
      · exact ⟨List.prefix_rfl, by simp, List.suffix_rfl⟩
      · exact .refl s
  · split
    · exact .of_eq rfl rfl rfl rfl rfl List.suffix_rfl
    · split
      · exact .of_eq rfl rfl rfl rfl rfl List.suffix_rfl
      · exact .refl s

@[grind ←]
theorem writeTo_made (stream v : Value) : Made x (writeTo stream v) := by
  unfold writeTo
  simp (disch := simp) only [get_bind_calling]
  grind

@[grind ←]
theorem takeLine_plain : Plain x takeLine := by
  refine .step _ (fun _ _ => rfl) (fun s => ?_) fun _ _ => .of_eq rfl rfl rfl rfl rfl List.suffix_rfl
  exact ⟨List.prefix_rfl, List.prefix_rfl, (List.drop_suffix ..).trans (List.dropWhile_suffix _)⟩

@[grind ←]
theorem readFrom_plain (stream : Value) : Plain x (readFrom stream) := by
  unfold readFrom
  grind

@[grind ←]
theorem make_made (args : List Value) : Made x (exitWith.make args) := by
  unfold exitWith.make
  grind

@[grind ←]
theorem exitWith_made (status : Option Value) : Made x (exitWith status) := by
  unfold exitWith
  simp (disch := simp) only [get_bind_calling]
  grind

@[grind ←]
theorem returnNull_made {a : Calling Unit} (ha : Made x a) : Made x (runReady.returnNull a) := by
  unfold runReady.returnNull
  grind

/-- The initialiser of writers sets an attribute, which is not the one in question. -/
@[grind ←]
theorem writerInit_made (self name : Value) :
    Made x (setAttribute self "_stream_name" name) :=
  setAttribute_made (fun _ hs => hs.writer) self name

@[grind ←]
theorem runReady_made (f : Native) (params more : List Value) :
    Made x (runReady f params more) := by
  unfold runReady
  grind [relied]

@[grind ←]
theorem runMember_made (f : Native) (self : Value) (args : List Value) :
    Made x (runBuiltin.runMember f self args) := by
  unfold runBuiltin.runMember
  simp (disch := simp) only [get_bind_calling]
  grind

@[grind ←]
theorem runBuiltin_made (f : Native) (args : List Value) : Made x (runBuiltin f args) := by
  unfold runBuiltin
  simp (disch := simp) only [get_bind_calling]
  grind

@[grind ←]
theorem runNative_made (f : Native) (params more : List Value) :
    Made x (runNative f params more) := by
  unfold runNative
  grind

end
end BraceScript.Eval
