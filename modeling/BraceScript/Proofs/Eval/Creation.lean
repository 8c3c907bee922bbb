import BraceScript.Proofs.Entry
import BraceScript.Proofs.Eval.Matching
import BraceScript.Proofs.Lowering.Pieces

/-!
# Creating objects

A call of a loaded class makes an object and calls the initialiser that is found first in the line
of the class. This one calls the one behind it before it does anything else, so all initialisers of
the line are looked up before the first statement of any of them is run: what classes contribute is
then run from the root down (`runShares`), each in a scope of its own. In a line of classes with
such initialisers (`Chain`) the call comes to the same as this sequence (`apply_class`), as long as
the name by which an initialiser calls the one behind it means what it should (`Resolves`). Where it
does not, the call ends with an exception (`resolves_of_ok`).
-/

namespace BraceScript.Eval

open Code Filter
open Lowering (baseInit)

/-! ## Programs that end alike in a store -/

section
variable {α β : Type} {A A' B C : Nat → Eval α} {s t : Store}

/-- Where one of two programs ends in a store, the other one ends in the same way with enough
fuel. -/
def EndsAs (A B : Nat → Eval α) (s : Store) : Prop :=
  ∀ n r t, A n s = (r, t) → r ≠ .error .outOfFuel → ∀ᶠ m in atTop, B m s = (r, t)

/-- Two programs that end in the same ways in a store. -/
structure EndAlike (A B : Nat → Eval α) (s : Store) : Prop where
  there : EndsAs A B s
  back : EndsAs B A s

theorem ok_ne_outOfFuel {a : α} : (.ok a : Except Stop α) ≠ .error .outOfFuel := by simp

theorem EndsAs.trans (h : EndsAs A B s) (h' : EndsAs B C s) : EndsAs A C s := by
  intro n r t hr hend
  obtain ⟨m, hm⟩ := (h n r t hr hend).exists
  exact h' m r t hm hend

theorem EndsAs.bind {F G : Nat → α → Eval β} (h : EndsAs A B s)
    (hF : ∀ v t, EndsAs (fun n => F n v) (fun m => G m v) t) :
    EndsAs (fun n => A n >>= F n) (fun m => B m >>= G m) s := by
  intro n r t hr hend
  beta_reduce at hr
  rw [stateBind_apply] at hr
  rcases ha : A n s with ⟨e | v, u⟩
  · rw [ha] at hr
    cases hr
    filter_upwards [h n (.error e) _ ha fun he => hend (by cases he; rfl)] with m hm
    rw [stateBind_apply, hm]
  · rw [ha] at hr
    filter_upwards [h n (.ok v) u ha ok_ne_outOfFuel, hF v u n r t hr hend] with m hm hrest
    rw [stateBind_apply, hm]
    exact hrest

theorem EndsAs.withLocals {names : Variables} (h : EndsAs A B (s.scoped names)) :
    EndsAs (fun n => withLocals names (A n)) (fun m => withLocals names (B m)) s := by
  intro n r t hr hend
  obtain ⟨hresult, hstore⟩ := Prod.mk.inj hr
  filter_upwards [h n r _ (Prod.ext hresult rfl) hend] with m hm
  show ((B m (s.scoped names)).1, ((B m (s.scoped names)).2).scoped s.locals) = _
  rw [hm, ← hstore]
  rfl

theorem EndsAs.of_reaches (h : Reaches Eq A B) (s : Store) : EndsAs A B s := by
  intro n r t hr hend
  filter_upwards [h.ends (.same (fun _ => rfl) s) hr hend] with m hm
  obtain ⟨t', ht', hpaired⟩ := hm
  rw [ht', hpaired.eq]

theorem EndAlike.symm (h : EndAlike A B s) : EndAlike B A s := ⟨h.back, h.there⟩

theorem EndAlike.trans (h : EndAlike A B s) (h' : EndAlike B C s) : EndAlike A C s :=
  ⟨h.there.trans h'.there, h'.back.trans h.back⟩

theorem EndAlike.bind {F G : Nat → α → Eval β} (h : EndAlike A B s)
    (hF : ∀ v t, EndAlike (fun n => F n v) (fun m => G m v) t) :
    EndAlike (fun n => A n >>= F n) (fun m => B m >>= G m) s :=
  ⟨h.there.bind fun v t => (hF v t).there, h.back.bind fun v t => (hF v t).back⟩

theorem EndAlike.withLocals {names : Variables} (h : EndAlike A B (s.scoped names)) :
    EndAlike (fun n => withLocals names (A n)) (fun m => withLocals names (B m)) s :=
  ⟨h.there.withLocals, h.back.withLocals⟩

theorem EndAlike.same (a : Eval α) (s : Store) : EndAlike (fun _ => a) (fun _ => a) s :=
  ⟨fun _ _ _ hr _ => .of_forall fun _ => hr, fun _ _ _ hr _ => .of_forall fun _ => hr⟩

/-- Two programs may do in a store what others do in another one. -/
theorem EndAlike.moved {B' : Nat → Eval α} (h : EndAlike A B t) (hA : ∀ n, A' n s = A n t)
    (hB : ∀ n, B' n s = B n t) : EndAlike A' B' s where
  there n r u hr hend := by
    filter_upwards [h.there n r u (hA n ▸ hr) hend] with m hm
    rw [hB, hm]
  back n r u hr hend := by
    filter_upwards [h.back n r u (hB n ▸ hr) hend] with m hm
    rw [hA, hm]

/-- What two programs do in other stores does not count. -/
theorem EndAlike.congr (h : EndAlike A B s) (hA : ∀ n, A' n s = A n s) : EndAlike A' B s :=
  h.moved hA fun _ => rfl

/-- A program that gets further with more fuel may have some more to begin with. -/
theorem EndAlike.later (h : ∀ n m, n ≤ m → Within Eq (A n) (A m)) (k : Nat) (s : Store) :
    EndAlike A (fun n => A (n + k)) s where
  there := .of_reaches (fun n => (eventually_ge_atTop n).mono fun m hnm =>
    h n (m + k) (hnm.trans (Nat.le_add_right m k))) s
  back := .of_reaches (fun n => (eventually_ge_atTop (n + k)).mono fun m hnm => h (n + k) m hnm) s

theorem EndAlike.apply_later (f : Value) (args : List Value) (k : Nat) (s : Store) :
    EndAlike (fun n => apply n f args) (fun n => apply (n + k) f args) s :=
  .later (fun _ _ hnm => (further hnm).call Eq f args) k s

theorem EndAlike.runAll_later (frame : Frame) (ss : List Stmt) (k : Nat) (s : Store) :
    EndAlike (fun n => runAll (exec n frame) ss) (fun n => runAll (exec (n + k) frame) ss) s :=
  .later (fun _ _ hnm => (further hnm).block .same (Stmt.renameAll_id _)) k s

end

/-! ## What classes contribute -/

/-- What a class contributes to an object of its line: the statements of its initialiser but for the
call of the one behind it, and the frame in which they are run. -/
structure Share where
  frame : Frame
  steps : List Stmt

/-- Runs what a class contributes. -/
def Share.run (n : Nat) (self : Value) (sh : Share) : Eval Value :=
  withLocals [(selfName, self)] do return (← runAll (exec n sh.frame) sh.steps).value

/-- Runs what the classes of a line contribute, from its end on. -/
def runShares (n : Nat) (self : Value) : List Share → Eval Value
  | [] => pure .null
  | sh :: behind => do
    let _ ← runShares n self behind
    sh.run n self

/-- The object, if its initialisers gave nothing back. -/
def conclude (self : Value) (init : Eval Value) : Eval Value := do
  match ← init with
  | .null => return self
  | v => fail (.initReturned ((← get).typeName v))

/-- Makes an object of a class to which the classes of its line contribute. -/
def createBy (n place : Nat) (shares : List Share) : Eval Value := do
  let p ← newObject ⟨.loaded place, [], [], [], none⟩
  conclude (.object p) (runShares n (.object p) shares)

/-- The variables outside of what is contributed make no difference and stay. -/
theorem runShares_scoped (n : Nat) (self : Value) (shares : List Share) (s : Store)
    (names : Variables) : runShares n self shares (s.scoped names)
      = ((runShares n self shares s).1, (runShares n self shares s).2.scoped names) := by
  induction shares with
  | nil => rfl
  | cons sh behind ih =>
    unfold runShares
    rw [stateBind_apply, stateBind_apply, ih]
    rcases runShares n self behind s with ⟨_ | _, _⟩ <;> rfl

theorem runShares_locals {n : Nat} {self : Value} {shares : List Share} {s t : Store}
    {r : Except Stop Value} (h : runShares n self shares s = (r, t)) : t.locals = s.locals := by
  have hscoped := runShares_scoped n self shares s s.locals
  have hsame : s.scoped s.locals = s := rfl
  rw [hsame, h] at hscoped
  exact congrArg (fun x => x.2.locals) hscoped

/-- What is behind may be run in the scope of what comes after it. -/
theorem runShares_cons (n : Nat) (self : Value) (sh : Share) (behind : List Share) (s : Store) :
    runShares n self (sh :: behind) s = withLocals [(selfName, self)] (do
      let _ ← runShares n self behind
      return (← runAll (exec n sh.frame) sh.steps).value) s := by
  have hinside := runShares_scoped n self behind s [(selfName, self)]
  show (runShares n self behind >>= fun _ => sh.run n self) s
    = (((runShares n self behind >>= _) (s.scoped [(selfName, self)])).1,
      (((runShares n self behind >>= _) (s.scoped [(selfName, self)])).2).scoped s.locals)
  rw [stateBind_apply, stateBind_apply, hinside]
  rcases hbehind : runShares n self behind s with ⟨e | v, t⟩
  all_goals
    rw [← runShares_locals hbehind]
    rfl

/-! ## Chains of classes -/

/-- A class of a chain, and what it contributes, if it has an initialiser. -/
structure Link where
  place : Nat
  share? : Option Share

/-- The same statements, but for one that does nothing at the end. -/
inductive SamePass : List Stmt → List Stmt → Prop
  | same (ss : List Stmt) : SamePass ss ss
  | more (ss : List Stmt) : SamePass ss (ss ++ [.pass])
  | less (ss : List Stmt) : SamePass (ss ++ [.pass]) ss

/-- A function that does what a class contributes, after some statements in front. -/
structure Initialises (f : Closure) (place : Nat) (front : List Stmt) (sh : Share) : Prop where
  params : f.params = [(selfName, none)]
  owner : f.owner = place
  frame : sh.frame = frameOf f
  body : SamePass (front ++ sh.steps) f.body

/-- What a class has as its initialiser in a store: none, or one that does what the class
contributes after some statements in front. -/
inductive HasInit (s : Store) (place : Nat) (front : List Stmt) : Option Share → Option Value → Prop
  | none : HasInit s place front none none
  | function {sh : Share} {q : Nat} (h : Initialises (s.function q) place front sh) :
    HasInit s place front (some sh) (some (.function q))

/-- A loaded class as a link of a chain. -/
structure IsLink (s : Store) (l : Link) (base : ClassRef) (front : List Stmt) : Prop where
  built : (s.loadedClass l.place).isBuilt = true
  base : (s.loadedClass l.place).base = base
  maker : (s.loadedClass l.place).members.get? makerName = none
  init : HasInit s l.place front l.share? ((s.loadedClass l.place).members.get? initName)

/-- A chain of loaded classes with its last class first. The root derives from no loaded class, and
the initialisers of the others begin with a call of the one behind them. -/
inductive Chain (s : Store) : List Link → Prop
  | root {l : Link} (h : IsLink s l (.core .object) []) : Chain s [l]
  | derived {l l' : Link} {ls : List Link} (h : IsLink s l (.loaded l'.place) [baseInit])
    (hplace : l'.place < l.place) (hrest : Chain s (l' :: ls)) : Chain s (l :: l' :: ls)

/-- What the classes of a chain contribute. -/
def sharesOf (links : List Link) : List Share := links.filterMap (·.share?)

/-- The line of a chain. -/
def chainLine (links : List Link) : List ClassRef :=
  links.map (fun l => .loaded l.place) ++ [.core .object]

/-- The initialiser that is found in a chain, or else the one of objects. -/
def initMember (s : Store) : List Link → Value
  | [] => .native (.initOf .object)
  | l :: ls => ((s.loadedClass l.place).members.get? initName).getD (initMember s ls)

section
variable {s u : Store} {l : Link} {ls links pre : List Link} {self : Value}

theorem memberOf?_chainLine (s : Store) (links : List Link) :
    s.memberOf? (chainLine links) initName = some (initMember s links) := by
  induction links with
  | nil => rfl
  | cons l ls ih =>
    have hown : s.ownMember? (.loaded l.place) initName
        = (s.loadedClass l.place).members.get? initName := rfl
    show List.findSome? (fun c => s.ownMember? c initName) (.loaded l.place :: chainLine ls) = _
    rw [List.findSome?_cons, hown, initMember]
    cases (s.loadedClass l.place).members.get? initName with
    | some v => rfl
    | none => exact ih

/-- What a store keeps of a class for objects of it to be made as before. -/
structure KeepsClass (s t : Store) (place : Nat) : Prop where
  built : (t.loadedClass place).isBuilt = (s.loadedClass place).isBuilt
  base : (t.loadedClass place).base = (s.loadedClass place).base
  maker : (t.loadedClass place).members.get? makerName
    = (s.loadedClass place).members.get? makerName
  init : (t.loadedClass place).members.get? initName = (s.loadedClass place).members.get? initName
  function (q : Nat) (h : (s.loadedClass place).members.get? initName = some (.function q)) :
    (t.function q).plain = (s.function q).plain

theorem Initialises.of_plain {f g : Closure} {place : Nat} {front : List Stmt} {sh : Share}
    (h : Initialises f place front sh) (hplain : g.plain = f.plain) :
    Initialises g place front sh := by
  simp only [Closure.plain, Closure.mk.injEq] at hplain
  obtain ⟨-, hclass, howner, hparams, hown, hbody, -⟩ := hplain
  refine ⟨hparams ▸ h.params, howner ▸ h.owner, ?_, hbody ▸ h.body⟩
  rw [h.frame, frameOf, frameOf, hclass, howner, hparams, hown]

theorem HasInit.kept {place : Nat} {front : List Stmt} {share? : Option Share}
    {found : Option Value}
    (h : HasInit s place front share? found)
    (hf : ∀ q, found = some (.function q) → (u.function q).plain = (s.function q).plain) :
    HasInit u place front share? found := by
  cases h with
  | none => exact .none
  | function h => exact .function (h.of_plain (hf _ rfl))

theorem IsLink.kept {base : ClassRef} {front : List Stmt} (h : IsLink s l base front)
    (hk : KeepsClass s u l.place) : IsLink u l base front :=
  ⟨hk.built ▸ h.built, hk.base ▸ h.base, hk.maker ▸ h.maker, hk.init ▸ h.init.kept hk.function⟩

theorem Chain.kept (h : Chain s links) (hk : ∀ l ∈ links, KeepsClass s u l.place) :
    Chain u links := by
  induction h with
  | root h => exact .root (h.kept (hk _ List.mem_cons_self))
  | derived h hplace _ ih =>
    obtain ⟨hl, hrest⟩ := List.forall_mem_cons.mp hk
    exact .derived (h.kept hl) hplace (ih hrest)

theorem Chain.scoped (h : Chain s links) (names : Variables) : Chain (s.scoped names) links :=
  h.kept fun _ _ => ⟨rfl, rfl, rfl, rfl, fun _ _ => rfl⟩

theorem Chain.isLink (h : Chain s links) {l : Link} (hl : l ∈ links) :
    ∃ base front, IsLink s l base front := by
  induction h with
  | root h => exact ⟨_, _, List.mem_singleton.mp hl ▸ h⟩
  | derived h _ _ ih =>
    rcases List.mem_cons.mp hl with rfl | hl
    · exact ⟨_, _, h⟩
    · exact ih hl

theorem Chain.suffix (h : Chain s (pre ++ l :: ls)) : Chain s (l :: ls) := by
  induction pre with
  | nil => exact h
  | cons k pre ih =>
    rw [List.cons_append] at h
    cases hrest : pre ++ l :: ls with
    | nil => simp at hrest
    | cons l' ls' =>
      rw [hrest] at h
      cases h with
      | derived _ _ h => exact ih (hrest ▸ h)

/-- The classes of a chain were loaded in order. -/
theorem Chain.places (h : Chain s links) : links.Pairwise fun l l' => l'.place < l.place := by
  induction h with
  | root => exact List.pairwise_singleton _ _
  | derived _ hplace _ ih =>
    refine List.pairwise_cons.mpr ⟨fun l hl => ?_, ih⟩
    rcases List.mem_cons.mp hl with rfl | hl
    · exact hplace
    · exact ((List.pairwise_cons.mp ih).1 l hl).trans hplace

theorem Chain.line (h : Chain s links) {n : Nat} (hn : ∀ l ∈ links.head?, l.place < n) :
    ∀ l ∈ links.head?, s.line n (.loaded l.place) = chainLine links := by
  induction h generalizing n with
  | @root l h =>
    obtain ⟨n, rfl⟩ := Nat.exists_eq_add_one_of_ne_zero (Nat.ne_zero_of_lt (hn l rfl))
    rintro _ ⟨⟩
    rw [Store.line, h.base]
    cases n <;> rfl
  | @derived l l' ls h hplace _ ih =>
    obtain ⟨n, rfl⟩ := Nat.exists_eq_add_one_of_ne_zero (Nat.ne_zero_of_lt (hn l rfl))
    rintro _ ⟨⟩
    rw [Store.line, h.base, ih (fun _ hl => ?_) l' rfl]
    · rfl
    · cases hl
      exact hplace.trans_le (Nat.le_of_lt_succ (hn l rfl))

/-- The line of the last class of a chain is that of the chain. -/
theorem Chain.ancestors (h : Chain s (l :: ls)) (hl : l.place < s.classes.size) :
    s.ancestors (.loaded l.place) = chainLine (l :: ls) :=
  h.line (by simpa using hl) l rfl

/-- Behind a class of a chain come the classes from the one it derives from on. -/
theorem Chain.behind_eq (h : Chain s (pre ++ l :: ls)) :
    behind (.loaded l.place) (chainLine (pre ++ l :: ls)) = chainLine ls := by
  have hpre : ∀ k ∈ pre, k.place ≠ l.place := fun k hk =>
    ((List.pairwise_append.mp h.places).2.2 k hk l List.mem_cons_self).ne'
  have hline : chainLine (pre ++ l :: ls)
      = pre.map (fun l => ClassRef.loaded l.place) ++ .loaded l.place :: chainLine ls := by
    simp [chainLine]
  have hdrop : ((pre.map fun l => ClassRef.loaded l.place)
      ++ .loaded l.place :: chainLine ls).dropWhile (· != .loaded l.place)
      = .loaded l.place :: chainLine ls := by
    rw [List.dropWhile_append_of_pos (by simpa using hpre), List.dropWhile_cons_of_neg (by simp)]
  rw [behind, hline, hdrop]
  rfl

/-- An initialiser that is found is a function, or that of objects. -/
theorem Chain.initMember_cases (h : Chain s (pre ++ links)) :
    (∃ q, initMember s links = .function q) ∨ initMember s links = .native (.initOf .object) := by
  induction links generalizing pre with
  | nil => exact .inr rfl
  | cons l ls ih =>
    obtain ⟨base, front, hl⟩ := h.isLink (List.mem_append_right pre List.mem_cons_self)
    have hinit := hl.init
    unfold initMember
    generalize (s.loadedClass l.place).members.get? initName = found at hinit
    generalize l.share? = share? at hinit
    cases hinit with
    | none =>
      have hsame : Chain s (pre ++ [l] ++ ls) := by simpa using h
      exact ih hsame
    | function => exact .inl ⟨_, rfl⟩

theorem isBareSuper_initMember (h : Chain s (pre ++ links)) (self : Value) :
    isBareSuper (tied self (initMember s links)) [] = false := by
  rcases h.initMember_cases with ⟨q, hq⟩ | hq <;> rw [hq] <;> rfl

/-! ## The initialiser behind -/

/-- Calls a value without arguments. -/
def callAlone (frame : Frame) (n : Nat) (f : Value) : Eval Value :=
  if isBareSuper f [] then superIn frame else apply n f []

theorem eval_call_nil (frame : Frame) (n : Nat) (e : Expr) :
    eval (n + 2) frame (.call e []) = eval (n + 1) frame e >>= callAlone frame (n + 1) := by
  have heval : eval (n + 2) frame (.call e [])
      = eval (n + 1) frame e >>= fun f => (pure [] : Eval (List Value)) >>= fun args =>
        (if isBareSuper f args then liftM (superIn frame) else call f args : Calling Value)
          (apply (n + 1)) := rfl
  rw [heval]
  congr 1
  funext f
  show (if isBareSuper f [] then liftM (superIn frame) else call f [] : Calling Value) _ = _
  unfold callAlone
  split <;> rfl

/-- The call of the initialiser behind, step by step. -/
theorem exec_baseInit_eq (frame : Frame) (n : Nat) : exec (n + 5) frame baseInit = (do
    let f ← valueOf frame "super"
    let v ← callAlone frame (n + 1) f
    let g ← attrOf v (frame.meant initName) (apply (n + 2))
    let _ ← callAlone frame (n + 3) g
    return .next) := by
  have hexec : exec (n + 5) frame baseInit = eval (n + 4) frame
      (.call (.attr (.apply "super" []) initName) []) >>= fun _ => pure .next := rfl
  have hattr : eval (n + 3) frame (.attr (.apply "super" []) initName)
      = eval (n + 2) frame (.apply "super" []) >>= fun v =>
        attrOf v (frame.meant initName) (apply (n + 2)) := rfl
  have hsuper : eval (n + 2) frame (.apply "super" [])
      = valueOf frame "super" >>= callAlone frame (n + 1) := eval_call_nil frame n (.name "super")
  rw [hexec, eval_call_nil, hattr, hsuper]
  simp only [bind_assoc]

variable {frame : Frame}

/-- In the initialiser of a class of a chain, `super` is what comes behind the class. -/
theorem superIn_chain (hchain : Chain s (pre ++ l :: ls))
    (hline : s.lineOf self = chainLine (pre ++ l :: ls))
    (hself : frame.self? = some (l.place, selfName)) (hlocal : s.locals.get? selfName = some self) :
    superIn frame s = (.ok (.super (.loaded l.place) self), s) := by
  obtain ⟨base, front, hl⟩ := hchain.isLink (List.mem_append_right pre List.mem_cons_self)
  have hmem : (chainLine (pre ++ l :: ls)).contains (.loaded l.place) = true := by simp [chainLine]
  unfold superIn
  rw [bind_of_ok _ (get_eq_ok s), hself]
  simp only [hl.built, if_true, hlocal, Option.getD_some]
  unfold superOf
  rw [bind_of_ok _ (get_eq_ok s), hline, if_pos hmem]
  rfl

/-- So the initialiser behind is the one that is found from the next class of the chain on. -/
theorem exec_baseInit {p : Nat} (hchain : Chain s (pre ++ l :: ls))
    (hline : s.lineOf (.object p) = chainLine (pre ++ l :: ls))
    (hself : frame.self? = some (l.place, selfName))
    (hlocal : s.locals.get? selfName = some (.object p))
    (hsuper : valueOf frame "super" s = (.ok (.cls (.core .super)), s)) (n : Nat) :
    exec (n + 5) frame baseInit s = (do
      let _ ← apply (n + 3) (tied (.object p) (initMember s ls)) []
      return .next : Eval Flow) s := by
  have hinit : frame.meant initName = initName := Entry.privateName_init frame.className
  have hsuperIn := superIn_chain hchain hline hself hlocal
  have hattr : s.attribute? (.super (.loaded l.place) (.object p)) initName
      = some (tied (.object p) (initMember s ls)) := by
    simp only [Store.attribute?, hline, hchain.behind_eq, memberOf?_chainLine, Option.map_some,
      Option.orElse_some]
  have hfound : attrOf (.super (.loaded l.place) (.object p)) initName (apply (n + 2)) s
      = (.ok (tied (.object p) (initMember s ls)), s) := by
    unfold attrOf
    rw [calling_get_bind, hattr]
    rfl
  have hcall : callAlone frame (n + 3) (tied (.object p) (initMember s ls))
      = apply (n + 3) (tied (.object p) (initMember s ls)) [] := by
    have hsame : Chain s (pre ++ [l] ++ ls) := by simpa using hchain
    rw [callAlone, isBareSuper_initMember hsame]
    rfl
  have hbare : callAlone frame (n + 1) (.cls (.core .super)) s
      = (.ok (.super (.loaded l.place) (.object p)), s) := hsuperIn
  rw [exec_baseInit_eq, bind_of_ok _ hsuper, bind_of_ok _ hbare, hinit, bind_of_ok _ hfound, hcall]

/-- The name by which initialisers call the one behind them is no class of the program and no
attribute of the built-in names. -/
structure SuperPlain (s : Store) : Prop where
  globals (v : Value) (h : s.globals.get? "super" = some v) : ∃ q, v = .module q
  builtins : (s.module builtinsPlace).attrs.get? "super" = none

/-- In a frame that name means what it should: it is no variable, and no library is called so. -/
structure Resolves (s : Store) (frame : Frame) : Prop where
  own : frame.ownNames.contains "super" = false
  globals : s.globals.get? "super" = none

theorem meant_super (frame : Frame) : frame.meant "super" = "super" := by
  have hprivate : isPrivate "super" = false := by decide +kernel
  rw [Frame.meant, privateName, hprivate]
  rfl

theorem valueOf_super (hplain : SuperPlain s) (hlocal : s.locals.get? "super" = none)
    (h : Resolves s frame) : valueOf frame "super" s = (.ok (.cls (.core .super)), s) := by
  rw [valueOf_apply, meant_super, hlocal]
  simp only [h.own, Bool.false_eq_true, if_false]
  unfold globalValue
  rw [bind_of_ok _ (get_eq_ok s)]
  simp only [h.globals, hplain.builtins]
  rfl

/-- Where the name does not mean what it should, the call of the initialiser behind fails. -/
theorem exec_baseInit_fails (hplain : SuperPlain s) (hlocal : s.locals.get? "super" = none)
    (h : ¬Resolves s frame) (n : Nat) : ∃ e t, exec (n + 5) frame baseInit s = (.error e, t) := by
  rw [exec_baseInit_eq]
  by_cases hown : frame.ownNames.contains "super" = true
  · have hvalue : valueOf frame "super" s = (fail (.unboundLocal "super") : Eval Value) s := by
      rw [valueOf_apply, meant_super, hlocal]
      simp only [hown, if_true]
    exact ⟨_, _, bind_of_error _ hvalue⟩
  · have hown : frame.ownNames.contains "super" = false := by simpa using hown
    -- the name is that of a library then, and a library cannot be called
    obtain ⟨v, hv⟩ := Option.ne_none_iff_exists'.mp fun hnone => h ⟨hown, hnone⟩
    obtain ⟨q, rfl⟩ := hplain.globals v hv
    have hvalue : valueOf frame "super" s = (.ok (.module q), s) := by
      rw [valueOf_apply, meant_super, hlocal]
      simp only [hown, Bool.false_eq_true, if_false]
      unfold globalValue
      rw [bind_of_ok _ (get_eq_ok s), hv]
      rfl
    have hcall : callAlone frame (n + 1) (.module q) s
        = (fail (.notCallable (s.typeName (.module q))) : Eval Value) s := rfl
    exact ⟨_, _, by rw [bind_of_ok _ hvalue]; exact bind_of_error _ hcall⟩

/-! ## Initialisers -/

/-- A statement that does nothing may stand at the end. -/
theorem SamePass.runAll_eq {ss ts : List Stmt} (h : SamePass ss ts) (n : Nat) (frame : Frame) :
    runAll (exec (n + 1) frame) ts = runAll (exec (n + 1) frame) ss := by
  have hpass (ss : List Stmt) :
      runAll (exec (n + 1) frame) (ss ++ [.pass]) = runAll (exec (n + 1) frame) ss := by
    rw [runAll_append]
    exact andThen_next _
  cases h with
  | same => rfl
  | more => exact hpass ss
  | less => exact (hpass ts).symm

/-- A call of an initialiser on an object. -/
theorem apply_initialiser {q place : Nat} {front : List Stmt} {sh : Share}
    (h : Initialises (s.function q) place front sh) (self : Value) (n : Nat) :
    apply (n + 3) (tied self (.function q)) [] s = withLocals [(selfName, self)] (do
      return (← runAll (exec (n + 1) sh.frame) (front ++ sh.steps)).value) s := by
  have hparams : parameters (s.function q) [self] = .ok [(selfName, self)] := by
    unfold parameters
    rw [h.params]
    rfl
  have happly : apply (n + 3) (tied self (.function q)) [] s
      = (check (parameters (s.function q) [self]) >>= fun names => withLocals names do
        return (← runAll (exec (n + 1) (frameOf (s.function q))) (s.function q).body).value) s := rfl
  rw [happly, hparams, ← h.frame, h.body.runAll_eq]
  rfl

/-- What the classes behind contribute is run in front of what a class contributes. -/
theorem share_endsAlike {m : Value} {sh : Share} {behind : List Share} {k : Nat}
    (h : EndAlike (fun n => apply n (tied self m) []) (fun n => runShares n self behind)
      (s.scoped [(selfName, self)])) :
    EndAlike (fun n => withLocals [(selfName, self)] do
        let _ ← apply (n + k) (tied self m) []
        return (← runAll (exec (n + k + 2) sh.frame) sh.steps).value)
      (fun n => runShares n self (sh :: behind)) s := by
  have hinside : EndAlike (fun n => do
        let _ ← apply (n + k) (tied self m) []
        return (← runAll (exec (n + k + 2) sh.frame) sh.steps).value)
      (fun n => do
        let _ ← runShares n self behind
        return (← runAll (exec n sh.frame) sh.steps).value) (s.scoped [(selfName, self)]) := by
    refine ((EndAlike.apply_later (tied self m) [] k _).symm.trans h).bind fun _ t => ?_
    refine (EndAlike.runAll_later sh.frame sh.steps (k + 2) t).symm.bind fun flow _ => ?_
    exact .same (pure flow.value) _
  exact (hinside.withLocals.symm.congr fun n => runShares_cons n self sh behind s).symm

/-- A store in which a chain of classes stands, some of them in front of the others, and an object
of the last class. -/
structure Initialising (s : Store) (pre links : List Link) (p : Nat) : Prop where
  chain : Chain s (pre ++ links)
  line : s.lineOf (.object p) = chainLine (pre ++ links)
  plain : SuperPlain s

theorem classes_scoped (s : Store) (names : Variables) : (s.scoped names).classes = s.classes := rfl

section
variable {t : Store} (h : t.classes = s.classes)
include h

theorem loadedClass_of_classes (q : Nat) : t.loadedClass q = s.loadedClass q := by
  simp only [Store.loadedClass, h]

/-- The line of a class depends on the classes only. -/
theorem ancestors_of_classes (c : ClassRef) : t.ancestors c = s.ancestors c := by
  have hline (n : Nat) (c : ClassRef) : t.line n c = s.line n c := by
    induction n generalizing c with
    | zero => cases c <;> rfl
    | succ n ih =>
      cases c with
      | core => rfl
      | loaded q => rw [Store.line, Store.line, loadedClass_of_classes h, ih]
  rw [Store.ancestors, Store.ancestors, h, hline]

theorem initMember_of_classes (links : List Link) : initMember t links = initMember s links := by
  induction links with
  | nil => rfl
  | cons l ls ih => rw [initMember, initMember, loadedClass_of_classes h, ih]

end

section
variable {p : Nat}

theorem Initialising.next (h : Initialising s pre (l :: ls) p) : Initialising s (pre ++ [l]) ls p :=
  ⟨by simpa using h.chain, by simpa using h.line, h.plain⟩

theorem Initialising.scoped (h : Initialising s pre links p) (names : Variables) :
    Initialising (s.scoped names) pre links p where
  chain := h.chain.scoped names
  line := by
    rw [← h.line]
    exact ancestors_of_classes (classes_scoped s names) _
  plain := ⟨h.plain.globals, h.plain.builtins⟩

/-- The initialiser of a class of a chain, with the call of the one behind it. -/
theorem apply_behind (h : Initialising s pre (l :: ls) p) {q : Nat} {sh : Share}
    (hsh : Initialises (s.function q) l.place [baseInit] sh) (hres : Resolves s sh.frame)
    (names : Variables) (n : Nat) :
    apply (n + 7) (tied (.object p) (.function q)) [] (s.scoped names)
      = withLocals [(selfName, .object p)] (do
        let _ ← apply (n + 3) (tied (.object p) (initMember s ls)) []
        return (← runAll (exec (n + 5) sh.frame) sh.steps).value) (s.scoped names) := by
  have hscoped := h.scoped [(selfName, .object p)]
  have hself : sh.frame.self? = some (l.place, selfName) := by
    rw [hsh.frame, frameOf, hsh.params, hsh.owner]
    rfl
  have hsuper : valueOf sh.frame "super" (s.scoped [(selfName, .object p)])
      = (.ok (.cls (.core .super)), s.scoped [(selfName, .object p)]) :=
    valueOf_super hscoped.plain rfl ⟨hres.own, hres.globals⟩
  have hcall := exec_baseInit hscoped.chain hscoped.line hself rfl hsuper n
  rw [initMember_of_classes (classes_scoped s _)] at hcall
  have hbody : (do
        return (← runAll (exec (n + 5) sh.frame) ([baseInit] ++ sh.steps)).value : Eval Value)
      (s.scoped [(selfName, .object p)])
      = (do
        let _ ← apply (n + 3) (tied (.object p) (initMember s ls)) []
        return (← runAll (exec (n + 5) sh.frame) sh.steps).value)
        (s.scoped [(selfName, .object p)]) := by
    show ((andThen (exec (n + 5) sh.frame baseInit)
      (runAll (exec (n + 5) sh.frame) sh.steps)) >>= _) _ = _
    unfold andThen
    rw [bind_assoc, stateBind_apply, hcall, stateBind_apply, stateBind_apply]
    rcases apply (n + 3) (tied (.object p) (initMember s ls)) [] (s.scoped [(selfName, .object p)])
      with ⟨_ | _, _⟩ <;> rfl
  rw [apply_initialiser (s := s.scoped names) hsh (.object p) (n + 4)]
  exact congrArg (fun r : Except Stop Value × Store => (r.1, r.2.scoped names)) hbody

/-- The initialiser that is found in a chain runs what the classes of the chain contribute. -/
theorem initMember_endsAlike (h : Initialising s pre links p)
    (hres : ∀ l ∈ links.dropLast, ∀ sh ∈ l.share?, Resolves s sh.frame) (names : Variables) :
    EndAlike (fun n => apply n (tied (.object p) (initMember s links)) [])
      (fun n => runShares n (.object p) (sharesOf links)) (s.scoped names) := by
  induction links generalizing pre names with
  | nil =>
    refine (EndAlike.apply_later _ _ 2 _).trans ?_
    exact (EndAlike.same (pure Value.null) _).congr fun _ => rfl
  | cons l ls ih =>
    have hbehind := ih h.next fun k hk => hres k (by
      cases ls with
      | nil => cases hk
      | cons => exact List.mem_cons_of_mem _ hk)
    have hstep {base : ClassRef} {front : List Stmt} (hlink : IsLink s l base front)
        (hfront : front = [] ∧ ls = [] ∨ front = [baseInit] ∧ l ∈ (l :: ls).dropLast) :
        EndAlike (fun n => apply n (tied (.object p) (initMember s (l :: ls))) [])
          (fun n => runShares n (.object p) (sharesOf (l :: ls))) (s.scoped names) := by
      have hinit := hlink.init
      unfold initMember sharesOf
      rw [List.filterMap_cons]
      generalize (s.loadedClass l.place).members.get? initName = found at hinit ⊢
      generalize hshare : l.share? = share? at hinit ⊢
      cases hinit with
      | none => exact hbehind names
      | @function sh q hsh =>
        rcases hfront with ⟨rfl, rfl⟩ | ⟨rfl, hmem⟩
        · refine (EndAlike.apply_later _ _ 3 _).trans ?_
          have hrun : EndAlike (fun n => withLocals [(selfName, .object p)] do
              return (← runAll (exec (n + 1) sh.frame) sh.steps).value)
              (fun n => runShares n (.object p) [sh]) (s.scoped names) :=
            ((EndAlike.runAll_later sh.frame sh.steps 1 _).symm.bind fun flow _ =>
              .same (pure flow.value) _).withLocals
          exact hrun.congr fun n => apply_initialiser (s := s.scoped names) hsh (.object p) n
        · refine (EndAlike.apply_later _ _ 7 _).trans ?_
          exact (share_endsAlike (s := s.scoped names) (k := 3) (hbehind _)).congr
            fun n => apply_behind h hsh (hres l hmem sh hshare) names n
    have hchain := h.chain.suffix
    cases hchain with
    | root hlink => exact hstep hlink (.inl ⟨rfl, rfl⟩)
    | derived hlink => exact hstep hlink (.inr ⟨rfl, List.mem_cons_self⟩)

/-- An initialiser that comes to its end calls the one behind it, which comes to its end too. -/
theorem behind_of_ok (h : Initialising s pre (l :: ls) p) {q : Nat} {sh : Share}
    (hsh : Initialises (s.function q) l.place [baseInit] sh) {names : Variables} {n : Nat} {v : Value}
    {t : Store} (hok : apply n (tied (.object p) (.function q)) [] (s.scoped names) = (.ok v, t)) :
    Resolves s sh.frame ∧ ∃ m w u,
      apply m (tied (.object p) (initMember s ls)) [] (s.scoped [(selfName, .object p)])
        = (.ok w, u) := by
  obtain ⟨m, hm⟩ := ((EndAlike.apply_later _ _ 7 _).there n _ t hok ok_ne_outOfFuel).exists
  have hscoped := h.scoped [(selfName, .object p)]
  have hres : Resolves s sh.frame := by
    by_contra hno
    have hinside : ¬Resolves (s.scoped [(selfName, .object p)]) sh.frame := fun hres =>
      hno ⟨hres.own, hres.globals⟩
    obtain ⟨e, u, hfails⟩ := exec_baseInit_fails hscoped.plain rfl hinside m
    rw [apply_initialiser (s := s.scoped names) hsh (.object p) (m + 4)] at hm
    obtain ⟨r, hbody, -⟩ := withLocals_eq_ok.mp hm
    obtain ⟨flow, u', hrun, -⟩ := bind_eq_ok.mp hbody
    obtain ⟨flow', u'', hfirst, -⟩ := bind_eq_ok.mp hrun
    exact absurd (hfails.symm.trans hfirst) nofun
  refine ⟨hres, m + 3, ?_⟩
  rw [apply_behind h hsh hres] at hm
  obtain ⟨r, hbody, -⟩ := withLocals_eq_ok.mp hm
  obtain ⟨w, u, hw, -⟩ := bind_eq_ok.mp hbody
  exact ⟨w, u, hw⟩

/-- So if the initialiser that is found in a chain comes to its end, the name by which initialisers
call the ones behind them means what it should in all of them. -/
theorem resolves_of_ok (h : Initialising s pre links p) {names : Variables} {n : Nat} {v : Value}
    {t : Store}
    (hok : apply n (tied (.object p) (initMember s links)) [] (s.scoped names) = (.ok v, t)) :
    ∀ l ∈ links.dropLast, ∀ sh ∈ l.share?, Resolves s sh.frame := by
  induction links generalizing pre names n v t with
  | nil => nofun
  | cons l ls ih =>
    have hchain := h.chain.suffix
    cases hchain with
    | root => nofun
    | @derived _ l' ls hlink =>
      have hinit := hlink.init
      unfold initMember at hok
      rw [List.dropLast_cons_cons, List.forall_mem_cons]
      generalize (s.loadedClass l.place).members.get? initName = found at hinit hok
      generalize l.share? = share? at hinit ⊢
      cases hinit with
      | none => exact ⟨nofun, ih h.next hok⟩
      | function hsh =>
        obtain ⟨hres, m, w, u, hbehind⟩ := behind_of_ok h hsh hok
        refine ⟨?_, ih h.next hbehind⟩
        rintro _ ⟨⟩
        exact hres

end

/-! ## Calls of classes -/

/-- A store with a new object of a class. -/
def withObject (s : Store) (place : Nat) : Store :=
  { s with objects := s.objects.push ⟨.loaded place, [], [], [], none⟩ }

theorem classes_withObject (s : Store) (place : Nat) : (withObject s place).classes = s.classes :=
  rfl

theorem classOf_withObject (s : Store) (place : Nat) :
    (withObject s place).classOf (.object s.objects.size) = .loaded place := by
  simp [withObject, Store.classOf, Store.object]

/-- An object of the last class of a chain is made with the initialiser that is found in the
chain. -/
theorem Initialising.made (hchain : Chain s (l :: ls)) (hsize : l.place < s.classes.size)
    (hplain : SuperPlain s) :
    Initialising (withObject s l.place) [] (l :: ls) s.objects.size where
  chain := hchain.kept fun _ _ => ⟨rfl, rfl, rfl, rfl, fun _ _ => rfl⟩
  line := by
    have hancestors : (withObject s l.place).ancestors (.loaded l.place)
        = s.ancestors (.loaded l.place) :=
      ancestors_of_classes (classes_withObject s l.place) _
    show (withObject s l.place).ancestors ((withObject s l.place).classOf (.object s.objects.size)) = _
    rw [classOf_withObject, hancestors, hchain.ancestors hsize]
    rfl
  plain := ⟨hplain.globals, hplain.builtins⟩

theorem Chain.coreOf (h : Chain s (l :: ls)) (hsize : l.place < s.classes.size) :
    s.coreOf (.loaded l.place) = .object := by
  have hfound {f : ClassRef → Option Core} (hcore : f (.core .object) = some .object)
      (hloaded : ∀ q, f (.loaded q) = none) (links : List Link) :
      (chainLine links).findSome? f = some .object := by
    induction links with
    | nil => simp [chainLine, hcore]
    | cons l ls ih =>
      show List.findSome? f (.loaded l.place :: chainLine ls) = _
      rw [List.findSome?_cons, hloaded, ih]
  rw [Store.coreOf, h.ancestors hsize, hfound]
  · rfl
  · rfl
  · exact fun _ => rfl

theorem Chain.loadedMember? (h : Chain s links) :
    s.loadedMember? makerName (chainLine links) = none := by
  have hmaker : ∀ l ∈ links, (s.loadedClass l.place).members.get? makerName = none := fun l hl => by
    obtain ⟨_, _, hlink⟩ := h.isLink hl
    exact hlink.maker
  clear h
  induction links with
  | nil => rfl
  | cons l ls ih =>
    obtain ⟨hl, hls⟩ := List.forall_mem_cons.mp hmaker
    show s.loadedMember? makerName (.loaded l.place :: chainLine ls) = none
    rw [Store.loadedMember?, hl]
    exact ih hls

/-- An object of the last class of a chain is made without looking at anything else. -/
theorem allocate_chain (h : Chain s (l :: ls)) (hsize : l.place < s.classes.size) (caller : Caller) :
    allocate (.loaded l.place) [] caller s
      = (.ok (.object s.objects.size), withObject s l.place) := by
  have hcheck : checkArguments (.loaded l.place) [] s = (.ok (), s) := by
    unfold checkArguments
    rw [bind_of_ok _ (get_eq_ok s), h.coreOf hsize]
    rfl
  have hrest : allocate (.loaded l.place) [] = (do
      checkArguments (.loaded l.place) []
      let s ← get
      let core := s.coreOf (.loaded l.place)
      if core.isException then return .object (← newExceptionOf (.loaded l.place) [])
      else return .object (← newObject
        ⟨.loaded l.place, [], [], [], ← innerOf core (s.className (.loaded l.place)) []⟩)) := rfl
  have hlift : (liftM (checkArguments (.loaded l.place) []) : Calling Unit) caller s = (.ok (), s) :=
    hcheck
  rw [hrest, calling_bind_of_ok _ hlift, calling_get_bind, h.coreOf hsize]
  rfl

/-- What is given back when an object was initialised. -/
theorem initialise_conclude {self m : Value} (h : s.member? (s.classOf self) initName = some m)
    (n : Nat) : (initialise self [] (apply n) >>= fun _ => pure self) s
      = conclude self (apply n (tied self m) []) s := by
  have hcaller : call (tied self m) [] (apply n) s = apply n (tied self m) [] s := rfl
  unfold initialise conclude
  rw [stateBind_apply, stateBind_apply, calling_get_bind, h]
  rcases hcall : apply n (tied self m) [] s with ⟨e | v, t⟩
  · simp only
    rw [calling_bind_of_error _ (hcaller.trans hcall)]
  · simp only
    rw [calling_bind_of_ok _ (hcaller.trans hcall)]
    cases v <;> rfl

/-- A call of the last class of a chain. -/
theorem apply_loaded (h : Chain s (l :: ls)) (hsize : l.place < s.classes.size)
    (hplain : SuperPlain s) (n : Nat) : apply (n + 1) (.cls (.loaded l.place)) [] s
      = conclude (.object s.objects.size)
        (apply n (tied (.object s.objects.size) (initMember s (l :: ls))) [])
        (withObject s l.place) := by
  have happly : apply (n + 1) (.cls (.loaded l.place)) [] s
      = instantiate (.loaded l.place) [] (apply n) s := rfl
  have hmade := Initialising.made h hsize hplain
  have hmember : (withObject s l.place).member?
      ((withObject s l.place).classOf (.object s.objects.size)) initName
      = some (initMember s (l :: ls)) := by
    rw [← initMember_of_classes (classes_withObject s l.place), ← memberOf?_chainLine]
    exact congrArg (fun cs => Store.memberOf? _ cs initName) hmade.line
  rw [happly, instantiate, calling_get_bind, h.ancestors hsize, h.loadedMember?]
  simp only
  rw [calling_bind_of_ok _ (allocate_chain h hsize _)]
  exact initialise_conclude hmember n

theorem EndAlike.conclude {A B : Nat → Eval Value} (h : EndAlike A B s) (self : Value) :
    EndAlike (fun n => conclude self (A n)) (fun n => conclude self (B n)) s :=
  h.bind fun v t => by
    cases v <;> exact .same _ t

/-- A call of the last class of a chain without arguments makes an object and runs what the classes
of the chain contribute, from the root down. If the call gives a value, so does this, and the same
one. And if `super` means what it should in the initialisers, the two end alike in any case. -/
theorem apply_class (h : Chain s (l :: ls)) (hsize : l.place < s.classes.size)
    (hplain : SuperPlain s) :
    (∀ n v t, apply n (.cls (.loaded l.place)) [] s = (.ok v, t) →
        ∃ m, createBy m l.place (sharesOf (l :: ls)) s = (.ok v, t))
      ∧ ((∀ k ∈ (l :: ls).dropLast, ∀ sh ∈ k.share?, Resolves s sh.frame) →
        EndAlike (fun n => apply n (.cls (.loaded l.place)) [])
          (fun n => createBy n l.place (sharesOf (l :: ls))) s) := by
  have hmade := Initialising.made h hsize hplain
  have halike (hres : ∀ k ∈ (l :: ls).dropLast, ∀ sh ∈ k.share?, Resolves s sh.frame) :
      EndAlike (fun n => apply n (.cls (.loaded l.place)) [])
        (fun n => createBy n l.place (sharesOf (l :: ls))) s := by
    have hinit := initMember_endsAlike hmade
      (fun k hk sh hsh => ⟨(hres k hk sh hsh).own, (hres k hk sh hsh).globals⟩)
      (withObject s l.place).locals
    rw [initMember_of_classes (classes_withObject s l.place)] at hinit
    refine (EndAlike.apply_later _ _ 1 _).trans ?_
    exact (hinit.conclude (.object s.objects.size)).moved (apply_loaded h hsize hplain) fun _ => rfl
  refine ⟨fun n v t hok => ?_, halike⟩
  obtain ⟨n, rfl⟩ : ∃ k, n = k + 1 := by
    cases n with
    | zero =>
      have hzero : apply 0 (.cls (.loaded l.place)) [] = MonadExcept.throw .outOfFuel := by rw [apply]
      rw [hzero] at hok
      cases hok
    | succ k => exact ⟨k, rfl⟩
  have hcall := hok
  rw [apply_loaded h hsize hplain] at hcall
  obtain ⟨w, u, hw, -⟩ := bind_eq_ok.mp hcall
  rw [← initMember_of_classes (classes_withObject s l.place)] at hw
  have hinside : apply n (tied (.object s.objects.size)
      (initMember (withObject s l.place) (l :: ls))) []
      ((withObject s l.place).scoped (withObject s l.place).locals) = (.ok w, u) := hw
  have hres := resolves_of_ok hmade hinside
  exact ((halike fun k hk sh hsh => ⟨(hres k hk sh hsh).own, (hres k hk sh hsh).globals⟩).there
    (n + 1) (.ok v) t hok ok_ne_outOfFuel).exists

end

end BraceScript.Eval
