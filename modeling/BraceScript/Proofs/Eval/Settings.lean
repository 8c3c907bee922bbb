import BraceScript.Proofs.Eval.Within

/-!
# What a program is set in

While code runs, the names of the program and the code of its functions stay as they are. Two
such settings can differ in what one name stands for, and code that never looks the name up does
the same in both. Which code that is is said by a third setting: there the functions that look the
name up never end (`Closure.muted`). What ends in it ends alike in every setting that differs
from it in this one name (`eval_steady`).
-/

namespace BraceScript.Eval

open Code

/-! ## Names that code looks up -/

mutual

/-- The names that an expression looks up. -/
def lookedUp : Expr → List String
  | .name x => [x]
  | .number _ | .text _ | .true | .false | .none => []
  | .group e | .attr e _ | .unary _ e => lookedUp e
  | .list es => lookedUpAll es
  | .call f es => lookedUp f ++ lookedUpAll es
  | .index e i => lookedUp e ++ lookedUp i
  | .binary _ l r => lookedUp l ++ lookedUp r
  | .choose v c o => lookedUp v ++ (lookedUp c ++ lookedUp o)

/-- The names that several expressions look up. -/
def lookedUpAll : List Expr → List String
  | [] => []
  | e :: es => lookedUp e ++ lookedUpAll es

end

mutual

/-- The names that a statement looks up, and those that it assigns. -/
def namesUsed : Stmt → List String
  | .pass | .brk | .cont | .ret none | .raise none => []
  | .expr e | .ret (some e) | .raise (some e) => lookedUp e
  | .assign t e | .augment t _ e => lookedUp t ++ lookedUp e
  | .ite c b t => lookedUp c ++ (namesUsedAll b ++ namesUsedTail t)
  | .while c b => lookedUp c ++ namesUsedAll b
  | .forIn _ e b => lookedUp e ++ namesUsedAll b
  | .attempt b hs none => namesUsedAll b ++ namesUsedHandlers hs
  | .attempt b hs (some f) => namesUsedAll b ++ (namesUsedHandlers hs ++ namesUsedAll f)

/-- The names that several statements look up or assign. -/
def namesUsedAll : List Stmt → List String
  | [] => []
  | s :: ss => namesUsed s ++ namesUsedAll ss

/-- The names that the rest of a conditional looks up or assigns. -/
def namesUsedTail : Tail → List String
  | .none => []
  | .otherwise b => namesUsedAll b
  | .elif c b t => lookedUp c ++ (namesUsedAll b ++ namesUsedTail t)

/-- The names that handlers look up or assign. -/
def namesUsedHandlers : List Handler → List String
  | [] => []
  | .mk type _ b :: hs => type :: (namesUsedAll b ++ namesUsedHandlers hs)

end

/-- Whether a function cannot mean a name of the program by any name in its body: the name is one
of its own, or nothing in the body means it. -/
def Closure.avoids (x : String) (f : Closure) : Bool :=
  f.ownNames.contains x || (namesUsedAll f.body).all fun y => privateName f.className y != x

/-- A body that never ends. -/
def endless : List Stmt := [.while .true [.pass]]

/-- A function that never ends if it looks a name up. -/
def Closure.muted (x : String) (f : Closure) : Closure :=
  if f.avoids x then f else { f with body := endless }

/-! ## Settings -/

/-- What the names of a program stand for, and the code of its functions. -/
structure Setting where
  globals : Variables
  code : Nat → Closure

/-- A store in a setting. -/
def Store.inside (s : Store) (k : Setting) : Store := s.amid ⟨s.locals, k.globals, k.code⟩

/-- The setting of a store. -/
def Store.setting (s : Store) : Setting := ⟨s.globals, s.function⟩

theorem Store.inside_setting (s : Store) : s.inside s.setting = s := s.amid_around

/-- A setting in which functions that look a name up never end, beside one in which the name can
stand for something else. It is not a name that ready-made functions look up. -/
structure Setting.Mutes (x : String) (k k' : Setting) : Prop where
  notRelied : ¬Relied x
  globals (y : String) (hy : y ≠ x) : k.globals.get? y = k'.globals.get? y
  code (p : Nat) : k.code p = (k'.code p).muted x

/-- A function in the first setting is that of the other one, muted. -/
theorem Setting.Mutes.function {x : String} {k k' : Setting} (h : k.Mutes x k') (s : Store)
    (p : Nat) : (s.inside k).function p = ((s.inside k').function p).muted x := by
  have hrunning (f g : Closure) : f.running (g.muted x) = (f.running g).muted x := by
    have havoids : (f.running g).avoids x = g.avoids x := rfl
    unfold Closure.muted
    rw [havoids]
    split <;> rfl
  have hdefault : (default : Closure).muted x = default := by
    have havoids : (default : Closure).avoids x = true := rfl
    rw [Closure.muted, if_pos havoids]
  rw [Store.inside, Store.inside, Store.function_amid, Store.function_amid]
  split
  · rw [← hrunning, ← h.code]
  · exact hdefault.symm

/-- A computation that does the same in two settings, as far as it has fuel in the first one,
where the variables of the scope are such. They are such then as well. -/
def Steady (k k' : Setting) (L : Variables → Prop) {α : Type} (a : Eval α) : Prop :=
  ∀ s : Store, L s.locals → (a (s.inside k)).1 = .error .outOfFuel
    ∨ ∃ (r : Except Stop α) (t : Store), L t.locals ∧ a (s.inside k) = (r, t.inside k)
      ∧ a (s.inside k') = (r, t.inside k')

/-- Any variables. -/
abbrev Anywhere : Variables → Prop := fun _ => True

section
variable {k k' : Setting} {L : Variables → Prop} {α β : Type}

theorem Steady.throw (e : Stop) : Steady k k' L (throw e : Eval α) :=
  fun s hs => .inr ⟨.error e, s, hs, rfl, rfl⟩

@[grind ←]
theorem Steady.pure (a : α) : Steady k k' L (pure a : Eval α) :=
  fun s hs => .inr ⟨.ok a, s, hs, rfl, rfl⟩

theorem Steady.settle {a : Eval α} {next : Except Stop α → Eval β} (ha : Steady k k' L a)
    (hnext : ∀ r, Steady k k' L (next r))
    (hfuel : ∀ s, (next (.error .outOfFuel) s).1 = .error .outOfFuel) :
    Steady k k' L (settle a next) := by
  intro s hs
  show (next (a (s.inside k)).1 (a (s.inside k)).2).1 = _ ∨ ∃ (r : Except Stop β) (t : Store),
    L t.locals ∧ next (a (s.inside k)).1 (a (s.inside k)).2 = _
      ∧ next (a (s.inside k')).1 (a (s.inside k')).2 = _
  rcases ha s hs with hout | ⟨r, t, ht, hk, hk'⟩
  · rw [hout]
    exact .inl (hfuel _)
  · rw [hk, hk']
    exact hnext r t ht

@[grind ←]
theorem Steady.bind {a : Eval α} {f : α → Eval β} (ha : Steady k k' L a)
    (hf : ∀ v, Steady k k' L (f v)) : Steady k k' L (a >>= f) := by
  rw [bind_eq_settle]
  refine ha.settle (fun r => ?_) fun _ => rfl
  cases r with
  | ok v => exact hf v
  | error e => exact .throw e

@[grind ←]
theorem Steady.map {a : Eval α} {f : α → β} (ha : Steady k k' L a) : Steady k k' L (f <$> a) :=
  ha.bind fun v => .pure (f v)

theorem Steady.mapM {f : α → Eval β} {as : List α} (hf : ∀ a ∈ as, Steady k k' L (f a)) :
    Steady k k' L (as.mapM f) := by
  induction as with
  | nil => exact .pure []
  | cons a as ih =>
    obtain ⟨ha, has⟩ := List.forall_mem_cons.mp hf
    rw [List.mapM_cons]
    exact ha.bind fun _ => (ih has).bind fun _ => .pure _

/-- What is done in a scope of its own leaves the variables around it as they are. -/
theorem Steady.withLocals {names : Variables} {a : Eval α} (ha : Steady k k' Anywhere a) :
    Steady k k' L (withLocals names a) := by
  intro s hs
  rcases ha (s.scoped names) trivial with hout | ⟨r, t, -, hk, hk'⟩
  · exact .inl hout
  · have hrun (c : Setting) (hc : a ((s.scoped names).inside c) = (r, t.inside c)) :
        Eval.withLocals names a (s.inside c) = (r, (t.scoped s.locals).inside c) := by
      show ((a ((s.scoped names).inside c)).1,
        (a ((s.scoped names).inside c)).2.scoped s.locals) = _
      rw [hc]
      rfl
    exact .inr ⟨r, t.scoped s.locals, hs, hrun k hk, hrun k' hk'⟩

theorem Steady.whileHandling {a : Eval α} (ha : Steady k k' L a) (e : Value) :
    Steady k k' L (whileHandling e a) := by
  intro s hs
  rcases ha (s.handling (e :: s.handled)) hs with hout | ⟨r, t, ht, hk, hk'⟩
  · exact .inl hout
  · have hrun (c : Setting) (hc : a ((s.handling (e :: s.handled)).inside c) = (r, t.inside c)) :
        Eval.whileHandling e a (s.inside c) = (r, (t.handling s.handled).inside c) := by
      show ((a ((s.handling (e :: s.handled)).inside c)).1,
        (a ((s.handling (e :: s.handled)).inside c)).2.handling s.handled) = _
      rw [hc]
      rfl
    exact .inr ⟨r, t.handling s.handled, ht, hrun k hk, hrun k' hk'⟩

/-- A step on what operations see of a store. -/
theorem Steady.step {g : Store → α × Store}
    (hamid : ∀ s o, g (s.amid o) = ((g s).1, (g s).2.amid o)) :
    Steady k k' L (modifyGet g : Eval α) := by
  intro s hs
  have hlocals : (g s).2.locals = ((g s).2.amid s.around).locals :=
    congrArg Store.locals (amid_of_step hamid s)
  have hrun (c : Setting) :
      (modifyGet g : Eval α) (s.inside c) = (.ok (g s).1, (g s).2.inside c) := by
    show (Except.ok (g (s.inside c)).1, (g (s.inside c)).2) = _
    rw [Store.inside, hamid, Store.inside, hlocals]
    rfl
  exact .inr ⟨.ok (g s).1, (g s).2, hlocals ▸ hs, hrun k, hrun k'⟩

/-! ## Names -/

variable {x : String}

theorem Steady.bound (h : k.Mutes x k') {name : String} (hname : name ≠ x) :
    Steady k k' L (bound name) := by
  intro s hs
  refine .inr ⟨.ok (k.globals.get? name), s, hs, rfl, ?_⟩
  rw [h.globals name hname]
  rfl

/-- An operation does the same if the calls do that it makes. -/
theorem Made.steady (h : k.Mutes x k') {y : String} {a : Calling α}
    (ha : Made y a) {c : Caller} (hcalls : ∀ f args, Steady k k' L (c f args)) :
    Steady k k' L (a c) := by
  induction ha with
  | throw e => exact .throw e
  | step g hamid _ _ => exact .step hamid
  | lookup name hname => exact .bound h fun heq => h.notRelied (heq ▸ hname)
  | call f args => exact hcalls f args
  | bind _ _ iha ihf => exact iha.bind ihf
  | ending _ _ hfuel iha ihnext =>
    exact iha.settle ihnext fun s => by
      rw [hfuel]
      rfl

theorem Plain.steady (h : k.Mutes x k') {y : String} {a : Eval α}
    (ha : Plain y a) : Steady k k' L a :=
  Made.steady h ha (c := fun _ _ => MonadExcept.throw .outOfFuel) fun _ _ => .throw _

/-- What a name stands for that cannot be the name `x` of the program: another one is meant, or the
name belongs to the code, or it is among the variables. -/
theorem valueOf_steady (h : k.Mutes x k') {frame : Frame} {y : String}
    (hy : frame.meant y = x → x ∈ frame.ownNames ∨ ∀ names, L names → names.has x) :
    Steady k k' L (valueOf frame y) := by
  intro s hs
  have hlocals (c : Setting) : (s.inside c).locals = s.locals := rfl
  have hfail (f : Fault) : Steady k k' L (fail f : Eval Value) := (fail_plain (x := "") f).steady h
  rw [valueOf_apply, valueOf_apply, hlocals, hlocals]
  cases hlocal : s.locals.get? (frame.meant y) with
  | some v => exact Steady.pure v s hs
  | none =>
    by_cases hown : frame.ownNames.contains (frame.meant y)
    · simp only [hown, if_true]
      exact hfail _ s hs
    · simp only [hown, if_false, Bool.false_eq_true]
      have hother : frame.meant y ≠ x := by
        intro heq
        rcases hy heq with hmem | hhas
        · exact hown (List.contains_iff_mem.mpr (heq ▸ hmem))
        · have hfound := hhas s.locals hs
          rw [Bindings.has, ← heq, hlocal] at hfound
          cases hfound
      have hglobal : Steady k k' L (globalValue (frame.meant y)) := by
        rw [globalValue_eq]
        refine (Steady.bound h hother).bind fun v? => ?_
        cases v? with
        | none => exact (unbound_plain (x := "") _).steady h
        | some v => exact .pure v
      exact hglobal s hs

@[grind ←]
theorem assignName_steady (frame : Frame) (y : String) (v : Value) :
    Steady k k' Anywhere (assignName frame y v) :=
  fun s _ => .inr ⟨.ok (), s.scoped (s.locals.put (frame.meant y) v), trivial, rfl, rfl⟩

@[grind ←]
theorem forgetName_steady (frame : Frame) (y : String) :
    Steady k k' Anywhere (forgetName frame y) :=
  fun s _ => .inr ⟨.ok (), s.scoped (s.locals.erase (frame.meant y)), trivial, rfl, rfl⟩

theorem superIn_steady (h : k.Mutes x k') (frame : Frame) : Steady k k' L (superIn frame) := by
  intro s hs
  have hfail (f : Fault) : Steady k k' L (fail f : Eval Value) := (fail_plain (x := "") f).steady h
  unfold superIn
  rw [bind_of_ok _ (get_eq_ok _), bind_of_ok _ (get_eq_ok _)]
  cases frame.self? with
  | none => exact hfail _ s hs
  | some self =>
    have hsuper : Steady k k' L (if (s.loadedClass self.1).isBuilt
        then superOf (.loaded self.1) ((s.locals.get? self.2).getD .null)
        else fail .superUnbuilt) := by
      split
      · exact (superOf_plain (x := "") _ _).steady h
      · exact hfail _
    exact hsuper s hs

/-! ## Blocks and loops -/

theorem runAll_steady {run : Stmt → Eval Flow} {ss : List Stmt}
    (hrun : ∀ s ∈ ss, Steady k k' L (run s)) : Steady k k' L (runAll run ss) := by
  induction ss with
  | nil => exact .pure _
  | cons s ss ih =>
    obtain ⟨hs, hss⟩ := List.forall_mem_cons.mp hrun
    refine hs.bind fun flow => ?_
    cases flow with
    | next => exact ih hss
    | brk | cont | ret => exact .pure _

theorem loopWhile_steady {condition : Eval Bool} {body : Eval Flow}
    (hcondition : Steady k k' L condition) (hbody : Steady k k' L body) (n : Nat) :
    Steady k k' L (loopWhile condition body n) := by
  induction n with
  | zero => exact .throw _
  | succ n ih =>
    unfold loopWhile
    grind

theorem loopItems_steady {advance : Cursor → Eval (Option (Value × Cursor))}
    {body : Value → Eval Flow} (hadvance : ∀ c, Steady k k' L (advance c))
    (hbody : ∀ v, Steady k k' L (body v)) (c : Cursor) (n : Nat) :
    Steady k k' L (loopItems advance body c n) := by
  induction n generalizing c with
  | zero => exact .throw _
  | succ n ih =>
    unfold loopItems
    grind

/-! ## Exceptions -/

theorem guarded_steady {body : Eval Flow} {handlers : Value → Eval Flow}
    (hbody : Steady k k' L body) (hhandlers : ∀ e, Steady k k' L (handlers e)) :
    Steady k k' L (guarded body handlers) := by
  refine hbody.settle (fun r => ?_) fun _ => rfl
  match r with
  | .ok flow => exact .pure flow
  | .error (.raised e) => exact (hhandlers e).whileHandling e
  | .error .outOfFuel => exact .throw _

theorem finally_steady {body after : Eval Flow} (hbody : Steady k k' L body)
    (hafter : Steady k k' L after) : Steady k k' L (finally_ body after) := by
  refine hbody.settle (fun r => ?_) fun _ => rfl
  match r with
  | .ok flow =>
    refine hafter.bind fun flow' => ?_
    cases flow' <;> exact .pure _
  | .error (.raised e) =>
    refine (hafter.whileHandling e).bind fun flow' => ?_
    cases flow' with
    | next => exact .throw _
    | brk | cont | ret => exact .pure _
  | .error .outOfFuel => exact .throw _

theorem handle_steady (h : k.Mutes x k') {frame : Frame}
    {block : List Stmt → Eval Flow} {hs : List Handler} (exception : Value)
    (htype : ∀ type name body, .mk type name body ∈ hs → Steady k k' Anywhere (valueOf frame type))
    (hblock : ∀ type name body, .mk type name body ∈ hs → Steady k k' Anywhere (block body)) :
    Steady k k' Anywhere (handle frame block exception hs) := by
  induction hs with
  | nil => exact .throw _
  | cons one hs ih =>
    obtain ⟨type, name, body⟩ := one
    have hbody := hblock type name body List.mem_cons_self
    have hrest := ih (fun type name body hmem => htype type name body (List.mem_cons_of_mem _ hmem))
      fun type name body hmem => hblock type name body (List.mem_cons_of_mem _ hmem)
    unfold handle
    refine (htype type name body List.mem_cons_self).bind fun v => ?_
    refine ((catches_plain (x := "") v exception).steady h).bind fun caught => ?_
    cases caught with
    | false => exact hrest
    | true =>
      cases name with
      | none => exact hbody
      | some y =>
        refine (assignName_steady frame y exception).bind fun _ => ?_
        refine hbody.settle (fun r => (forgetName_steady frame y).bind fun _ => ?_) fun _ => rfl
        cases r with
        | ok flow => exact .pure flow
        | error e => exact .throw e

end

end BraceScript.Eval
