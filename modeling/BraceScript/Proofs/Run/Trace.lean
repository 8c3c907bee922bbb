import BraceScript.Proofs.Eval.Evolution
import BraceScript.Run
import Mathlib

/-!
# What a program does, in order

`tracedRun` is a run that notes when it begins the body of a class, calls an entry procedure, and
comes back from it. `Traces t a P` says that `t` is the computation `a` with notes: whatever the
state, it gives the same and leaves the same state, and its notes are related by `P` to what it
gives. This goes through every step (`Traces.bind`), so a traced run is the run itself
(`tracedRun_fst`), and `Happens` lists all that can be noted of a program.
-/

namespace BraceScript

open Eval (Stop Store Variables)
open Lowering (TypeDecl)

/-! ## Computations with notes -/

/-- Something that a run does with the code of a script. -/
inductive Event
  /-- It begins the body of a class. -/
  | body (d : TypeDecl)
  /-- It calls an entry procedure. -/
  | called (c : Entry.Candidate) (arguments : List String)
  /-- The entry procedure came back. -/
  | returned

/-- A computation on the store that notes events. -/
abbrev Traced := ExceptT Stop (StateM (Store × List Event))

namespace Traced

variable {α β : Type}

/-- A computation of which nothing is noted. -/
def silent (a : Eval α) : Traced α :=
  fun (s, events) =>
    let (r, s) := a s
    (r, (s, events))

/-- Notes an event. -/
def note (e : Event) : Traced Unit := fun (s, events) => (.ok (), (s, events ++ [e]))

end Traced

/-- `Traces t a P`: `t` does what `a` does, and notes events that are related by `P` to what it
gives. -/
def Traces {α : Type} (t : Traced α) (a : Eval α) (P : Except Stop α → List Event → Prop) : Prop :=
  ∀ s events, ∃ new, t (s, events) = ((a s).1, ((a s).2, events ++ new)) ∧ P (a s).1 new

namespace Traces

variable {α β : Type} {P Q : Except Stop α → List Event → Prop}

theorem imp {t : Traced α} {a : Eval α} (h : Traces t a P) (hPQ : ∀ r new, P r new → Q r new) :
    Traces t a Q := by
  intro s events
  obtain ⟨new, ht, hnew⟩ := h s events
  exact ⟨new, ht, hPQ _ _ hnew⟩

theorem silent (a : Eval α) : Traces (.silent a) a fun _ new => new = [] :=
  fun s events => ⟨[], by rw [List.append_nil]; rfl, rfl⟩

theorem pure (x : α) : Traces (pure x) (pure x) fun r new => r = .ok x ∧ new = [] :=
  fun s events => ⟨[], by rw [List.append_nil]; rfl, rfl, rfl⟩

/-- A computation behind another one: the events of both, or those of the first one alone when it
raises an exception. -/
theorem bind {R : Except Stop β → List Event → Prop} {t : Traced α} {a : Eval α}
    {f : α → Traced β} {g : α → Eval β} (h : Traces t a P)
    (herror : ∀ e new, P (.error e) new → R (.error e) new)
    (hnext : ∀ x old, P (.ok x) old → Traces (f x) (g x) fun r new => R r (old ++ new)) :
    Traces (t >>= f) (a >>= g) R := by
  intro s events
  obtain ⟨old, ht, hold⟩ := h s events
  rw [stateBind_apply, stateBind_apply, ht]
  rcases ha : a s with ⟨e | x, s₁⟩
  · rw [ha] at hold
    exact ⟨old, rfl, herror e old hold⟩
  · rw [ha] at hold
    obtain ⟨new, hf, hnew⟩ := hnext x old hold s₁ (events ++ old)
    rw [List.append_assoc] at hf
    exact ⟨old ++ new, hf, hnew⟩

/-- A step of which nothing is noted. -/
theorem silently {R : Except Stop β → List Event → Prop} {a : Eval α} {f : α → Traced β}
    {g : α → Eval β} (herror : ∀ e, R (.error e) []) (hnext : ∀ x, Traces (f x) (g x) R) :
    Traces (Traced.silent a >>= f) (a >>= g) R := by
  refine (Traces.silent a).bind ?_ ?_
  · rintro e _ rfl
    exact herror e
  · rintro x _ rfl
    exact hnext x

/-- A note is no step of the computation. -/
theorem noting {R : Except Stop β → List Event → Prop} {e : Event} {f : Unit → Traced β}
    {g : Eval β} (h : Traces (f ()) g fun r new => R r (e :: new)) :
    Traces (Traced.note e >>= f) g R := by
  intro s events
  obtain ⟨new, hf, hnew⟩ := h s (events ++ [e])
  rw [List.append_assoc] at hf
  exact ⟨e :: new, hf, hnew⟩

end Traces

/-! ## Programs -/

/-- Loads a program and notes the bodies of its classes. -/
def tracedLoad (p : Program) : Traced Variables := do
  .silent (Eval.bindLibraries p.libraries)
  p.types.mapM fun d => do
    .note (.body d)
    return (d.name, ← .silent (Eval.loadClass d.code))

/-- Loads a program and calls its entry procedure, and notes both. -/
def tracedProgram (verbose : Bool) (p : Program) (entry : Option EntrySpec)
    (arguments : List String) : Traced Nat := do
  let types ← tracedLoad p
  .silent (Eval.writeError (Run.noticeText verbose (.loaded types.length)))
  let found := Entry.candidates (← .silent get) types entry
  .silent (Eval.writeError (Run.noticeText verbose (.candidates (found.map (·.name)))))
  match Entry.only? found with
  | none =>
    .silent (Eval.writeError (Run.linesText [Entry.notFound]))
    return 1
  | some c =>
    .silent (Eval.writeError (Run.noticeText verbose (.invoking c.name arguments.length)))
    .note (.called c arguments)
    let _ ← .silent (Entry.invoke c arguments)
    .note .returned
    return 0

/-- What is noted while the classes are loaded: all bodies in order, or those up to the one that
raised an exception. -/
def Loads (ds : List TypeDecl) (r : Except Stop Variables) (new : List Event) : Prop :=
  (∃ types, r = .ok types ∧ types.map Prod.fst = ds.map (·.name) ∧ new = ds.map .body)
    ∨ ∃ e k, r = .error e ∧ new = (ds.take k).map .body

theorem loadClass_traces (d : TypeDecl) :
    Traces (do
        Traced.note (.body d)
        return (d.name, ← Traced.silent (Eval.loadClass d.code)))
      (do return (d.name, ← Eval.loadClass d.code))
      fun r new => new = [.body d] ∧ ∀ x, r = .ok x → x.1 = d.name := by
  refine .noting (.silently (fun e => ⟨rfl, fun x hx => nomatch hx⟩) fun v => ?_)
  refine (Traces.pure (d.name, v)).imp ?_
  rintro _ _ ⟨rfl, rfl⟩
  refine ⟨rfl, fun x hx => ?_⟩
  cases hx
  rfl

theorem loadClasses_traces (ds : List TypeDecl) :
    Traces (ds.mapM fun d => do
        Traced.note (.body d)
        return (d.name, ← Traced.silent (Eval.loadClass d.code)))
      (ds.mapM fun d => do return (d.name, ← Eval.loadClass d.code)) (Loads ds) := by
  induction ds with
  | nil =>
    refine (Traces.pure []).imp ?_
    rintro _ _ ⟨rfl, rfl⟩
    exact .inl ⟨[], rfl, rfl, rfl⟩
  | cons d ds ih =>
    rw [List.mapM_cons, List.mapM_cons]
    -- the note of this class stands in front, whether it or a later one raises an exception
    refine (loadClass_traces d).bind ?_ ?_
    · rintro e _ ⟨rfl, -⟩
      exact .inr ⟨e, 1, rfl, rfl⟩
    · rintro x _ ⟨rfl, hx⟩
      refine ih.bind ?_ ?_
      · rintro e new (⟨_, htypes, -⟩ | ⟨_, k, -, rfl⟩)
        · cases htypes
        · exact .inr ⟨e, k + 1, rfl, rfl⟩
      · rintro xs new (⟨types, htypes, hnames, rfl⟩ | ⟨_, _, herror, -⟩)
        · cases htypes
          refine (Traces.pure (x :: xs)).imp ?_
          rintro _ _ ⟨rfl, rfl⟩
          refine .inl ⟨x :: xs, rfl, ?_, by simp⟩
          rw [List.map_cons, List.map_cons, hx x rfl, hnames]
        · cases herror

theorem tracedLoad_traces (p : Program) : Traces (tracedLoad p) (Eval.load p) (Loads p.types) :=
  .silently (fun e => .inr ⟨e, 0, rfl, rfl⟩) fun _ => loadClasses_traces p.types

/-- The only procedure of the loaded types that the program can start with. -/
def Located (p : Program) (entry : Option EntrySpec) (c : Entry.Candidate) : Prop :=
  ∃ (s : Store) (types : Variables), types.map Prod.fst = p.types.map (·.name)
    ∧ Entry.only? (Entry.candidates s types entry) = some c

/-- All that can happen when a program is run: what it ends with, and the events before. -/
inductive Happens (p : Program) (entry : Option EntrySpec) (arguments : List String) :
    Except Stop Nat → List Event → Prop
  /-- An exception before the entry procedure is called. -/
  | stopped (e : Stop) (k : Nat) :
    Happens p entry arguments (.error e) ((p.types.take k).map .body)
  /-- There is not exactly one entry procedure. -/
  | notFound : Happens p entry arguments (.ok 1) (p.types.map .body)
  /-- The entry procedure raises an exception. -/
  | raised {c : Entry.Candidate} (e : Stop) : Located p entry c →
    Happens p entry arguments (.error e) (p.types.map .body ++ [.called c arguments])
  /-- The entry procedure comes back. -/
  | returned {c : Entry.Candidate} : Located p entry c →
    Happens p entry arguments (.ok 0) (p.types.map .body ++ [.called c arguments, .returned])

/-- Running a program is one of these. -/
theorem tracedProgram_traces (verbose : Bool) (p : Program) (entry : Option EntrySpec)
    (arguments : List String) :
    Traces (tracedProgram verbose p entry arguments) (Run.runProgram verbose p entry arguments)
      (Happens p entry arguments) := by
  have hstopped (e : Stop) : Happens p entry arguments (.error e) (p.types.map .body ++ []) := by
    have hall : Happens p entry arguments (.error e) ((p.types.take p.types.length).map .body) :=
      .stopped e _
    rwa [List.take_length, ← List.append_nil (List.map _ _)] at hall
  refine (tracedLoad_traces p).bind ?_ ?_
  · rintro e new (⟨_, htypes, -⟩ | ⟨_, k, -, rfl⟩)
    · cases htypes
    · exact .stopped e k
  rintro types bodies (⟨_, htypes, hnames, rfl⟩ | ⟨_, _, herror, -⟩)
  swap
  · cases herror
  cases htypes
  -- all bodies are done
  refine .silently hstopped fun _ => ?_
  refine .silently hstopped fun s => ?_
  refine .silently hstopped fun _ => ?_
  cases honly : Entry.only? (Entry.candidates s types entry) with
  | none =>
    refine .silently hstopped fun _ => ?_
    refine (Traces.pure 1).imp ?_
    rintro _ _ ⟨rfl, rfl⟩
    rw [List.append_nil]
    exact .notFound
  | some c =>
    have hlocated : Located p entry c := ⟨s, types, hnames, honly⟩
    refine .silently hstopped fun _ => ?_
    refine .noting (.silently (fun e => .raised e hlocated) fun _ => ?_)
    refine .noting ((Traces.pure 0).imp ?_)
    rintro _ _ ⟨rfl, rfl⟩
    exact .returned hlocated

/-! ## Whole runs -/

namespace Run

/-- The report of a computation that runs from a state. -/
def reportOf (a : Eval Nat) (s : Store) : Report :=
  let (r, s) := endingOf a s
  let ending := match r with
    | .ok e => e
    | .error _ => .outOfFuel
  ⟨ending, ⟨s.output.toList⟩, ⟨s.errors.toList⟩, s⟩

end Run

/-- Runs a compiled program with notes; what it ends with is reported as usual. -/
def tracedExecute (verbose : Bool) (p : Program) (entry : Option EntrySpec)
    (arguments : List String) (input : String) : Report × List Event :=
  let (r, s, events) := tracedProgram verbose p entry arguments (Eval.prelude input, [])
  (Run.reportOf (fun s => (r, s)) s, events)

/-- Compiles and runs a script with notes. -/
def tracedScript (script : String) (entry : Option EntrySpec) (arguments : List String)
    (verbose : Bool) (config : Option String) (input : String) : Act (Report × List Event) := do
  tell (.started script arguments)
  match ← Config.load config with
  | .error e => return (Run.early 1 [] [e.message], [])
  | .ok c =>
    match ← Program.compileProgram c script with
    | .error lines => return (Run.early 1 [] lines, [])
    | .ok p => return tracedExecute verbose p entry arguments input

/-- Runs a command line with notes. -/
def tracedRun (argv : List String) (input : String) : Act (Report × List Event) := do
  match parseCommandLine argv with
  | .error e => return (Run.early 1 [usage] [e.message], [])
  | .ok .help => return (Run.early 0 [usage] [], [])
  | .ok (.run script entry arguments verbose config) =>
    let (report, events) ← tracedScript script entry arguments verbose config input
    let told := (← get).notices.reverse.map (Run.noticeText verbose)
    return ({ report with errors := (String.join told : Text.Points) ++ report.errors }, events)

/-- The events of a program, and the report that what it ends with leads to. -/
theorem tracedExecute_spec (verbose : Bool) (p : Program) (entry : Option EntrySpec)
    (arguments : List String) (input : String) :
    ∃ r s events, Happens p entry arguments r events
      ∧ tracedExecute verbose p entry arguments input = (Run.reportOf (fun s => (r, s)) s, events)
      ∧ Run.execute verbose p entry arguments input = Run.reportOf (fun s => (r, s)) s := by
  obtain ⟨new, htraced, hhappens⟩ :=
    tracedProgram_traces verbose p entry arguments (Eval.prelude input) []
  have hexecute : Run.execute verbose p entry arguments input
      = Run.reportOf (fun s => ((Run.runProgram verbose p entry arguments (Eval.prelude input)).1, s))
        (Run.runProgram verbose p entry arguments (Eval.prelude input)).2 := rfl
  rcases hrun : Run.runProgram verbose p entry arguments (Eval.prelude input) with ⟨r, s⟩
  rw [hrun] at htraced hhappens hexecute
  refine ⟨r, s, new, hhappens, ?_, hexecute⟩
  unfold tracedExecute
  rw [htraced]
  rfl

theorem tracedExecute_fst (verbose : Bool) (p : Program) (entry : Option EntrySpec)
    (arguments : List String) (input : String) :
    (tracedExecute verbose p entry arguments input).1
      = Run.execute verbose p entry arguments input := by
  obtain ⟨r, s, events, -, htraced, hexecute⟩ :=
    tracedExecute_spec verbose p entry arguments input
  rw [htraced, hexecute]

/-- Notes change nothing. -/
theorem tracedScript_fst (script : String) (entry : Option EntrySpec) (arguments : List String)
    (verbose : Bool) (config : Option String) (input : String) :
    Prod.fst <$> tracedScript script entry arguments verbose config input
      = Run.runScript script entry arguments verbose config input := by
  unfold tracedScript Run.runScript
  rw [map_bind]
  refine bind_congr fun _ => ?_
  rw [map_bind]
  refine bind_congr fun c => ?_
  cases c with
  | error e => exact map_pure _ _
  | ok c =>
    simp only
    rw [map_bind]
    refine bind_congr fun p => ?_
    cases p with
    | error lines => exact map_pure _ _
    | ok p => rw [map_pure, tracedExecute_fst]

/-- A run with notes is the run. -/
theorem tracedRun_fst (argv : List String) (input : String) :
    Prod.fst <$> tracedRun argv input = run argv input := by
  unfold tracedRun run
  cases parseCommandLine argv with
  | error e => exact map_pure _ _
  | ok c =>
    cases c with
    | help => exact map_pure _ _
    | run script entry arguments verbose config =>
      simp only
      rw [← tracedScript_fst, map_bind, bind_map_left]
      refine bind_congr fun r => ?_
      rw [map_bind]
      exact bind_congr fun h => map_pure _ _

end BraceScript
