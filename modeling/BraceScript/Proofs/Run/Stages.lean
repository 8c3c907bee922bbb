import BraceScript.Proofs.CommandLine.Settings
import BraceScript.Proofs.Program.Outcome
import BraceScript.Proofs.Program.Report
import BraceScript.Proofs.Run.Trace
import BraceScript.Proofs.Source.Discovery
import Mathlib

/-!
# What has to be done before a program runs

A run comes to the code of a script only when the command line, the configuration, every scan and
the compilation have nothing to report (`run_stages`). Then the bodies of the classes run, bases
first, and after all of them the entry procedure, once, with the arguments behind the script. The
exit code is 0 when the entry procedure comes back, or when only help was asked for, and otherwise
it is 1.
-/

namespace BraceScript

open Eval (Stop Store)
open Lowering (TypeDecl)
open BreadthFirst Source

/-! ## Configurations -/

/-- A configuration is only read. -/
theorem loadFrom_keeps (path : String) : (Config.loadFrom path).Keeps := by
  refine (Act.Looks.look path).toKeeps.bind fun found => ?_
  cases found with
  | file bytes =>
    refine (Act.Reads.tell _).toKeeps.bind fun _ => ?_
    split
    · exact (Act.Looks.pure _).toKeeps
    · exact (Act.Looks.throw _).toKeeps
  | _ => exact (Act.Looks.pure _).toKeeps

theorem loadConfig_keeps (path : Option String) : (Config.load path).Keeps := by
  cases path with
  | some path => exact (loadFrom_keeps path).bind fun _ => (Act.Looks.pure _).toKeeps
  | none =>
    have hget : (get : Act Host).Keeps := ⟨.refl, fun _ => rfl⟩
    refine (loadFrom_keeps _).bind fun r => ?_
    cases r with
    | some r => exact (Act.Looks.pure _).toKeeps
    | none =>
      refine hget.bind fun h => (loadFrom_keeps _).bind fun r => ?_
      cases r with
      | some r => exact (Act.Looks.pure _).toKeeps
      | none => exact (Act.Reads.tell _).toKeeps.bind fun _ => (Act.Looks.pure _).toKeeps

/-! ## Compilations -/

namespace Program

/-- A program is compiled when no file has a problem; its types are all those of the files, bases
first. -/
theorem compile_ok {encoding : String} {sources references : List String} {h h' : Host}
    {p : Program} (hr : compile encoding sources references h = (.ok (.ok p), h')) :
    ∃ decls, (compileFiles encoding sources h).1 = .ok (decls, []) ∧ p.types.Perm decls
      ∧ BasesFirst decls p.types := by
  obtain ⟨hfiles, -, horder, -⟩ := compile_eq_program_iff.mp (congrArg Prod.fst hr)
  obtain ⟨hperm, hfirst⟩ := orderTypes_ok horder
  have hcompiled := compileFiles_of_fine fun path hpath => (hfiles path hpath).1
  rw [allProblems_eq_nil.mpr fun path hpath => (hfiles path hpath).2] at hcompiled
  exact ⟨_, hcompiled, hperm, hfirst⟩

end Program

/-- The script and all that it includes was scanned and compiled, and nothing was reported: `r` has
the units, `decls` their classes, and `p` is the program. -/
structure Prepared (config : Config) (script : String) (h : Host) (r : Resolution)
    (decls : List TypeDecl) (p : Program) : Prop where
  reached : ∀ path, path ∈ r.paths ↔
    Reach (includesOf config.settings h) (h.absolute script) path
  scanned : ∀ path ∈ r.paths, ∃ u, (scan config.settings path h).1 = .ok u
  compiled : ∃ h₁, resolve config.settings .empty script h = ((r, .ok ()), h₁)
    ∧ Program.compiled config r h₁ = .ok (.ok p)
    ∧ (Program.compileFiles config.encoding.string (r.units.map (·.compilePath))
      (compiling config r h₁)).1 = .ok (decls, [])
  types : p.types.Perm decls
  bases : Program.BasesFirst decls p.types

/-- There is a program only for a script that is prepared. -/
theorem compileProgram_ok {config : Config} {script : String} {h h' : Host} {p : Program}
    (hcwd : Files.isAbsolute h.cwd = true)
    (hr : Program.compileProgram config script h = (.ok (.ok p), h')) :
    ∃ r decls, Prepared config script h r decls p := by
  rcases hs : resolve config.settings .empty script h with ⟨⟨r, res⟩, h₁⟩
  have hrun : (resolve ⟨config.tempDir.map (·.string), config.encoding.string⟩ .empty script).run h
      = ((r, res), h₁) := hs
  unfold Program.compileProgram at hr
  simp only [hrun] at hr
  have hresult := congrArg Prod.fst hr
  cases res with
  | error f =>
    -- a failed resolution leads to lines or to a failure, never to a program
    cases f <;> cases hresult
  | ok _ =>
    rcases hunits : Program.compileUnits config r h₁ with ⟨result, h₂⟩
    have hrun : (Program.compileUnits config r).run h₁ = (result, h₂) := hunits
    simp only [hrun] at hresult
    subst hresult
    unfold Program.compileUnits at hunits
    rw [Act.bind_of_ok (tell_apply _ _)] at hunits
    obtain ⟨result, h₃, hcompile, hunits⟩ := Act.bind_eq_ok.mp hunits
    cases result with
    | error ds => cases hunits
    | ok q =>
      cases hunits
      obtain ⟨decls, hfiles, hperm, hfirst⟩ := Program.compile_ok hcompile
      obtain ⟨-, hscans, hok, -⟩ := resolve_breadthFirst hcwd hs
      obtain ⟨-, -, hreach, -⟩ := hok rfl
      have hscanned := hscans.mp rfl
      exact ⟨r, decls, hreach, fun path hpath => hscanned path ((hreach path).mp hpath),
        ⟨h₁, hs, congrArg Prod.fst hcompile, hfiles⟩, hperm, hfirst⟩

/-! ## Exit codes -/

namespace Run

/-- A result is the exit code of its report. -/
theorem reportOf_ok (n : Nat) (s : Store) :
    (reportOf (fun s => (.ok n, s)) s).ending = .code n := rfl

/-- An exception that is reported makes the exit code 1. -/
theorem settle_code {e : Eval.Value} {s s' : Store} {n : Nat}
    (h : settle e s = (.ok (.code n), s')) : n = 1 := by
  have hstate : (get : Eval Store) s = (.ok s, s) := rfl
  unfold settle at h
  rw [stateBind_apply, hstate] at h
  simp only at h
  split at h
  · rw [stateBind_apply] at h
    split at h
    · rw [stateBind_apply] at h
      split at h
      · cases h
        rfl
      · cases h
    · cases h
  · split at h <;> cases h

/-- The only exit code of a run that was stopped is 1. -/
theorem reportOf_error {e : Stop} {s : Store} {n : Nat}
    (h : (reportOf (fun s => (.error e, s)) s).ending = .code n) : n = 1 := by
  cases e with
  | outOfFuel => cases h
  | raised v =>
    unfold reportOf endingOf Eval.settle at h
    rcases hsettled : settle v s with ⟨(_ | _) | ending, s'⟩
    · simp only [hsettled] at h
      cases h
    · simp only [hsettled] at h
      cases h
    · simp only [hsettled] at h
      obtain rfl : ending = .code n := h
      exact settle_code hsettled

end Run

/-! ## Whole runs -/

/-- The command line asks for a run, and nothing before the program had anything to report. -/
def Ready (argv : List String) (h : Host) (entry : Option EntrySpec) (arguments : List String)
    (p : Program) : Prop :=
  ∃ options script verbose config c h₁ r decls,
    argv = options ++ script :: arguments
      ∧ (∀ o ∈ options, o.toList.head? = some '-') ∧ script.toList.head? ≠ some '-'
      ∧ parseCommandLine argv = .ok (.run script entry arguments verbose config)
      ∧ Config.load config (tell (.started script arguments) h).2 = (.ok (.ok c), h₁)
      ∧ Prepared c script h₁ r decls p

/-- All ways in which a run can go: how it ends, and the events before. -/
inductive Goes (argv : List String) (h : Host) : Ending → List Event → Prop
  /-- The command line is refused. -/
  | refused {e : UsageError} : parseCommandLine argv = .error e → Goes argv h (.code 1) []
  /-- The command line asks for help. -/
  | helped : parseCommandLine argv = .ok .help → Goes argv h (.code 0) []
  /-- The configuration is refused, or there is no program. -/
  | unready {script : String} {entry : Option EntrySpec} {arguments : List String} {verbose : Bool}
    {config : Option String} :
    parseCommandLine argv = .ok (.run script entry arguments verbose config) →
      Goes argv h (.code 1) []
  /-- The program runs. -/
  | ran {entry : Option EntrySpec} {arguments : List String} {p : Program} {r : Except Stop Nat}
    {events : List Event} (s : Store) : Ready argv h entry arguments p →
      Happens p entry arguments r events →
      Goes argv h (Run.reportOf (fun s => (r, s)) s).ending events

/-- A script without a program does nothing and ends with exit code 1. -/
theorem tracedScript_ok {script : String} {entry : Option EntrySpec} {arguments : List String}
    {verbose : Bool} {config : Option String} {input : String} {h h' : Host} {report : Report}
    {events : List Event}
    (hr : tracedScript script entry arguments verbose config input h = (.ok (report, events), h')) :
    (report.ending = .code 1 ∧ events = [])
      ∨ ∃ c h₁ p h₂, Config.load config (tell (.started script arguments) h).2 = (.ok (.ok c), h₁)
        ∧ Program.compileProgram c script h₁ = (.ok (.ok p), h₂)
        ∧ tracedExecute verbose p entry arguments input = (report, events) := by
  unfold tracedScript at hr
  rw [Act.bind_of_ok (tell_apply _ _)] at hr
  obtain ⟨configured, h₁, hconfig, hr⟩ := Act.bind_eq_ok.mp hr
  cases configured with
  | error e =>
    cases hr
    exact .inl ⟨rfl, rfl⟩
  | ok c =>
    obtain ⟨compiled, h₂, hcompile, hr⟩ := Act.bind_eq_ok.mp hr
    cases compiled with
    | error lines =>
      cases hr
      exact .inl ⟨rfl, rfl⟩
    | ok p => exact .inr ⟨c, h₁, p, h₂, hconfig, hcompile, Except.ok.inj (congrArg Prod.fst hr)⟩

/-- A run goes in one of these ways. -/
theorem tracedRun_goes {argv : List String} {input : String} {h h' : Host} {report : Report}
    {events : List Event} (hcwd : Files.isAbsolute h.cwd = true)
    (hr : tracedRun argv input h = (.ok (report, events), h')) :
    Goes argv h report.ending events := by
  unfold tracedRun at hr
  cases hparsed : parseCommandLine argv with
  | error e =>
    rw [hparsed] at hr
    cases hr
    exact .refused hparsed
  | ok command =>
    rw [hparsed] at hr
    cases command with
    | help =>
      cases hr
      exact .helped hparsed
    | run script entry arguments verbose config =>
      obtain ⟨⟨inner, noted⟩, h₁, hscript, hr⟩ := Act.bind_eq_ok.mp hr
      obtain ⟨_, _, -, hr⟩ := Act.bind_eq_ok.mp hr
      -- the notices in front of the errors change neither the ending nor the events
      have hsame := Prod.mk.inj (Except.ok.inj (congrArg Prod.fst hr))
      have hending : inner.ending = report.ending := by rw [← hsame.1]
      have hnoted : noted = events := hsame.2
      rw [← hending, ← hnoted]
      rcases tracedScript_ok hscript with ⟨hcode, rfl⟩ | ⟨c, h₂, p, h₃, hconfig, hcompile, hexecute⟩
      · rw [hcode]
        exact .unready hparsed
      · have halike : h.Alike h₂ := by
          have hkeeps := (loadConfig_keeps config).alike (tell (.started script arguments) h).2
          rw [hconfig] at hkeeps
          exact ((Act.Reads.tell _).toKeeps.alike h).trans hkeeps
        obtain ⟨r, decls, hprepared⟩ := compileProgram_ok (halike.cwd ▸ hcwd) hcompile
        -- the arguments of the program are the end of the command line
        obtain ⟨options, -, -, hsplit, -⟩ := parseCommandLine_run.mp hparsed
        obtain ⟨hargv, hoptions, hdash⟩ := splitArguments_eq_iff.mp hsplit
        have hready : Ready argv h entry arguments p :=
          ⟨options, script, verbose, config, c, h₂, r, decls, hargv, hoptions, hdash, hparsed,
            hconfig, hprepared⟩
        obtain ⟨result, s, new, hhappens, htraced, -⟩ :=
          tracedExecute_spec verbose p entry arguments input
        rw [hexecute] at htraced
        obtain ⟨hreport, hnew⟩ := Prod.mk.inj htraced
        rw [hreport, hnew]
        exact .ran s hready hhappens

/-- What the run of a program does with its code: it begins the bodies of its classes in order, and
when all of them are done, it calls its only entry procedure, which may come back. -/
def InOrder (p : Program) (entry : Option EntrySpec) (arguments : List String)
    (events : List Event) : Prop :=
  (∃ k, events = (p.types.take k).map .body)
    ∨ ∃ c, Located p entry c ∧ (events = p.types.map .body ++ [.called c arguments]
      ∨ events = p.types.map .body ++ [.called c arguments, .returned])

theorem Happens.inOrder {p : Program} {entry : Option EntrySpec} {arguments : List String}
    {r : Except Stop Nat} {events : List Event} (hh : Happens p entry arguments r events) :
    InOrder p entry arguments events := by
  cases hh with
  | stopped _ k => exact .inl ⟨k, rfl⟩
  | notFound => exact .inl ⟨p.types.length, by rw [List.take_length]⟩
  | raised _ hc => exact .inr ⟨_, hc, .inl rfl⟩
  | returned hc => exact .inr ⟨_, hc, .inr rfl⟩

/-- The bodies of classes are no return of an entry procedure. -/
theorem returned_not_mem_bodies (ds : List TypeDecl) : Event.returned ∉ ds.map Event.body := by
  intro hmem
  obtain ⟨_, -, hbody⟩ := List.mem_map.mp hmem
  cases hbody

/-- Nothing happens twice, since no class has the name of another one. -/
theorem InOrder.nodup {p : Program} {entry : Option EntrySpec} {arguments : List String}
    {events : List Event} (ho : InOrder p entry arguments events)
    (hnames : (Program.namesOf p.types).Nodup) : events.Nodup := by
  have hinj : Function.Injective Event.body := fun _ _ h => Event.body.inj h
  have hbodies : (p.types.map Event.body).Nodup := (hnames.of_map _).map hinj
  have hbehind (rest : List Event) (hrest : rest.Nodup) (hnone : ∀ d, .body d ∉ rest) :
      (p.types.map Event.body ++ rest).Nodup := by
    rw [List.nodup_append]
    refine ⟨hbodies, hrest, ?_⟩
    rintro _ hbody _ hmem rfl
    obtain ⟨d, -, rfl⟩ := List.mem_map.mp hbody
    exact hnone d hmem
  rcases ho with ⟨k, rfl⟩ | ⟨c, -, rfl | rfl⟩
  · rw [List.map_take]
    exact hbodies.sublist (List.take_sublist _ _)
  · exact hbehind _ (List.nodup_singleton _) (by simp)
  · exact hbehind _ (by simp) (by simp)

/-- A program that ends with an exit code has 0 when its entry procedure came back, and 1
otherwise. -/
theorem Happens.exitCode {p : Program} {entry : Option EntrySpec} {arguments : List String}
    {r : Except Stop Nat} {events : List Event} {s : Store} {n : Nat}
    (hh : Happens p entry arguments r events)
    (hn : (Run.reportOf (fun s => (r, s)) s).ending = .code n) :
    (n = 0 ∧ .returned ∈ events) ∨ (n = 1 ∧ .returned ∉ events) := by
  cases hh with
  | stopped e k => exact .inr ⟨Run.reportOf_error hn, returned_not_mem_bodies _⟩
  | notFound =>
    rw [Run.reportOf_ok] at hn
    exact .inr ⟨(Ending.code.inj hn).symm, returned_not_mem_bodies _⟩
  | raised e hc =>
    refine .inr ⟨Run.reportOf_error hn, fun hmem => ?_⟩
    rcases List.mem_append.mp hmem with hmem | hmem
    · exact returned_not_mem_bodies _ hmem
    · cases List.mem_singleton.mp hmem
  | returned hc =>
    rw [Run.reportOf_ok] at hn
    exact .inl ⟨(Ending.code.inj hn).symm, by simp⟩

/-- The exit code of a run. -/
def exitCode? : Except Failure Report → Option Nat
  | .ok ⟨.code n, _, _, _⟩ => some n
  | _ => none

theorem exitCode?_eq_some {r : Except Failure Report} {n : Nat} :
    exitCode? r = some n ↔ ∃ report, r = .ok report ∧ report.ending = .code n := by
  constructor
  · intro h
    unfold exitCode? at h
    split at h
    · cases h
      exact ⟨_, rfl, rfl⟩
    · cases h
  · rintro ⟨⟨_, _, _, _⟩, rfl, rfl⟩
    rfl

/-- A script with a class in front of its base. -/
def derivedHost : Host where
  tree := ⟨[(["a.cs"], .file (Text.encodeUtf8
    "class B : A \x7b \x7d\nclass A \x7b static void Main(string[] args) \x7b \x7d \x7d\n".toList))]⟩
  cwd := "/"
  home := "/"
  tempDir := "/"
  copies := []
  named := 0
  notices := []
  asked := []

end BraceScript
