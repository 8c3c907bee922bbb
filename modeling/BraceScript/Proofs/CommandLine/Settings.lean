import BraceScript.Proofs.CommandLine.Argument
import Mathlib

/-!
# What a command line says

A command line that asks for a run is a row of settings, then the script, then the arguments of the
script. `parseCommandLine_eq_run_iff` says exactly which rows of settings there are. An option is
given by its name or a beginning of it, and a value is attached to the whole name with an equals
sign. There is one other form, in which the value is the argument behind the option; such a value
begins with a dash as options do, but is none (`IsLoose`).
-/

namespace BraceScript

/-! ## Settings -/

/-- What a command line sets an option with. -/
inductive Setting
  | verbose (name : String)
  | attached (s : Switch) (value : String)
  | detached (s : Switch) (name value : String)

namespace Setting

/-- The arguments that a setting is written with. -/
def arguments : Setting → List String
  | .verbose name => [name]
  | .attached s value => [s.shown ++ "=" ++ value]
  | .detached _ name value => [name, value]

/-- Whether the arguments of a setting are read as this setting. -/
def IsValid : Setting → Prop
  | .verbose name => Switch.verbose.IsGivenBy name
  | .attached s _ => s.takesValue
  | .detached s name value => s.takesValue ∧ s.IsGivenBy name ∧ IsLoose value

/-- Whether a setting asks for more to be told. -/
def isVerbose : Setting → Bool
  | .verbose _ => true
  | _ => false

/-- The value that a setting gives an option. -/
def value? (s : Switch) : Setting → Option String
  | .attached s' value | .detached s' _ value => if s' = s then some value else none
  | .verbose _ => none

/-- What the options say behind a setting. -/
def apply (o : Options) : Setting → Options
  | .verbose _ => o.raise .verbose
  | .attached s value | .detached s _ value => o.set value s

/-- What the arguments of a setting are taken for. -/
def taken : Setting → List (String × Argument)
  | .verbose name => [(name, .switch .verbose none)]
  | .attached s value => [(s.shown ++ "=" ++ value, .switch s (some value))]
  | .detached s name value => [(name, .switch s none), (value, .plain)]

end Setting

/-- The value that the last of some settings for an option gives it. -/
def lastValue? (s : Switch) (settings : List Setting) : Option String :=
  (settings.filterMap (·.value? s)).getLast?

/-! ## Reading settings -/

/-- A double dash is no option and no value. -/
theorem ne_double_dash {arg : String} {k : Argument} (h : classify arg = .ok k) (hk : k ≠ .unknown) :
    arg ≠ "--" := by
  rintro rfl
  have hunknown : classify "--" = .ok .unknown := by decide
  exact hk (Except.ok.inj (h.symm.trans hunknown))

theorem classifyAll_append {as bs : List String} {ks ls : List (String × Argument)}
    (has : List.Forall₂ (fun a k => k.1 = a ∧ k.2 ≠ .unknown ∧ classify a = .ok k.2) as ks)
    (hbs : classifyAll bs = .ok ls) : classifyAll (as ++ bs) = .ok (ks ++ ls) := by
  induction has with
  | nil => exact hbs
  | @cons a k as ks hk _ ih =>
    obtain ⟨hname, hknown, hclassify⟩ := hk
    rw [List.cons_append, classifyAll, if_neg (ne_double_dash hclassify hknown), hclassify]
    simp only [bind, Except.bind, pure, Except.pure, ih, List.cons_append]
    rw [← hname]

/-- Every argument is taken for something. -/
theorem classifyAll_eq_nil {as : List String} (h : classifyAll as = .ok []) : as = [] := by
  cases as with
  | nil => rfl
  | cons a as =>
    unfold classifyAll at h
    split at h
    · cases h
    · cases hclassify : classify a <;> cases hrest : classifyAll as <;>
        rw [hclassify] at h <;> simp [hrest, bind, Except.bind, pure, Except.pure] at h

/-- The first of some arguments is taken for what it is, if it is anything. -/
theorem classifyAll_eq_cons {as : List String} {a : String} {k : Argument}
    {ks : List (String × Argument)} (h : classifyAll as = .ok ((a, k) :: ks)) (hk : k ≠ .unknown) :
    ∃ bs, as = a :: bs ∧ classify a = .ok k ∧ classifyAll bs = .ok ks := by
  cases as with
  | nil => cases h
  | cons b bs =>
    unfold classifyAll at h
    split at h
    · cases h
      exact absurd rfl hk
    · cases hclassify : classify b with
      | error e =>
        rw [hclassify] at h
        cases h
      | ok k' =>
        cases hrest : classifyAll bs with
        | error e =>
          rw [hclassify, hrest] at h
          cases h
        | ok ks' =>
          rw [hclassify, hrest] at h
          cases h
          exact ⟨bs, rfl, hclassify, hrest⟩

/-! Help is asked for by all that is read letter by letter, and nothing takes it back. -/

theorem raiseAttached_help {o o' : Options} {s : Switch} {cs : List Char}
    (h : o.raiseAttached s cs = .ok o') : o'.help = true := by
  have hletter {c : Char} {s : Switch} (h : switches.lookup (String.ofList ['-', c]) = some s) :
      s = .help :=
    ((lookup_of_mem _ (mem_of_lookup h)).2.2.2.2.2
      (by rw [← String.length_toList, String.toList_ofList]; rfl)).2
  fun_induction Options.raiseAttached o s cs with
  | case1 => cases h
  | case2 o s c s' hlookup =>
    cases h
    rw [hletter hlookup]
    rfl
  | case3 => cases h
  | case4 o s c cs _ s' hlookup ih => exact ih h
  | case5 => cases h

theorem Options.raise_help {o : Options} (s : Switch) (h : o.help = true) :
    (o.raise s).help = true := by
  cases s with
  | help => rfl
  | entry | verbose | config => exact h

theorem Options.set_help (o : Options) (value : String) (s : Switch) :
    (o.set value s).help = o.help := by
  cases s with
  | help | entry | verbose | config => rfl

theorem readOptions_help {o o' : Options} {ks : List (String × Argument)} {rest : List String}
    (h : readOptions o ks = .ok (o', rest)) (ho : o.help = true) : o'.help = true := by
  fun_induction readOptions o ks generalizing rest with
  | case1 => cases h; exact ho
  | case2 o a s hs v ks ih => exact ih h (by rw [Options.set_help, ho])
  | case3 => cases h
  | case4 o a s ks hs ih => exact ih h (Options.raise_help s ho)
  | case5 o a s v ks hs ih => exact ih h (by rw [Options.set_help, ho])
  | case6 o a s v ks hs ih =>
    cases hraise : o.raiseAttached s v.toList with
    | error e =>
      rw [hraise] at h
      cases h
    | ok o₁ =>
      rw [hraise] at h
      exact ih o₁ h (raiseAttached_help hraise)
  | case7 o a k ks _ _ ih =>
    cases hrest : readOptions o ks with
    | error e =>
      rw [hrest] at h
      cases h
    | ok r =>
      rw [hrest] at h
      cases h
      exact ih hrest ho

/-- What is read with nothing left over and without help is a row of settings. -/
theorem settings_of_readOptions {o o' : Options} {as : List String}
    {ks : List (String × Argument)} (hdash : ∀ a ∈ as, a.toList.head? = some '-')
    (hks : classifyAll as = .ok ks) (h : readOptions o ks = .ok (o', [])) (hhelp : o'.help = false) :
    ∃ settings : List Setting, (∀ x ∈ settings, x.IsValid)
      ∧ as = settings.flatMap Setting.arguments ∧ o' = settings.foldl Setting.apply o := by
  fun_induction readOptions o ks generalizing as with
  | case1 o =>
    cases h
    exact ⟨[], List.forall_mem_nil _, classifyAll_eq_nil hks, rfl⟩
  | case2 o name s hs value ks ih =>
    obtain ⟨bs, rfl, hname, hbs⟩ := classifyAll_eq_cons hks (by simp)
    obtain ⟨cs, rfl, hvalue, hcs⟩ := classifyAll_eq_cons hbs (by simp)
    simp only [List.forall_mem_cons] at hdash
    obtain ⟨settings, hvalid, rfl, rfl⟩ := ih hdash.2.2 hcs h
    have hgiven := (classify_taken hname hdash.1).isGivenBy (ne_help_of_takesValue hs)
    have hloose := (classify_taken hvalue hdash.2.1).isLoose hdash.2.1
    exact ⟨.detached s name value :: settings,
      List.forall_mem_cons.mpr ⟨⟨hs, hgiven, hloose⟩, hvalid⟩, rfl, rfl⟩
  | case3 => cases h
  | case4 o name s ks hs ih =>
    obtain ⟨bs, rfl, hname, hbs⟩ := classifyAll_eq_cons hks (by simp)
    simp only [List.forall_mem_cons] at hdash
    obtain rfl : s = .verbose := by
      cases s with
      | verbose => rfl
      | help =>
        rw [readOptions_help h rfl] at hhelp
        cases hhelp
      | entry | config => exact absurd rfl hs
    obtain ⟨settings, hvalid, rfl, rfl⟩ := ih hdash.2 hbs h
    have hgiven := (classify_taken hname hdash.1).isGivenBy (by simp)
    exact ⟨.verbose name :: settings, List.forall_mem_cons.mpr ⟨hgiven, hvalid⟩, rfl, rfl⟩
  | case5 o arg s value ks hs ih =>
    obtain ⟨bs, rfl, harg, hbs⟩ := classifyAll_eq_cons hks (by simp)
    simp only [List.forall_mem_cons] at hdash
    obtain ⟨settings, hvalid, rfl, rfl⟩ := ih hdash.2 hbs h
    obtain rfl := (classify_taken harg hdash.1).eq_attached (ne_help_of_takesValue hs)
    exact ⟨.attached s value :: settings, List.forall_mem_cons.mpr ⟨hs, hvalid⟩, rfl, rfl⟩
  | case6 o arg s value ks hs ih =>
    cases hraise : o.raiseAttached s value.toList with
    | error e =>
      rw [hraise] at h
      cases h
    | ok o₁ =>
      rw [hraise] at h
      rw [readOptions_help h (raiseAttached_help hraise)] at hhelp
      cases hhelp
  | case7 o a k ks _ _ ih =>
    cases hrest : readOptions o ks with
    | error e =>
      rw [hrest] at h
      cases h
    | ok r =>
      rw [hrest] at h
      cases h

/-- The arguments of a setting are taken for what they are written as. -/
theorem Setting.IsValid.taken {x : Setting} (h : x.IsValid) :
    List.Forall₂ (fun a k => k.1 = a ∧ k.2 ≠ .unknown ∧ classify a = .ok k.2) x.arguments
      x.taken := by
  cases x with
  | verbose name => exact .cons ⟨rfl, by simp, classify_given (by simp) h⟩ .nil
  | attached s value => exact .cons ⟨rfl, by simp, classify_attached h value⟩ .nil
  | detached s name value =>
    obtain ⟨hs, hgiven, hloose⟩ := h
    exact .cons ⟨rfl, by simp, classify_given (ne_help_of_takesValue hs) hgiven⟩
      (.cons ⟨rfl, by simp, hloose.classify_eq⟩ .nil)

theorem Setting.IsValid.readOptions_append {x : Setting} (h : x.IsValid) (o : Options)
    (ks : List (String × Argument)) :
    readOptions o (x.taken ++ ks) = readOptions (x.apply o) ks := by
  cases x with
  | verbose name =>
    rw [Setting.taken, List.singleton_append]
    conv_lhs => unfold readOptions
    rfl
  | attached s value =>
    have hs : s.takesValue = true := h
    simp [Setting.taken, readOptions, hs, Setting.apply]
  | detached s name value => simp [Setting.taken, readOptions, h.1, Setting.apply]

/-- A row of settings is read as what the settings say. -/
theorem readOptions_settings {settings : List Setting} (hvalid : ∀ x ∈ settings, x.IsValid)
    (o : Options) : ∃ ks, classifyAll (settings.flatMap Setting.arguments) = .ok ks
      ∧ readOptions o ks = .ok (settings.foldl Setting.apply o, []) := by
  induction settings generalizing o with
  | nil => exact ⟨[], rfl, rfl⟩
  | cons x settings ih =>
    obtain ⟨hx, hrest⟩ := List.forall_mem_cons.mp hvalid
    obtain ⟨ks, hclassify, hread⟩ := ih hrest (x.apply o)
    refine ⟨x.taken ++ ks, classifyAll_append hx.taken hclassify, ?_⟩
    rw [hx.readOptions_append, hread, List.foldl_cons]

/-- Every argument of a setting begins with a dash. -/
theorem Setting.IsValid.dash {x : Setting} (h : x.IsValid) :
    ∀ a ∈ x.arguments, a.toList.head? = some '-' := by
  have hshown (s : Switch) : ∃ cs, s.shown.toList = '-' :: cs := by
    cases s with
    | help | entry | verbose | config => exact ⟨_, rfl⟩
  have hgiven {s : Switch} {name : String} (h : s.IsGivenBy name) :
      name.toList.head? = some '-' := by
    obtain ⟨cs, hcs⟩ := hshown s
    obtain ⟨hlength, r, hr⟩ := h
    rw [← String.length_toList] at hlength
    match hname : name.toList with
    | [] => rw [hname] at hlength; cases hlength
    | c :: name' =>
      rw [hname, hcs] at hr
      exact congrArg some (List.cons.inj hr).1
  cases x with
  | verbose name => exact List.forall_mem_singleton.mpr (hgiven h)
  | attached s value =>
    obtain ⟨cs, hcs⟩ := hshown s
    refine List.forall_mem_singleton.mpr ?_
    rw [String.toList_append, String.toList_append, hcs]
    rfl
  | detached s name value =>
    refine List.forall_mem_cons.mpr ⟨hgiven h.2.1, List.forall_mem_singleton.mpr ?_⟩
    rcases h.2.2 with rfl | hnumber | ⟨hdash, -⟩
    · decide
    · obtain ⟨c, cs, hvalue, -⟩ := isNegativeNumber_second hnumber
      rw [hvalue]
      rfl
    · exact hdash

theorem lastValue?_cons (s : Switch) (x : Setting) (settings : List Setting) :
    lastValue? s (x :: settings) = (lastValue? s settings).or (x.value? s) := by
  unfold lastValue?
  cases hx : x.value? s with
  | none => rw [List.filterMap_cons_none hx, Option.or_none]
  | some v =>
    rw [List.filterMap_cons_some hx, List.getLast?_cons]
    cases (settings.filterMap (·.value? s)).getLast? <;> rfl

/-- For each option, the last setting counts. -/
theorem foldl_apply (settings : List Setting) (o : Options) :
    settings.foldl Setting.apply o = ⟨o.help, (lastValue? .entry settings).or o.entry,
      o.verbose || settings.any Setting.isVerbose, (lastValue? .config settings).or o.config⟩ := by
  induction settings generalizing o with
  | nil => simp [lastValue?]
  | cons x settings ih =>
    rw [List.foldl_cons, ih, lastValue?_cons, lastValue?_cons, List.any_cons]
    rcases x with name | ⟨_ | _ | _ | _, value⟩ | ⟨_ | _ | _ | _, name, value⟩ <;>
      simp [Setting.apply, Setting.value?, Setting.isVerbose, Options.raise, Options.set]

/-! ## Whole command lines -/

/-- The script is the first argument without a dash in front. -/
theorem splitArguments_eq_iff {argv options arguments : List String} {script : String} :
    splitArguments argv = (options, some script, arguments) ↔
      argv = options ++ script :: arguments ∧ (∀ o ∈ options, o.toList.head? = some '-')
        ∧ script.toList.head? ≠ some '-' := by
  induction argv generalizing options with
  | nil => simp [splitArguments]
  | cons a as ih =>
    unfold splitArguments
    split
    · next hdash =>
      have hdash : a.toList.head? = some '-' := by simpa using hdash
      constructor
      · intro h
        obtain ⟨rfl, hrest⟩ := Prod.mk.inj h
        obtain ⟨hsplit, hall, hscript⟩ := ih.mp (Prod.ext rfl hrest)
        exact ⟨by rw [List.cons_append, ← hsplit], List.forall_mem_cons.mpr ⟨hdash, hall⟩, hscript⟩
      · rintro ⟨hargv, hall, hscript⟩
        cases options with
        | nil =>
          obtain ⟨rfl, -⟩ := List.cons.inj hargv
          exact absurd hdash hscript
        | cons o options =>
          obtain ⟨rfl, hrest⟩ := List.cons.inj hargv
          rw [ih.mpr ⟨hrest, (List.forall_mem_cons.mp hall).2, hscript⟩]
    · next hdash =>
      have hdash : a.toList.head? ≠ some '-' := by simpa using hdash
      constructor
      · intro h
        cases h
        exact ⟨rfl, by simp, hdash⟩
      · rintro ⟨hargv, hall, hscript⟩
        cases options with
        | nil =>
          obtain ⟨rfl, rfl⟩ := List.cons.inj hargv
          rfl
        | cons o options =>
          obtain ⟨rfl, -⟩ := List.cons.inj hargv
          exact absurd (hall _ List.mem_cons_self) hdash

/-- What a command line that asks for a run goes through. -/
theorem parseCommandLine_run {argv arguments : List String} {script : String}
    {entry : Option EntrySpec} {verbose : Bool} {config : Option String} :
    parseCommandLine argv = .ok (.run script entry arguments verbose config) ↔
      ∃ options ks o, splitArguments argv = (options, some script, arguments)
        ∧ classifyAll options = .ok ks ∧ readOptions .initial ks = .ok (o, []) ∧ o.help = false
        ∧ o.entrySpec = .ok entry ∧ o.verbose = verbose ∧ o.config = config := by
  unfold parseCommandLine
  rcases hsplit : splitArguments argv with ⟨options, first, rest⟩
  simp only [bind, Except.bind]
  constructor
  · intro h
    split at h
    · cases h
    next ks hks =>
    split at h
    · cases h
    next r hread =>
    rcases r with ⟨o, left⟩
    cases left with
    | cons a left => cases h
    | nil =>
      cases hhelp : o.help with
      | true =>
        simp only [hhelp] at h
        cases h
      | false =>
        simp only [hhelp] at h
        cases hentry : o.entrySpec with
        | error e =>
          simp only [hentry] at h
          cases h
        | ok spec =>
          simp only [hentry] at h
          cases first with
          | none => cases h
          | some first =>
            cases h
            exact ⟨options, ks, o, rfl, hks, hread, hhelp, hentry, rfl, rfl⟩
  · rintro ⟨options', ks, o, h, hks, hread, hhelp, hentry, rfl, rfl⟩
    obtain ⟨rfl, hrest⟩ := Prod.mk.inj h
    obtain ⟨rfl, rfl⟩ := Prod.mk.inj hrest
    simp [hks, hread, hhelp, hentry, pure, Except.pure]

/-- The options name an entry procedure if they give none or a name of one. -/
theorem entrySpec_eq_ok_iff {o : Options} {entry : Option EntrySpec} :
    o.entrySpec = .ok entry ↔ match o.entry with
      | none => entry = none
      | some text => ∃ e, entry = some e ∧ EntrySpec.parse? text = some e := by
  unfold Options.entrySpec
  cases o.entry with
  | none => simp [eq_comm]
  | some text =>
    simp only
    cases EntrySpec.parse? text with
    | none => simp
    | some e => simp [eq_comm]

/-- A command line asks for a run of a script if what stands before the script is a row of settings.
What they set is what the last of them for each option says, and the entry procedure needs a type
and a method. -/
theorem parseCommandLine_eq_run_iff {argv arguments : List String} {script : String}
    {entry : Option EntrySpec} {verbose : Bool} {config : Option String} :
    parseCommandLine argv = .ok (.run script entry arguments verbose config) ↔
      ∃ settings : List Setting, (∀ x ∈ settings, x.IsValid)
        ∧ argv = settings.flatMap Setting.arguments ++ script :: arguments
        ∧ script.toList.head? ≠ some '-'
        ∧ verbose = settings.any Setting.isVerbose
        ∧ config = lastValue? .config settings
        ∧ match lastValue? .entry settings with
          | none => entry = none
          | some text => ∃ e, entry = some e ∧ text = e.name
              ∧ e.type ≠ "" ∧ e.method ≠ "" ∧ '.' ∉ e.method.toList := by
  have hinitial (settings : List Setting) : settings.foldl Setting.apply .initial =
      ⟨false, lastValue? .entry settings, settings.any Setting.isVerbose,
        lastValue? .config settings⟩ := by
    rw [foldl_apply]
    simp [Options.initial]
  simp only [parseCommandLine_run, splitArguments_eq_iff, entrySpec_eq_ok_iff,
    EntrySpec.parse?_eq_some_iff]
  constructor
  · rintro ⟨options, ks, o, ⟨hargv, hdash, hscript⟩, hks, hread, hhelp, hentry, rfl, rfl⟩
    obtain ⟨settings, hvalid, rfl, rfl⟩ := settings_of_readOptions hdash hks hread hhelp
    rw [hinitial] at hentry ⊢
    exact ⟨settings, hvalid, hargv, hscript, rfl, rfl, hentry⟩
  · rintro ⟨settings, hvalid, hargv, hscript, rfl, rfl, hentry⟩
    obtain ⟨ks, hks, hread⟩ := readOptions_settings hvalid .initial
    rw [hinitial] at hread
    have hdash : ∀ a ∈ settings.flatMap Setting.arguments, a.toList.head? = some '-' := by
      intro a ha
      obtain ⟨x, hx, ha⟩ := List.mem_flatMap.mp ha
      exact (hvalid x hx).dash a ha
    exact ⟨_, ks, _, ⟨hargv, hdash, hscript⟩, hks, hread, rfl, hentry, rfl, rfl⟩

/-- A lone dash behind an option that lacks its value is the value. -/
theorem parseCommandLine_lone_dash :
    parseCommandLine ["-verb", "-config", "-", "-entry=A.B.Main", "run.cs", "-entry=x"]
      = .ok (.run "run.cs" (some ⟨"A.B", "Main"⟩) ["-entry=x"] true (some "-")) := by
  refine parseCommandLine_eq_run_iff.mpr
    ⟨[.verbose "-verb", .detached .config "-config" "-", .attached .entry "A.B.Main"], ?_, rfl,
      by decide, rfl, rfl, ⟨"A.B", "Main"⟩, rfl, by decide, by decide, by decide, by decide⟩
  simp only [List.forall_mem_cons]
  exact ⟨⟨by decide, by decide⟩, ⟨rfl, ⟨by decide, by decide⟩, .inl rfl⟩, rfl, by simp⟩

end BraceScript
