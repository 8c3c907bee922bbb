import BraceScript.CommandLine
import Mathlib

/-!
# Arguments with a dash

An argument that begins with a dash is an option by its name or a beginning of it, an option with
something attached to it, or no option at all (`Taken`). One that is none can be the value of an
option in front of it if it is loose (`IsLoose`): a lone dash, a negative number, or something with
a space in it.
-/

namespace BraceScript

/-! ## Names of entry points -/

theorem dropWhile_eq_cons {α : Type} {p : α → Bool} {l r : List α} {a : α}
    (h : l.dropWhile p = a :: r) : l = l.takeWhile p ++ a :: r ∧ p a = false := by
  refine ⟨by rw [← h, List.takeWhile_append_dropWhile], ?_⟩
  have hhead := List.head?_dropWhile_not p l
  rw [h] at hhead
  simpa using hhead

/-- A text is split at the first item of a kind. -/
theorem takeWhile_append_cons {α : Type} {p : α → Bool} {l : List α} {a : α}
    (hl : ∀ b ∈ l, p b) (ha : p a = false) (r : List α) :
    (l ++ a :: r).takeWhile p = l ∧ (l ++ a :: r).dropWhile p = a :: r := by
  rw [List.takeWhile_append_of_pos hl, List.dropWhile_append_of_pos hl,
    List.takeWhile_cons_of_neg (by simp [ha]), List.dropWhile_cons_of_neg (by simp [ha])]
  exact ⟨List.append_nil _, rfl⟩

theorem ofList_ne_empty {cs : List Char} (h : cs ≠ []) : String.ofList cs ≠ "" := fun heq =>
  h (by simpa using congrArg String.toList heq)

theorem EntrySpec.toList_name (e : EntrySpec) :
    e.name.toList = e.type.toList ++ '.' :: e.method.toList := by
  simp [EntrySpec.name]

/-- A text names an entry procedure if it has a point with something on either side, and the last
point is where its type ends. -/
theorem EntrySpec.parse?_eq_some_iff {text : String} {e : EntrySpec} :
    EntrySpec.parse? text = some e ↔
      text = e.name ∧ e.type ≠ "" ∧ e.method ≠ "" ∧ '.' ∉ e.method.toList := by
  have hreverse : e.name.toList.reverse
      = e.method.toList.reverse ++ '.' :: e.type.toList.reverse := by
    rw [e.toList_name, List.reverse_append, List.reverse_cons, List.append_assoc]
    rfl
  unfold EntrySpec.parse?
  simp only
  constructor
  · intro h
    split at h
    · cases h
    · next c type hsplit =>
      obtain ⟨htext, hpoint⟩ := dropWhile_eq_cons hsplit
      obtain rfl : c = '.' := by simpa using hpoint
      split at h
      · cases h
      · next hsides =>
        cases h
        simp only [Bool.or_eq_true, List.isEmpty_iff, not_or] at hsides
        refine ⟨?_, ?_, ?_, ?_⟩
        · rw [← String.toList_inj, EntrySpec.toList_name, String.toList_ofList,
            String.toList_ofList, ← List.reverse_inj]
          refine htext.trans ?_
          simp
        · exact ofList_ne_empty (mt List.reverse_eq_nil_iff.mp hsides.1)
        · exact ofList_ne_empty (mt List.reverse_eq_nil_iff.mp hsides.2)
        · rw [String.toList_ofList, List.mem_reverse]
          intro hmem
          simpa using List.mem_takeWhile_imp (p := (· != '.')) hmem
  · rintro ⟨rfl, htype, hmethod, hpoint⟩
    have hother : ∀ c ∈ e.method.toList.reverse, (c != '.') = true := by
      intro c hc
      rw [bne_iff_ne]
      rintro rfl
      exact hpoint (List.mem_reverse.mp hc)
    obtain ⟨htake, hdrop⟩ :=
      takeWhile_append_cons hother (bne_self_eq_false '.') e.type.toList.reverse
    rw [hreverse, hdrop, htake]
    simp [htype, hmethod]

/-! ## Ways to write an argument -/

/-- An argument that begins as options do, but can be none: a lone dash, a negative number, or
something with a space in it whose beginning is no option. -/
def IsLoose (arg : String) : Prop :=
  arg = "-" ∨ isNegativeNumber arg
    ∨ arg.toList.head? = some '-' ∧ ' ' ∈ arg.toList ∧ ¬ ['-', 'h'] <+: arg.toList
      ∧ ∀ s ∈ [Switch.entry, .verbose, .config], ¬ s.shown.toList ++ ['='] <+: arg.toList

instance (arg : String) : Decidable (IsLoose arg) := by
  unfold IsLoose
  infer_instance

/-- An option can be given by its name, or by a beginning of it that is more than the dash. -/
def Switch.IsGivenBy (s : Switch) (arg : String) : Prop :=
  2 ≤ arg.length ∧ arg.toList <+: s.shown.toList

/-! ## Single arguments -/

/-- Every option is found by how it is written, and is shown this way if it is not the one for
help. -/
theorem lookup_of_mem : ∀ e ∈ switches, switches.lookup e.1 = some e.2
    ∧ (e.2 ≠ .help → e.2.shown = e.1) ∧ 2 ≤ e.1.length ∧ ' ' ∉ e.1.toList ∧ '=' ∉ e.1.toList
    ∧ (e.1.length = 2 → e.1.toList = ['-', 'h'] ∧ e.2 = .help) := by decide

theorem mem_of_lookup {arg : String} {s : Switch} (h : switches.lookup arg = some s) :
    (arg, s) ∈ switches := by
  obtain ⟨l, r, h, -⟩ := List.lookup_eq_some_iff.mp h
  rw [h]
  simp

theorem lookup_eq_none {arg : String} (h : ∀ e ∈ switches, e.1 ≠ arg) :
    switches.lookup arg = none :=
  List.lookup_eq_none_iff.mpr fun e he => bne_iff_ne.mpr (h e he).symm

theorem cutAtEquals_attached {name value : String} (h : '=' ∉ name.toList) :
    cutAtEquals (name ++ "=" ++ value) = (name, some value) := by
  have hother : ∀ c ∈ name.toList, (c != '=') = true := fun c hc =>
    bne_iff_ne.mpr fun heq => h (heq ▸ hc)
  obtain ⟨htake, hdrop⟩ := takeWhile_append_cons hother (bne_self_eq_false '=') value.toList
  have hlist : (name ++ "=" ++ value).toList = name.toList ++ '=' :: value.toList := by simp
  unfold cutAtEquals
  rw [hlist, hdrop, htake]
  simp

theorem eq_of_cutAtEquals {arg name value : String} (h : cutAtEquals arg = (name, some value)) :
    arg = name ++ "=" ++ value := by
  unfold cutAtEquals at h
  split at h
  · cases h
  · next c rest hsplit =>
    obtain ⟨htext, hpoint⟩ := dropWhile_eq_cons hsplit
    obtain rfl : c = '=' := by simpa using hpoint
    obtain ⟨rfl, hvalue⟩ := Prod.mk.inj h
    obtain rfl := Option.some.inj hvalue
    rw [← String.toList_inj]
    refine htext.trans ?_
    simp

theorem shortened_eq_nil {arg : String} : shortened arg = [] ↔
    ∀ e ∈ switches, e.1.toList ≠ arg.toList.take 2 ∧ ¬ arg.toList <+: e.1.toList := by
  unfold shortened
  rw [List.filterMap_eq_nil_iff]
  refine forall₂_congr fun e he => ?_
  simp only
  split
  · next h => simp [h]
  · next h => simp [h]

theorem mem_shortened {arg spelling : String} {s : Switch} {attached : Option String}
    (h : (spelling, s, attached) ∈ shortened arg) : (spelling, s) ∈ switches
      ∧ (spelling.toList = arg.toList.take 2 ∨ attached = none ∧ arg.toList <+: spelling.toList) := by
  obtain ⟨e, he, h⟩ := List.mem_filterMap.mp h
  simp only at h
  split at h
  · next hfirst =>
    cases h
    exact ⟨he, .inl hfirst⟩
  · split at h
    · next hshort =>
      cases h
      exact ⟨he, .inr ⟨rfl, List.isPrefixOf_iff_prefix.mp hshort⟩⟩
    · cases h

/-- No option is written with an argument. -/
structure NamesNone (arg : String) : Prop where
  spelled : ∀ e ∈ switches, e.1 ≠ arg
  attached : ∀ e ∈ switches, ¬ e.1.toList ++ ['='] <+: arg.toList
  help : ¬ ['-', 'h'] <+: arg.toList

/-- What an argument with a dash in front is taken for. -/
inductive Taken (arg : String) : Argument → Prop
  | spelled {s : Switch} (h : (arg, s) ∈ switches) : Taken arg (.switch s none)
  | attached {name value : String} {s : Switch} (h : (name, s) ∈ switches)
      (harg : arg = name ++ "=" ++ value) : Taken arg (.switch s (some value))
  | help {attached : Option String} : Taken arg (.switch .help attached)
  | short {name : String} {s : Switch} (h : (name, s) ∈ switches) (hlength : 2 ≤ arg.length)
      (hshort : arg.toList <+: name.toList) : Taken arg (.switch s none)
  | lone (h : arg = "-") : Taken arg .plain
  | loose (h : NamesNone arg) (hplain : isNegativeNumber arg ∨ ' ' ∈ arg.toList) : Taken arg .plain
  | unknown : Taken arg .unknown

theorem not_attached {arg name : String} {value : Option String}
    (hcut : cutAtEquals arg = (name, value))
    (hno : ∀ (s : Switch) (v : String), switches.lookup name = some s → value = some v → False) :
    ∀ e ∈ switches, ¬ e.1.toList ++ ['='] <+: arg.toList := by
  rintro e he ⟨v, hv⟩
  obtain ⟨hlookup, -, -, -, hequals, -⟩ := lookup_of_mem e he
  have harg : arg = e.1 ++ "=" ++ String.ofList v := by
    rw [← String.toList_inj, ← hv]
    simp
  rw [harg, cutAtEquals_attached hequals] at hcut
  obtain ⟨rfl, rfl⟩ := Prod.mk.inj hcut
  exact hno _ _ hlookup rfl

theorem NamesNone.leftover {arg : String} (h : NamesNone arg) : Taken arg (leftover arg) := by
  unfold BraceScript.leftover
  split
  · next hplain =>
    exact .loose h ((Bool.or_eq_true_iff.mp hplain).imp_right List.contains_iff_mem.mp)
  · exact .unknown

theorem classify_taken {arg : String} {k : Argument} (h : classify arg = .ok k)
    (hdash : arg.toList.head? = some '-') : Taken arg k := by
  have hnone (h : switches.lookup arg = none) : ∀ e ∈ switches, e.1 ≠ arg := fun e he heq =>
    bne_iff_ne.mp (List.lookup_eq_none_iff.mp h e he) heq.symm
  unfold classify at h
  split at h
  · next s hlookup =>
    cases h
    exact .spelled (mem_of_lookup hlookup)
  · next name value hlookup hcut =>
    split at h
    · next c harg =>
      cases h
      rw [harg, List.head?_cons, Option.some.injEq] at hdash
      exact .lone (String.toList_inj.mp (harg.trans (hdash ▸ rfl)))
    · next s v hname _ =>
      cases h
      exact .attached (mem_of_lookup hname) (eq_of_cutAtEquals hcut)
    · next cs harg hno =>
      cases h
      refine NamesNone.leftover ⟨hnone hlookup, not_attached hcut hno, ?_⟩
      rw [harg]
      simp
    · next hlong hdashes hno =>
      split at h
      · next hshort =>
        cases h
        refine NamesNone.leftover ⟨hnone hlookup, not_attached hcut hno, ?_⟩
        rintro ⟨r, hr⟩
        have hfirst := (shortened_eq_nil.mp hshort ("-h", .help) (by decide)).1
        rw [← hr] at hfirst
        exact hfirst rfl
      · next spelling s attached hshort =>
        cases h
        have hmem : (spelling, s, attached) ∈ shortened arg := by rw [hshort]; simp
        obtain ⟨he, hfirst | ⟨rfl, hprefix⟩⟩ := mem_shortened hmem
        · have hlength : spelling.length = 2 := by
            have hle : spelling.length ≤ 2 := by
              rw [← String.length_toList, hfirst]
              exact List.length_take_le _ _
            exact le_antisymm hle (lookup_of_mem _ he).2.2.1
          obtain rfl : s = .help := ((lookup_of_mem _ he).2.2.2.2.2 hlength).2
          exact .help
        · refine .short he ?_ hprefix
          rw [← String.length_toList]
          match harg : arg.toList with
          | [] => rw [harg] at hdash; cases hdash
          | [c] => exact (hlong c harg).elim
          | _ :: _ :: _ => simp
      · cases h

/-- An option is found by the name that it is shown with. -/
theorem shown_mem {s : Switch} (hs : s ≠ .help) : (s.shown, s) ∈ switches := by
  cases s with
  | help => exact absurd rfl hs
  | entry | verbose | config => decide

theorem ne_help_of_takesValue {s : Switch} (hs : s.takesValue) : s ≠ .help := by
  rintro rfl
  cases hs

theorem Taken.isLoose {arg : String} (h : Taken arg .plain)
    (hdash : arg.toList.head? = some '-') : IsLoose arg := by
  cases h with
  | lone h => exact .inl h
  | loose h hplain =>
    rcases hplain with hnumber | hspace
    · exact .inr (.inl hnumber)
    · refine .inr (.inr ⟨hdash, hspace, h.help, fun s hs => ?_⟩)
      exact h.attached _ (shown_mem fun heq => by simp [heq] at hs)

theorem Taken.isGivenBy {arg : String} {s : Switch} (h : Taken arg (.switch s none))
    (hs : s ≠ .help) : s.IsGivenBy arg := by
  cases h with
  | spelled h =>
    obtain ⟨-, hshown, hlength, -⟩ := lookup_of_mem _ h
    exact ⟨hlength, by rw [hshown hs]⟩
  | help => exact absurd rfl hs
  | short h hlength hshort =>
    obtain ⟨-, hshown, -⟩ := lookup_of_mem _ h
    exact ⟨hlength, by rwa [hshown hs]⟩

theorem Taken.eq_attached {arg value : String} {s : Switch} (h : Taken arg (.switch s (some value)))
    (hs : s ≠ .help) : arg = s.shown ++ "=" ++ value := by
  cases h with
  | attached h harg =>
    obtain ⟨-, hshown, -⟩ := lookup_of_mem _ h
    rwa [hshown hs]
  | help => exact absurd rfl hs

/-! Arguments that are written in one of these ways are taken as such. -/

theorem classify_attached {s : Switch} (hs : s.takesValue) (value : String) :
    classify (s.shown ++ "=" ++ value) = .ok (.switch s (some value)) := by
  obtain ⟨hlookup, -, hlength, -, hequals, -⟩ :=
    lookup_of_mem _ (shown_mem (ne_help_of_takesValue hs))
  simp only at hlookup hlength hequals
  have hnone : switches.lookup (s.shown ++ "=" ++ value) = none := by
    refine lookup_eq_none fun e he heq => (lookup_of_mem e he).2.2.2.2.1 ?_
    rw [heq]
    simp
  unfold classify
  rw [hnone, cutAtEquals_attached hequals]
  simp only [hlookup]
  split
  · next h =>
    have hone := congrArg List.length h
    rw [String.length_toList, String.length_append, String.length_append,
      List.length_singleton] at hone
    omega
  · next hswitch hvalue _ =>
    cases hswitch
    cases hvalue
    rfl
  · next hno => exact (hno _ _ rfl rfl).elim
  · next hno => exact (hno _ _ rfl rfl).elim

/-- The ways to give an option. -/
def Switch.names (s : Switch) : List String :=
  (s.shown.toList.inits.filter (2 ≤ ·.length)).map String.ofList

theorem Switch.IsGivenBy.mem_names {s : Switch} {arg : String} (h : s.IsGivenBy arg) :
    arg ∈ s.names := by
  refine List.mem_map.mpr ⟨arg.toList, List.mem_filter.mpr ⟨?_, ?_⟩, String.ofList_toList⟩
  · exact (List.mem_inits _ _).mpr h.2
  · rw [String.length_toList]
    exact decide_eq_true h.1

theorem classify_given {s : Switch} {arg : String} (hs : s ≠ .help) (h : s.IsGivenBy arg) :
    classify arg = .ok (.switch s none) := by
  have hall : ∀ s ∈ [Switch.entry, .verbose, .config], ∀ name ∈ s.names,
      classify name = .ok (.switch s none) := by decide +kernel
  refine hall s ?_ arg h.mem_names
  cases s with
  | help => exact absurd rfl hs
  | entry | verbose | config => decide

/-- What names no option and is no single dash is left over. -/
theorem classify_namesNone {arg : String} (h : NamesNone arg) (hlong : 2 ≤ arg.length)
    (hshort : shortened arg = []) : classify arg = .ok (BraceScript.leftover arg) := by
  rcases hcut : cutAtEquals arg with ⟨name, value⟩
  unfold classify
  rw [lookup_eq_none h.spelled, hcut]
  simp only
  split
  · next harg =>
    rw [← String.length_toList, harg] at hlong
    cases hlong with
    | step hlong => cases hlong
  · next hname _ =>
    refine absurd ?_ (h.attached _ (mem_of_lookup hname))
    rw [eq_of_cutAtEquals hcut]
    simp
  · rfl
  · rw [hshort]

/-- No digit and no point stands behind the dash of an option. -/
theorem spelling_second : ∀ e ∈ switches,
    (e.1.toList[1]?).all fun c => !Text.isDigit c && c != '.' := by decide

/-- Behind the dash of a negative number comes a digit or a point. -/
theorem isNegativeNumber_second {arg : String} (h : isNegativeNumber arg) :
    ∃ c cs, arg.toList = '-' :: c :: cs ∧ (Text.isDigit c ∨ c = '.') := by
  unfold isNegativeNumber at h
  split at h
  · next cs harg =>
    -- a line feed at the end does not matter, since something stands in front of it
    generalize hds : (if cs.getLast? == some '\n' then cs.dropLast else cs) = ds at h
    obtain ⟨c, es, rfl, hc⟩ : ∃ c es, ds = c :: es ∧ (Text.isDigit c ∨ c = '.') := by
      cases ds with
      | nil => cases h
      | cons c es =>
        refine ⟨c, es, rfl, or_iff_not_imp_left.mpr fun hc => ?_⟩
        simp only [List.dropWhile_cons_of_neg hc] at h
        split at h
        · next hnil => cases hnil
        · next hcons => exact (List.cons.inj hcons).1
        · cases h
    obtain ⟨es', hcs⟩ : ∃ es', cs = c :: es' := by
      split at hds
      · next hlast =>
        refine ⟨es ++ ['\n'], ?_⟩
        rw [← List.cons_append, ← hds]
        exact (List.dropLast_append_getLast? _ (by simpa using hlast)).symm
      · exact ⟨es, hds⟩
    exact ⟨c, es', by rw [harg, hcs], hc⟩
  · cases h

/-- An argument is none of the options if its second character is in none of them. -/
theorem namesNone_of_second {arg : String} {c : Char} {cs : List Char}
    (harg : arg.toList = '-' :: c :: cs) (hc : ∀ e ∈ switches, e.1.toList[1]? ≠ some c) :
    NamesNone arg ∧ shortened arg = [] := by
  have hsecond : arg.toList[1]? = some c := by rw [harg]; rfl
  refine ⟨⟨?_, ?_, ?_⟩, shortened_eq_nil.mpr fun e he => ⟨?_, ?_⟩⟩
  · rintro e he rfl
    exact hc e he hsecond
  · rintro e he ⟨v, hv⟩
    have hlength : 1 < e.1.toList.length := by
      rw [String.length_toList]
      exact (lookup_of_mem e he).2.2.1
    rw [← hv, List.append_assoc, List.getElem?_append_left hlength] at hsecond
    exact hc e he hsecond
  · rintro ⟨v, hv⟩
    rw [← hv] at hsecond
    exact hc ("-h", .help) (by decide) hsecond
  · intro hfirst
    refine hc e he ?_
    rw [hfirst, harg]
    rfl
  · rintro ⟨v, hv⟩
    refine hc e he ?_
    rw [← hv, harg]
    rfl

/-- An argument with a space in it is none of the options if it does not begin as one that takes
what stands behind it. -/
theorem namesNone_of_space {arg : String} (hspace : ' ' ∈ arg.toList)
    (hhelp : ¬ ['-', 'h'] <+: arg.toList)
    (hattached : ∀ s ∈ [Switch.entry, .verbose, .config], ¬ s.shown.toList ++ ['='] <+: arg.toList) :
    NamesNone arg ∧ shortened arg = [] := by
  have hhelps : ∀ e ∈ switches, e.2 = .help → ['-', 'h'] <+: e.1.toList := by decide
  refine ⟨⟨?_, ?_, hhelp⟩, shortened_eq_nil.mpr fun e he => ⟨?_, ?_⟩⟩
  · rintro e he rfl
    exact (lookup_of_mem e he).2.2.2.1 hspace
  · intro e he hprefix
    by_cases hs : e.2 = .help
    · exact hhelp ((hhelps e he hs).trans ((List.prefix_append _ _).trans hprefix))
    · rw [← (lookup_of_mem e he).2.1 hs] at hprefix
      refine hattached e.2 ?_ hprefix
      rcases e with ⟨_, _ | _ | _ | _⟩ <;> simp at hs ⊢
  · intro hfirst
    have hlength : e.1.length = 2 := by
      refine le_antisymm ?_ (lookup_of_mem e he).2.2.1
      rw [← String.length_toList, hfirst]
      exact List.length_take_le _ _
    have hletters := ((lookup_of_mem e he).2.2.2.2.2 hlength).1
    exact hhelp (hletters ▸ hfirst ▸ List.take_prefix 2 _)
  · intro hbegins
    exact (lookup_of_mem e he).2.2.2.1 (hbegins.subset hspace)

theorem IsLoose.classify_eq {arg : String} (h : IsLoose arg) : classify arg = .ok .plain := by
  rcases h with rfl | hnumber | ⟨hdash, hspace, hhelp, hattached⟩
  · decide
  · obtain ⟨c, cs, harg, hc⟩ := isNegativeNumber_second hnumber
    have hnone : ∀ e ∈ switches, e.1.toList[1]? ≠ some c := by
      intro e he heq
      have hsecond := spelling_second e he
      rw [heq] at hsecond
      simp only [Option.all_some, Bool.and_eq_true, bne_iff_ne, Bool.not_eq_true'] at hsecond
      rcases hc with hc | hc
      · exact Bool.false_ne_true (hsecond.1.symm.trans hc)
      · exact hsecond.2 hc
    obtain ⟨hnames, hshort⟩ := namesNone_of_second harg hnone
    have hlong : 2 ≤ arg.length := by rw [← String.length_toList, harg]; simp
    rw [classify_namesNone hnames hlong hshort]
    unfold BraceScript.leftover
    rw [hnumber]
    rfl
  · obtain ⟨hnames, hshort⟩ := namesNone_of_space hspace hhelp hattached
    have hlong : 2 ≤ arg.length := by
      rw [← String.length_toList]
      match harg : arg.toList with
      | [] => rw [harg] at hdash; cases hdash
      | [c] =>
        rw [harg, List.head?_cons, Option.some.injEq] at hdash
        rw [harg, hdash] at hspace
        simp at hspace
      | _ :: _ :: _ => simp
    rw [classify_namesNone hnames hlong hshort]
    unfold BraceScript.leftover
    rw [List.contains_iff_mem.mpr hspace, Bool.or_true]
    rfl

end BraceScript
