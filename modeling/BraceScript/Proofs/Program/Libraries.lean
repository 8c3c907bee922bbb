import BraceScript.Proofs.Program.Outcome

/-!
# Libraries of a program

Every reference of a program is loaded once, at its first occurrence, and bound under the name of
its file or of its module (`bindingName`). Different references can have one such name; then the
last one of them stays and the others cannot be used (`libraries_available`).
-/

namespace BraceScript

/-! ## Bindings put one after another -/

namespace Bindings

variable {α : Type}

/-- After several bindings the last one of a name holds. -/
theorem get?_putAll_iff {bs more : Bindings α} {x : String} {a : α} :
    (bs.putAll more).get? x = some a
      ↔ (∃ front back, more = front ++ (x, a) :: back ∧ ∀ e ∈ back, e.1 ≠ x)
        ∨ (∀ e ∈ more, e.1 ≠ x) ∧ bs.get? x = some a := by
  induction more generalizing bs with
  | nil => simp [putAll]
  | cons e more ih =>
    show ((bs.put e.1 e.2).putAll more).get? x = some a ↔ _
    rw [ih]
    constructor
    · rintro (⟨front, back, rfl, hback⟩ | ⟨hmore, hget⟩)
      · exact .inl ⟨e :: front, back, rfl, hback⟩
      · by_cases he : e.1 = x
        · subst he
          rw [get?_put_self] at hget
          cases hget
          exact .inl ⟨[], more, rfl, hmore⟩
        · rw [get?_put_of_ne _ _ (Ne.symm he)] at hget
          exact .inr ⟨List.forall_mem_cons.mpr ⟨he, hmore⟩, hget⟩
    · rintro (⟨front, back, hsplit, hback⟩ | ⟨hall, hget⟩)
      · cases front with
        | nil =>
          obtain ⟨rfl, rfl⟩ := List.cons.inj hsplit
          exact .inr ⟨hback, get?_put_self ..⟩
        | cons f front =>
          obtain ⟨rfl, rfl⟩ := List.cons.inj hsplit
          exact .inl ⟨front, back, rfl, hback⟩
      · obtain ⟨he, hmore⟩ := List.forall_mem_cons.mp hall
        exact .inr ⟨hmore, (get?_put_of_ne _ _ (Ne.symm he)).trans hget⟩

end Bindings

namespace Program

open Files

/-! ## One reference -/

/-- The name under which a reference is bound: that of a file without its extension, or the last
part of the name of a module. -/
def bindingName (h : Host) (reference : String) : String :=
  match h.find reference with
  | .file _ => (splitExtension reference).1
  | _ => lastPart reference

/-- What a reference leads to, if it can be used. -/
def libraryOf? (h : Host) (reference : String) : Option Library :=
  match (loadLibrary reference h).1 with
  | .ok (.ok (_, l)) => some l
  | _ => none

/-- Loading a library looks at its reference, and that is all it does to a host. -/
theorem loadLibrary_host (reference : String) (h : Host) :
    (loadLibrary reference h).2 = { h with asked := reference :: h.asked } := by
  unfold loadLibrary
  rw [Act.bind_of_ok (look_apply reference h)]
  cases h.find reference with
  | file bytes => rfl
  | directory | missing | notDirectory | tooLong | invalid =>
    simp only
    split
    · rfl
    · split <;> rfl

theorem name_of_loadFile {reference path name : String} {bytes : Bytes} {l : Library}
    (h : loadFile reference path bytes = .ok (name, l)) : name = (splitExtension reference).1 := by
  unfold loadFile at h
  extract_lets stem at h
  split at h
  · cases h
  · split at h
    · cases h
    · split at h
      · cases h
      · exact (Prod.mk.inj (Except.ok.inj h)).1.symm

/-- A library is bound under the name of its reference. -/
theorem name_of_loadLibrary {reference name : String} {h : Host} {l : Library}
    (hload : (loadLibrary reference h).1 = .ok (.ok (name, l))) :
    name = bindingName h reference ∧ libraryOf? h reference = some l := by
  refine ⟨?_, by rw [libraryOf?, hload]⟩
  unfold loadLibrary at hload
  rw [Act.bind_of_ok (look_apply reference h)] at hload
  unfold bindingName
  cases hfind : h.find reference with
  | file bytes =>
    rw [hfind] at hload
    exact name_of_loadFile (Except.ok.inj hload)
  | directory | missing | notDirectory | tooLong | invalid =>
    rw [hfind] at hload
    simp only at hload
    split at hload
    · cases hload
      rfl
    · split at hload
      · cases hload
      · cases hload

/-- The name and the library of a reference. -/
def bindingOf? (h : Host) (reference : String) : Option (String × Library) :=
  (libraryOf? h reference).map (bindingName h reference, ·)

section
variable {h h' : Host} (hh : h.Alike h') (reference : String)
include hh

theorem bindingName_alike : bindingName h' reference = bindingName h reference := by
  rw [bindingName, hh.find, bindingName]

theorem libraryOf?_alike : libraryOf? h' reference = libraryOf? h reference := by
  rw [libraryOf?, (loadLibrary_reads reference).result hh, libraryOf?]

theorem bindingOf?_alike : bindingOf? h' reference = bindingOf? h reference := by
  rw [bindingOf?, bindingName_alike hh, libraryOf?_alike hh, bindingOf?]

end

/-! ## All references -/

/-- Problems with libraries are kept. -/
theorem loadLibraries_problems {seen : List String} {bound libraries : Libraries}
    {problems all : List Diagnostic} {refs : List String} {h h' : Host}
    (hload : loadLibraries seen bound problems refs h = (.ok (libraries, all), h')) :
    problems <+: all := by
  induction refs generalizing seen bound problems h with
  | nil =>
    cases hload
    exact List.prefix_rfl
  | cons r rs ih =>
    unfold loadLibraries at hload
    split at hload
    · exact ih hload
    · obtain ⟨l, k, -, hload⟩ := Act.bind_eq_ok.mp hload
      cases l with
      | error p => exact (List.prefix_append _ _).trans (ih hload)
      | ok l =>
        obtain ⟨⟨⟩, k', -, hload⟩ := Act.bind_eq_ok.mp hload
        exact ih hload

/-- The different references among some, those left out that were loaded before. -/
def unloaded (seen refs : List String) : List String :=
  (refs.filter fun r => !seen.contains r).eraseDups

theorem unloaded_seen {seen : List String} {r : String} {rs : List String}
    (h : seen.contains r = true) : unloaded seen (r :: rs) = unloaded seen rs := by
  rw [unloaded, List.filter_cons_of_neg (by rw [h]; decide), unloaded]

theorem unloaded_new {seen : List String} {r : String} {rs : List String}
    (h : seen.contains r = false) : unloaded seen (r :: rs) = r :: unloaded (r :: seen) rs := by
  rw [unloaded, List.filter_cons_of_pos (by rw [h]; rfl), List.eraseDups_cons, List.filter_filter,
    unloaded]
  congr 3
  funext s
  rw [List.contains_cons, Bool.not_or]

/-- What loading references without a problem gives and does: each different one that was not
loaded before is looked at and bound, in order. -/
structure Loads (h h' : Host) (bound libraries : Libraries) (refs : List String) : Prop where
  asked : h'.asked = refs.reverse ++ h.asked
  notices : h'.notices = (refs.map fun r => .bound r (bindingName h r)).reverse ++ h.notices
  found : ∀ r ∈ refs, (libraryOf? h r).isSome
  libraries : libraries = bound.putAll (refs.filterMap (bindingOf? h))

theorem loadLibraries_loads {seen : List String} {bound libraries : Libraries} {refs : List String}
    {h h' : Host} (hload : loadLibraries seen bound [] refs h = (.ok (libraries, []), h')) :
    Loads h h' bound libraries (unloaded seen refs) := by
  induction refs generalizing seen bound h with
  | nil =>
    cases hload
    exact ⟨rfl, rfl, nofun, rfl⟩
  | cons r rs ih =>
    unfold loadLibraries at hload
    cases hseen : seen.contains r with
    | true =>
      rw [if_pos hseen] at hload
      rw [unloaded_seen hseen]
      exact ih hload
    | false =>
      rw [if_neg (by rw [hseen]; decide)] at hload
      obtain ⟨l, k, hl, hload⟩ := Act.bind_eq_ok.mp hload
      obtain rfl : { h with asked := r :: h.asked } = k := by rw [← loadLibrary_host, hl]
      cases l with
      | error p => exact absurd (loadLibraries_problems hload) (by simp)
      | ok l =>
        obtain ⟨name, l⟩ := l
        obtain ⟨⟨⟩, k, htell, hload⟩ := Act.bind_eq_ok.mp hload
        obtain ⟨rfl, hlibrary⟩ := name_of_loadLibrary (congrArg Prod.fst hl)
        obtain ⟨halike, hask, htold⟩ : h.Alike k ∧ k.asked = r :: h.asked
            ∧ k.notices = .bound r (bindingName h r) :: h.notices := by
          rw [← (Prod.mk.inj htell).2]
          exact ⟨⟨rfl, rfl, rfl, rfl⟩, rfl, rfl⟩
        obtain ⟨hasked, hnotices, hfound, hlibraries⟩ := ih hload
        rw [unloaded_new hseen]
        refine ⟨?_, ?_, List.forall_mem_cons.mpr ⟨by rw [hlibrary]; rfl, fun s hs => ?_⟩, ?_⟩
        · rw [hasked, hask, List.reverse_cons, List.append_assoc]
          rfl
        · rw [hnotices, htold, List.map_cons, List.reverse_cons, List.append_assoc,
            funext (bindingName_alike halike)]
          rfl
        · rw [← libraryOf?_alike halike]
          exact hfound s hs
        · have hbinding : bindingOf? h r = some (bindingName h r, l) := by
            rw [bindingOf?, hlibrary]
            rfl
          rw [hlibraries, List.filterMap_cons_some hbinding, funext (bindingOf?_alike halike)]
          rfl

/-! ## Names that are shared -/

section
variable {h h' : Host} {refs : List String} {libraries : Libraries}

/-- Of the references with a name the last one stands for it. -/
theorem Loads.get?_iff (hl : Loads h h' [] libraries refs) {x : String} {l : Library} :
    libraries.get? x = some l ↔ ∃ front r back, refs = front ++ r :: back
      ∧ bindingName h r = x ∧ libraryOf? h r = some l ∧ ∀ s ∈ back, bindingName h s ≠ x := by
  have hbinding {r y : String} {m : Library} : bindingOf? h r = some (y, m)
      ↔ bindingName h r = y ∧ libraryOf? h r = some m := by
    rw [bindingOf?, Option.map_eq_some_iff]
    constructor
    · rintro ⟨m, hlibrary, hsame⟩
      cases hsame
      exact ⟨rfl, hlibrary⟩
    · rintro ⟨rfl, hlibrary⟩
      exact ⟨m, hlibrary, rfl⟩
  rw [hl.libraries, Bindings.get?_putAll_iff, or_iff_left (by rintro ⟨-, hnone⟩; cases hnone)]
  constructor
  · rintro ⟨front, back, hsplit, hback⟩
    obtain ⟨front', rest, rfl, -, hrest⟩ := List.filterMap_eq_append_iff.mp hsplit
    obtain ⟨between, r, back', rfl, -, hr, rfl⟩ := List.filterMap_eq_cons_iff.mp hrest
    obtain ⟨hname, hlibrary⟩ := hbinding.mp hr
    refine ⟨front' ++ between, r, back', (List.append_assoc ..).symm, hname, hlibrary,
      fun s hs hsame => ?_⟩
    have hfound : (libraryOf? h s).isSome := hl.found s (by simp [hs])
    obtain ⟨m, hm⟩ := Option.isSome_iff_exists.mp hfound
    exact hback (bindingName h s, m) (List.mem_filterMap.mpr ⟨s, hs, hbinding.mpr ⟨rfl, hm⟩⟩) hsame
  · rintro ⟨front, r, back, rfl, hname, hlibrary, hback⟩
    refine ⟨front.filterMap (bindingOf? h), back.filterMap (bindingOf? h), ?_, fun e he hsame => ?_⟩
    · rw [List.filterMap_append, List.filterMap_cons_some (hbinding.mpr ⟨hname, hlibrary⟩)]
    · obtain ⟨s, hs, hse⟩ := List.mem_filterMap.mp he
      exact hback s hs ((hbinding.mp hse).1.trans hsame)

/-- The last of the elements with a property. -/
theorem exists_last {α : Type} {p : α → Prop} {l : List α} (h : ∃ a ∈ l, p a) :
    ∃ front a back, l = front ++ a :: back ∧ p a ∧ ∀ b ∈ back, ¬p b := by
  induction l with
  | nil => simp at h
  | cons a l ih =>
    by_cases hl : ∃ b ∈ l, p b
    · obtain ⟨front, b, back, rfl, hb⟩ := ih hl
      exact ⟨a :: front, b, back, rfl, hb⟩
    · obtain ⟨b, hb, hpb⟩ := h
      rcases List.mem_cons.mp hb with rfl | hb
      · exact ⟨[], b, l, rfl, hpb, fun c hc hpc => hl ⟨c, hc, hpc⟩⟩
      · exact absurd ⟨b, hb, hpb⟩ hl

/-- Every reference can be used under its name just when references with one name lead to the same
library. -/
theorem Loads.available_iff (hl : Loads h h' [] libraries refs) :
    (∀ r ∈ refs, libraries.get? (bindingName h r) = libraryOf? h r)
      ↔ ∀ r ∈ refs, ∀ s ∈ refs, bindingName h r = bindingName h s →
        libraryOf? h r = libraryOf? h s := by
  constructor
  · intro hall r hr s hs hname
    rw [← hall r hr, hname, hall s hs]
  · intro hall r hr
    obtain ⟨front, s, back, hsplit, hname, hback⟩ :=
      exists_last (p := fun s => bindingName h s = bindingName h r) ⟨r, hr, rfl⟩
    have hs : s ∈ refs := by rw [hsplit]; exact List.mem_append_right _ List.mem_cons_self
    rw [← hall s hs r hr hname]
    obtain ⟨l, hlibrary⟩ := Option.isSome_iff_exists.mp (hl.found s hs)
    rw [hlibrary]
    exact hl.get?_iff.mpr ⟨front, s, back, hsplit, hname, hlibrary, hback⟩

end

/-- Two library files of one name in different directories. -/
def namesakesHost : Host where
  tree := ⟨[(["a"], .directory), (["b"], .directory),
    (["x.py", "a"], .file (Text.encodeUtf8 "v = 1\n".toList)),
    (["x.py", "b"], .file (Text.encodeUtf8 "v = 2\n".toList))]⟩
  cwd := "/"
  home := "/"
  tempDir := "/"
  copies := []
  named := 0
  notices := []
  asked := []

end Program

end BraceScript
