import BraceScript.Host
import BraceScript.Proofs.Files.Path
import Mathlib

/-!
# What steps do to a host

A step that only looks (`Act.Looks`) gives what the files decide, whatever the run did before, and
leaves files and copies as they are; steps compose (`Act.Looks.bind`, `Act.Reads.bind`). A copy is
made under a name that is not in use (`freshNumber_notMem`), so it stands neither for a copy that
is there (`copyPath_fresh`) nor for a file (`copyPath_vacant`).
-/

namespace BraceScript

open Files

/-! ## Running steps -/

namespace Act

variable {α β : Type}

@[simp]
theorem pure_apply (a : α) (h : Host) : (pure a : Act α) h = (.ok a, h) := rfl

@[simp]
theorem throw_apply (e : Failure) (h : Host) : (throw e : Act α) h = (.error e, h) := rfl

@[simp]
theorem get_apply (h : Host) : (get : Act Host) h = (.ok h, h) := rfl

@[simp]
theorem set_apply (h h' : Host) : (set h' : Act PUnit) h = (.ok ⟨⟩, h') := rfl

theorem bind_of_ok {a : Act α} {h h' : Host} {x : α} (ha : a h = (.ok x, h')) (f : α → Act β) :
    (a >>= f) h = f x h' := by
  show (ExceptT.bind a f) h = _
  simp only [ExceptT.bind, ExceptT.mk, bind, StateT.bind]
  rw [ha]
  rfl

theorem bind_of_error {a : Act α} {h h' : Host} {e : Failure} (ha : a h = (.error e, h'))
    (f : α → Act β) : (a >>= f) h = (.error e, h') := by
  show (ExceptT.bind a f) h = _
  simp only [ExceptT.bind, ExceptT.mk, bind, StateT.bind]
  rw [ha]
  rfl

/-- Two steps end well when both do. -/
theorem bind_eq_ok {a : Act α} {f : α → Act β} {h h'' : Host} {y : β} :
    (a >>= f) h = (.ok y, h'') ↔ ∃ x h', a h = (.ok x, h') ∧ f x h' = (.ok y, h'') := by
  constructor
  · intro hr
    rcases ha : a h with ⟨_ | x, h'⟩
    · rw [bind_of_error ha] at hr
      cases hr
    · rw [bind_of_ok ha] at hr
      exact ⟨x, h', rfl, hr⟩
  · rintro ⟨x, h', ha, hf⟩
    rwa [bind_of_ok ha]

/-- Two steps fail when the first one does, or the second one after it. -/
theorem bind_eq_error {a : Act α} {f : α → Act β} {h h'' : Host} {e : Failure} :
    (a >>= f) h = (.error e, h'') ↔
      a h = (.error e, h'') ∨ ∃ x h', a h = (.ok x, h') ∧ f x h' = (.error e, h'') := by
  constructor
  · intro hr
    rcases ha : a h with ⟨_ | x, h'⟩
    · rw [bind_of_error ha] at hr
      cases hr
      exact .inl rfl
    · rw [bind_of_ok ha] at hr
      exact .inr ⟨x, h', rfl, hr⟩
  · rintro (ha | ⟨x, h', ha, hf⟩)
    · exact bind_of_error ha f
    · rwa [bind_of_ok ha]

end Act

/-- The first of two steps that cannot fail. -/
theorem Host.bind_of_eq {α β : Type} {a : StateM Host α} {h h' : Host} {x : α}
    (ha : a h = (x, h')) (f : α → StateM Host β) : (a >>= f) h = f x h' := by
  show StateT.bind a f h = _
  unfold StateT.bind
  rw [ha]
  rfl

theorem tell_apply (n : Notice) (h : Host) :
    tell n h = (.ok (), { h with notices := n :: h.notices }) := rfl

theorem look_apply (path : String) (h : Host) :
    look path h = (.ok (h.find path), { h with asked := path :: h.asked }) := rfl

theorem lookCompiled_apply (path : String) (h : Host) :
    lookCompiled path h = (.ok (h.findCompiled path), { h with asked := path :: h.asked }) := rfl

/-! ## Hosts with the same files -/

/-- The file that a notice says is being scanned. -/
def Notice.scanned? : Notice → Option String
  | .scanning path => some path
  | _ => none

namespace Host

/-- The files that were scanned so far, in order. -/
def scanned (h : Host) : List String := h.notices.reverse.filterMap Notice.scanned?

/-- Hosts with the same files, seen from the same place. -/
structure Alike (h h' : Host) : Prop where
  tree : h'.tree = h.tree
  cwd : h'.cwd = h.cwd
  home : h'.home = h.home
  tempDir : h'.tempDir = h.tempDir

namespace Alike

variable {h h' h'' : Host}

theorem refl (h : Host) : Alike h h := ⟨rfl, rfl, rfl, rfl⟩

theorem symm (a : Alike h h') : Alike h' h :=
  ⟨a.tree.symm, a.cwd.symm, a.home.symm, a.tempDir.symm⟩

theorem trans (a : Alike h h') (b : Alike h' h'') : Alike h h'' :=
  ⟨b.tree.trans a.tree, b.cwd.trans a.cwd, b.home.trans a.home, b.tempDir.trans a.tempDir⟩

theorem find (a : Alike h h') (path : String) : h'.find path = h.find path := by
  unfold Host.find
  rw [a.tree, a.cwd]

theorem findCompiled (a : Alike h h') (hcopies : h'.copies = h.copies) (path : String) :
    h'.findCompiled path = h.findCompiled path := by
  unfold Host.findCompiled
  rw [hcopies, a.find]

theorem absolute (a : Alike h h') (path : String) : h'.absolute path = h.absolute path := by
  unfold Host.absolute
  rw [a.cwd]

end Alike

end Host

namespace Act

variable {α β : Type}

/-- A step that leaves files and copies as they are. -/
structure Keeps (a : Act α) : Prop where
  alike : ∀ h : Host, h.Alike (a h).2
  copies : ∀ h : Host, (a h).2.copies = h.copies

/-- A step that reads files: what it gives is decided by the files. -/
structure Reads (a : Act α) : Prop extends Keeps a where
  result : ∀ {h h' : Host}, h.Alike h' → (a h').1 = (a h).1

/-- A step that reads files and tells nothing. -/
structure Looks (a : Act α) : Prop extends Reads a where
  notices : ∀ h : Host, (a h).2.notices = h.notices

theorem Keeps.bind {a : Act α} {f : α → Act β} (ha : Keeps a) (hf : ∀ x, Keeps (f x)) :
    Keeps (a >>= f) := by
  constructor
  · intro h
    have h1 := ha.alike h
    rcases e1 : a h with ⟨_ | x, k⟩
    · rw [bind_of_error e1]
      rwa [e1] at h1
    · rw [bind_of_ok e1]
      rw [e1] at h1
      exact h1.trans ((hf x).alike k)
  · intro h
    have h1 := ha.copies h
    rcases e1 : a h with ⟨_ | x, k⟩
    · rw [bind_of_error e1]
      rwa [e1] at h1
    · rw [bind_of_ok e1, (hf x).copies k]
      rwa [e1] at h1

theorem Reads.bind {a : Act α} {f : α → Act β} (ha : Reads a) (hf : ∀ x, Reads (f x)) :
    Reads (a >>= f) := by
  refine ⟨ha.toKeeps.bind fun x => (hf x).toKeeps, ?_⟩
  intro h h' hh
  have hr := ha.result hh
  have h1 := ha.alike h
  have h2 := ha.alike h'
  rcases e1 : a h with ⟨_ | x, k⟩
  · rcases e2 : a h' with ⟨r2, k'⟩
    rw [e1, e2] at hr
    simp only at hr
    subst hr
    rw [bind_of_error e1, bind_of_error e2]
  · rcases e2 : a h' with ⟨r2, k'⟩
    rw [e1, e2] at hr
    simp only at hr
    subst hr
    rw [e1] at h1
    rw [e2] at h2
    rw [bind_of_ok e1, bind_of_ok e2]
    exact (hf x).result (h1.symm.trans (hh.trans h2))

theorem Looks.bind {a : Act α} {f : α → Act β} (ha : Looks a) (hf : ∀ x, Looks (f x)) :
    Looks (a >>= f) where
  toReads := ha.toReads.bind fun x => (hf x).toReads
  notices := by
    intro h
    have h1 := ha.notices h
    rcases e1 : a h with ⟨_ | x, k⟩
    · rw [bind_of_error e1]
      rwa [e1] at h1
    · rw [bind_of_ok e1, (hf x).notices k]
      rwa [e1] at h1

/-- What two steps give when the first one ends well and changes no file. -/
theorem Keeps.bind_result {a : Act α} {f : α → Act β} {h : Host} {x : α} (ha : Keeps a)
    (hx : (a h).1 = .ok x) (hf : Reads (f x)) : ((a >>= f) h).1 = (f x h).1 := by
  have halike := ha.alike h
  rcases e : a h with ⟨r, k⟩
  rw [e] at halike hx
  obtain rfl : r = .ok x := hx
  rw [bind_of_ok e]
  exact hf.result halike

theorem Looks.pure (a : α) : Looks (pure a : Act α) :=
  ⟨⟨⟨.refl, fun _ => rfl⟩, fun _ => rfl⟩, fun _ => rfl⟩

theorem Looks.throw (e : Failure) : Looks (throw e : Act α) :=
  ⟨⟨⟨.refl, fun _ => rfl⟩, fun _ => rfl⟩, fun _ => rfl⟩

theorem Looks.look (path : String) : Looks (look path) := by
  refine ⟨⟨⟨fun _ => ⟨rfl, rfl, rfl, rfl⟩, fun _ => rfl⟩, ?_⟩, fun _ => rfl⟩
  intro h h' hh
  rw [look_apply, look_apply, hh.find]

theorem Looks.isFile (path : String) : Looks (isFile path) := by
  refine (Looks.look path).bind fun f => ?_
  split <;> exact .pure _

theorem Looks.isDirectory (path : String) : Looks (isDirectory path) := by
  refine (Looks.look path).bind fun f => ?_
  split <;> exact .pure _

theorem Reads.tell (n : Notice) : Reads (tell n) :=
  ⟨⟨fun _ => ⟨rfl, rfl, rfl, rfl⟩, fun _ => rfl⟩, fun _ => rfl⟩

/-! ## Steps that read copies too -/

/-- A step that reads files and copies: what it gives is decided by them. -/
structure Consults (a : Act α) : Prop extends Keeps a where
  result : ∀ {h h' : Host}, h.Alike h' → h'.copies = h.copies → (a h').1 = (a h).1

theorem Reads.consults {a : Act α} (ha : Reads a) : Consults a := ⟨ha.toKeeps, fun hh _ => ha.result hh⟩

/-- What two steps give when the first one changes nothing that the second one reads. -/
theorem Keeps.bind_fst {a : Act α} {f : α → Act β} (ha : Keeps a) (hf : ∀ x, Consults (f x))
    (h : Host) : ((a >>= f) h).1 = (a h).1.bind fun x => (f x h).1 := by
  have halike := ha.alike h
  have hcopies := ha.copies h
  rcases e : a h with ⟨_ | x, k⟩
  · rw [bind_of_error e]
    rfl
  · rw [e] at halike hcopies
    rw [bind_of_ok e]
    exact (hf x).result halike hcopies

theorem Consults.bind {a : Act α} {f : α → Act β} (ha : Consults a) (hf : ∀ x, Consults (f x)) :
    Consults (a >>= f) := by
  refine ⟨ha.toKeeps.bind fun x => (hf x).toKeeps, ?_⟩
  intro h h' hh hcopies
  rw [ha.bind_fst hf, ha.bind_fst hf, ha.result hh hcopies]
  cases (a h).1 with
  | error e => rfl
  | ok x => exact (hf x).result hh hcopies

theorem Consults.lookCompiled (path : String) : Consults (lookCompiled path) := by
  refine ⟨⟨fun _ => ⟨rfl, rfl, rfl, rfl⟩, fun _ => rfl⟩, ?_⟩
  intro h h' hh hcopies
  rw [lookCompiled_apply, lookCompiled_apply, hh.findCompiled hcopies]

end Act

/-! ## Names of copies -/

namespace Host

theorem toList_copyName (n : Nat) :
    (copyName n).toList = "csrun-".toList ++
      (List.replicate (8 - (toString n).length) '0' ++ Nat.toDigits 10 n) := by
  unfold copyName
  simp only [String.toList_append, String.toList_ofList, List.append_assoc]
  rw [show (toString n).toList = Nat.toDigits 10 n from Nat.toList_repr]

/-- The digits of a name say its number. -/
theorem copyName_injective : Function.Injective copyName := by
  intro m n h
  have hl := congrArg String.toList h
  rw [toList_copyName, toList_copyName] at hl
  have hd := congrArg (fun cs => Nat.ofDigitChars 10 cs 0) (List.append_cancel_left hl)
  simpa only [Nat.ofDigitChars_append, Nat.ofDigitChars_replicate_zero, Nat.mul_zero,
    Nat.ofDigitChars_ten_toDigits] using hd

theorem slash_notMem_copyName (n : Nat) : '/' ∉ (copyName n).toList := by
  rw [toList_copyName]
  simp only [List.mem_append, not_or]
  refine ⟨by decide, ?_, ?_⟩
  · intro h
    exact absurd (List.eq_of_mem_replicate h) (by decide)
  · intro h
    have hd := Nat.isDigit_of_mem_toDigits (by decide) (by decide) h
    exact absurd hd (by decide)

/-- A name that begins as that of a copy is a name. -/
theorem isName_copyName (n : Nat) (suffix : String) : IsName (copyName n ++ suffix) := by
  have hl : (copyName n ++ suffix).toList.head? = some 'c' := by
    rw [String.toList_append, toList_copyName]
    rfl
  refine ⟨?_, ?_, ?_⟩ <;>
  · intro e
    rw [e] at hl
    exact absurd hl (by decide)

/-- There are more candidates than names in use, so one of them is free. -/
theorem freshNumber_notMem (h : Host) (suffix : String) :
    copyName (h.freshNumber suffix) ++ suffix ∉ h.takenNames := by
  unfold freshNumber
  set candidates := (List.range (h.takenNames.length + 1)).map (h.named + ·) with hc
  cases hf : candidates.find? fun n => !h.takenNames.contains (copyName n ++ suffix) with
  | some n =>
    have hn := List.find?_some hf
    simpa using hn
  | none =>
    exfalso
    have htaken : candidates.map (copyName · ++ suffix) ⊆ h.takenNames := by
      intro name hname
      obtain ⟨n, hn, rfl⟩ := List.mem_map.mp hname
      simpa using List.find?_eq_none.mp hf n hn
    have hnodup : (candidates.map (copyName · ++ suffix)).Nodup := by
      refine List.Nodup.map ?_ ?_
      · intro m n hmn
        exact copyName_injective (String.append_left_inj suffix |>.mp hmn)
      · exact List.Nodup.map (fun _ _ => Nat.add_left_cancel) List.nodup_range
    have hlen := (hnodup.subperm htaken).length_le
    simp only [hc, List.length_map, List.length_range] at hlen
    omega

/-- A new copy is none of those that are there. -/
theorem copyPath_fresh (h : Host) (dir : String) {suffix : String} (hs : '/' ∉ suffix.toList) :
    copyPath dir suffix (h.freshNumber suffix) ∉ h.copies.map Prod.fst := by
  intro hmem
  obtain ⟨c, hc, hpath⟩ := List.mem_map.mp hmem
  have hslash : '/' ∉ (copyName (h.freshNumber suffix) ++ suffix).toList := by
    rw [String.toList_append, List.mem_append, not_or]
    exact ⟨slash_notMem_copyName _, hs⟩
  refine freshNumber_notMem h suffix (List.mem_append_right _ (List.mem_map.mpr ⟨c, hc, ?_⟩))
  rw [hpath, copyPath, basename_join hslash]

/-- Nothing is found at a path, and nothing can be removed there. -/
structure Vacant (h : Host) (path : String) : Prop where
  find : ∀ content, h.find path ≠ .file content
  removeFile : h.tree.removeFile h.cwd path = h.tree

theorem Vacant.of_alike {h h' : Host} {path : String} (hv : h'.Vacant path) (a : h.Alike h') :
    h.Vacant path := by
  refine ⟨fun content => ?_, ?_⟩
  · rw [← a.find]
    exact hv.find content
  · rw [← a.tree, ← a.cwd]
    exact hv.removeFile

/-- A new copy stands where nothing is. -/
theorem copyPath_vacant (h : Host) (dir : String) {suffix : String} (hs : '/' ∉ suffix.toList) :
    h.Vacant (copyPath dir suffix (h.freshNumber suffix)) := by
  have hname := isName_copyName (h.freshNumber suffix) suffix
  have hslash : '/' ∉ (copyName (h.freshNumber suffix) ++ suffix).toList := by
    rw [String.toList_append, List.mem_append, not_or]
    exact ⟨slash_notMem_copyName _, hs⟩
  have hfresh : copyName (h.freshNumber suffix) ++ suffix ∉ h.tree.nodes.map (·.1.headD "") :=
    fun hmem => freshNumber_notMem h suffix (List.mem_append_left _ hmem)
  exact ⟨find_join_fresh hname hslash hfresh, removeFile_join_fresh hname hslash hfresh⟩

end Host

/-! ## Making and removing copies -/

theorem makeCopy_of_some {dir suffix : String} {content : Bytes} {h : Host} {e : Failure}
    (he : copyRefusal (h.absolute dir) suffix (h.find (h.absolute dir)) = some e) :
    makeCopy dir suffix content h = (.error e, { h with asked := h.absolute dir :: h.asked }) := by
  unfold makeCopy
  rw [Act.bind_of_ok (Act.get_apply h), Act.bind_of_ok (look_apply _ _)]
  simp only [he]
  rfl

theorem makeCopy_of_none {dir suffix : String} {content : Bytes} {h : Host}
    (he : copyRefusal (h.absolute dir) suffix (h.find (h.absolute dir)) = none) :
    makeCopy dir suffix content h =
      (.ok (Host.copyPath (h.absolute dir) suffix (h.freshNumber suffix)),
        { h with
          asked := h.absolute dir :: h.asked
          copies := h.copies ++
            [(Host.copyPath (h.absolute dir) suffix (h.freshNumber suffix), content)]
          named := h.freshNumber suffix + 1 }) := by
  unfold makeCopy
  rw [Act.bind_of_ok (Act.get_apply h), Act.bind_of_ok (look_apply _ _)]
  simp only [he]
  rfl

/-- A copy that is made stands for none of the copies and files that are there. -/
theorem makeCopy_ok {dir suffix copy : String} {content : Bytes} {h h' : Host}
    (hs : '/' ∉ suffix.toList) (hm : makeCopy dir suffix content h = (.ok copy, h')) :
    copyRefusal (h.absolute dir) suffix (h.find (h.absolute dir)) = none
      ∧ copy ∉ h.copies.map Prod.fst ∧ h.Vacant copy ∧ h.Alike h'
      ∧ h'.notices = h.notices ∧ h'.copies = h.copies ++ [(copy, content)] := by
  cases hr : copyRefusal (h.absolute dir) suffix (h.find (h.absolute dir)) with
  | some e =>
    rw [makeCopy_of_some hr] at hm
    cases hm
  | none =>
    rw [makeCopy_of_none hr] at hm
    obtain ⟨hcopy, rfl⟩ := Prod.mk.inj hm
    obtain rfl := Except.ok.inj hcopy
    exact ⟨rfl, h.copyPath_fresh _ hs, h.copyPath_vacant _ hs, ⟨rfl, rfl, rfl, rfl⟩, rfl, rfl⟩

theorem makeCopy_error {dir suffix : String} {content : Bytes} {h h' : Host} {e : Failure}
    (hm : makeCopy dir suffix content h = (.error e, h')) :
    copyRefusal (h.absolute dir) suffix (h.find (h.absolute dir)) = some e
      ∧ h.Alike h' ∧ h'.copies = h.copies := by
  cases hr : copyRefusal (h.absolute dir) suffix (h.find (h.absolute dir)) with
  | some e' =>
    rw [makeCopy_of_some hr] at hm
    cases hm
    exact ⟨rfl, ⟨rfl, rfl, rfl, rfl⟩, rfl⟩
  | none =>
    rw [makeCopy_of_none hr] at hm
    cases hm

/-- The copies without the one that is removed. -/
theorem removeCopy_copies (path source : String) (h : Host) :
    (removeCopy path source h).2.copies = h.copies.filter (·.1 != path) := by
  simp only [removeCopy, modify, modifyGet, MonadStateOf.modifyGet, StateT.modifyGet]
  cases hl : h.copies.lookup path with
  | some content =>
    have hfile : h.findCompiled path = .file content := by
      unfold Host.findCompiled
      rw [hl]
    rw [hfile]
    rfl
  | none =>
    have hself : h.copies.filter (·.1 != path) = h.copies := by
      rw [List.filter_eq_self]
      intro c hc
      have hne := List.lookup_eq_none_iff.mp hl c hc
      rw [bne_iff_ne] at hne ⊢
      exact hne.symm
    cases h.findCompiled path with
    | file => rfl
    | _ => exact hself.symm

/-- Where nothing is but a copy, no file is removed. -/
theorem removeCopy_alike {path : String} (source : String) {h : Host} (hv : h.Vacant path) :
    h.Alike (removeCopy path source h).2 := by
  simp only [removeCopy, modify, modifyGet, MonadStateOf.modifyGet, StateT.modifyGet]
  cases h.findCompiled path with
  | file => exact ⟨hv.removeFile, rfl, rfl, rfl⟩
  | _ => exact .refl h

end BraceScript
