import BraceScript.Proofs.BreadthFirst
import BraceScript.Proofs.Source.Scan
import BraceScript.Source.Resolution
import Mathlib

/-!
# What a resolution does

A resolution is a row of scans (`Scans`), each of which adds at most one copy that its unit owns.
While a level is scanned the units found so far own exactly the copies that were added since it
began, so a level that fails gives back the copies that were there before (`scanLevel_error`), and
one that ends well goes on behind the units known before (`scanLevel_ok`). Level by level the
units come in breadth-first order (`closeLevels_spec`).
-/

namespace BraceScript.Source

open BreadthFirst

/-! ## Rows of scans -/

/-- Steps that keep the files and the copies, and scan nothing. -/
structure Quiet (h h' : Host) : Prop where
  alike : h.Alike h'
  copies : h'.copies = h.copies
  scanned : h'.scanned = h.scanned

/-- `Scans settings h found h'`: from `h` to `h'` the units `found` are scanned, in order. -/
inductive Scans (settings : Settings) (h : Host) : List (String × SourceUnit) → Host → Prop
  | nil : Scans settings h [] h
  | quiet {found : List (String × SourceUnit)} {h₁ h₂ : Host} :
    Scans settings h found h₁ → Quiet h₁ h₂ → Scans settings h found h₂
  | scan {found : List (String × SourceUnit)} {h₁ h₂ : Host} {path : String} {u : SourceUnit} :
    Scans settings h found h₁ → scan settings path h₁ = (.ok u, h₂) →
    Scans settings h (found ++ [(path, u)]) h₂

/-- The copies that units own. -/
def ownedCopies (us : List SourceUnit) : List String :=
  (us.filter (·.isCopied)).map (·.compilePath)

@[simp]
theorem ownedCopies_append (us vs : List SourceUnit) :
    ownedCopies (us ++ vs) = ownedCopies us ++ ownedCopies vs := by
  simp [ownedCopies]

namespace Scans

variable {settings : Settings} {h h' : Host} {found : List (String × SourceUnit)}

theorem trans {h'' : Host} {more : List (String × SourceUnit)} (hs : Scans settings h found h')
    (ht : Scans settings h' more h'') : Scans settings h (found ++ more) h'' := by
  induction ht with
  | nil => rwa [List.append_nil]
  | quiet _ hq ih => exact ih.quiet hq
  | scan _ hu ih =>
    rw [← List.append_assoc]
    exact ih.scan hu

theorem alike (hs : Scans settings h found h') : h.Alike h' := by
  induction hs with
  | nil => exact .refl h
  | quiet _ hq ih => exact ih.trans hq.alike
  | scan _ hu ih =>
    obtain ⟨f, hu⟩ := scan_ok hu
    exact ih.trans hu.alike

/-- Every unit is scanned once. -/
theorem scanned (hs : Scans settings h found h') :
    h'.scanned = h.scanned ++ found.map Prod.fst := by
  induction hs with
  | nil => simp
  | quiet _ hq ih => rw [hq.scanned, ih]
  | scan _ hu ih =>
    obtain ⟨f, hu⟩ := scan_ok hu
    rw [hu.scanned, ih]
    simp

/-- A unit has what its file includes. -/
theorem inspected (hs : Scans settings h found h') :
    ∀ e ∈ found, ∃ f, inspect settings e.1 h = .ok f ∧ e.2.includes = f.includes := by
  induction hs with
  | nil => simp
  | quiet _ _ ih => exact ih
  | scan hs hu ih =>
    obtain ⟨f, hu⟩ := scan_ok hu
    intro e he
    rcases List.mem_append.mp he with he | he
    · exact ih e he
    · rw [List.mem_singleton] at he
      subst he
      exact ⟨f, by rw [← inspect_alike hs.alike, hu.inspected], hu.includes⟩

/-- The copies that are added are those that the units own, and each stands where nothing was. -/
theorem copies (hs : Scans settings h found h') :
    ∃ added, h'.copies = h.copies ++ added
      ∧ added.map Prod.fst = ownedCopies (found.map Prod.snd)
      ∧ ∀ p ∈ added.map Prod.fst, p ∉ h.copies.map Prod.fst ∧ h.Vacant p := by
  induction hs with
  | nil => exact ⟨[], by simp, rfl, by simp⟩
  | quiet _ hq ih => rwa [hq.copies]
  | @scan found h₁ h₂ path u hs hu ih =>
    obtain ⟨added, hadded, hown, hnew⟩ := ih
    obtain ⟨f, hu⟩ := scan_ok hu
    cases hb : f.leading.hasBlock with
    | false =>
      obtain ⟨hpath, hsame⟩ := hu.plain hb
      have hcopied : u.isCopied = false := by
        simp [SourceUnit.isCopied, hpath, hu.sourcePath]
      refine ⟨added, by rw [hsame, hadded], ?_, hnew⟩
      rw [hown, List.map_append, ownedCopies_append]
      simp [ownedCopies, hcopied]
    | true =>
      obtain ⟨-, hpath, hfresh, hvacant, hone⟩ := hu.copied hb
      have hcopied : u.isCopied = true := by
        simp [SourceUnit.isCopied, hpath, hu.sourcePath]
      refine ⟨added ++ [(u.compilePath, compiledBytes f)], ?_, ?_, ?_⟩
      · rw [hone, hadded, List.append_assoc]
      · rw [List.map_append, hown, List.map_append, ownedCopies_append]
        simp [ownedCopies, hcopied]
      · intro p hp
        rw [List.map_append, List.mem_append] at hp
        rcases hp with hp | hp
        · exact hnew p hp
        · obtain rfl : p = u.compilePath := by simpa using hp
          rw [hadded, List.map_append, List.mem_append, not_or] at hfresh
          exact ⟨hfresh.1, hvacant.of_alike hs.alike⟩

end Scans

/-! ## Giving copies back -/

theorem release_copies (u : SourceUnit) (h : Host) :
    (release u h).2.copies = h.copies.filter fun c => c.1 ∉ ownedCopies [u] := by
  unfold release
  split
  · next hu =>
    rw [removeCopy_copies]
    refine List.filter_congr fun c _ => ?_
    rw [Bool.eq_iff_iff]
    simp [ownedCopies, hu]
  · next hu =>
    symm
    show h.copies.filter _ = h.copies
    rw [List.filter_eq_self]
    intro c _
    simp [ownedCopies, hu]

theorem release_alike (u : SourceUnit) {h : Host} (hv : ∀ p ∈ ownedCopies [u], h.Vacant p) :
    h.Alike (release u h).2 := by
  unfold release
  split
  · next hu => exact removeCopy_alike _ (hv _ (by simp [ownedCopies, hu]))
  · exact .refl h

theorem releaseAll_copies (us : List SourceUnit) (h : Host) :
    (releaseAll us h).2.copies = h.copies.filter fun c => c.1 ∉ ownedCopies us := by
  induction us generalizing h with
  | nil =>
    symm
    show h.copies.filter _ = h.copies
    rw [List.filter_eq_self]
    simp [ownedCopies]
  | cons u us ih =>
    show (releaseAll us (release u h).2).2.copies = _
    rw [ih, release_copies, List.filter_filter]
    have hcons : ownedCopies (u :: us) = ownedCopies [u] ++ ownedCopies us :=
      ownedCopies_append [u] us
    refine List.filter_congr fun c _ => ?_
    rw [hcons, Bool.eq_iff_iff]
    simp [and_comm]

theorem releaseAll_alike (us : List SourceUnit) {h : Host}
    (hv : ∀ p ∈ ownedCopies us, h.Vacant p) : h.Alike (releaseAll us h).2 := by
  induction us generalizing h with
  | nil => exact .refl h
  | cons u us ih =>
    have hcons : ownedCopies (u :: us) = ownedCopies [u] ++ ownedCopies us :=
      ownedCopies_append [u] us
    rw [hcons] at hv
    have hone := release_alike u fun p hp => hv p (List.mem_append_left _ hp)
    exact hone.trans (ih fun p hp => (hv p (List.mem_append_right _ hp)).of_alike hone.symm)

/-- Once the units of a row of scans are released, the copies and the files are those from before
it. -/
theorem Scans.release {settings : Settings} {h h₁ h' : Host}
    {found : List (String × SourceUnit)} (hs : Scans settings h found h₁) (ha : h₁.Alike h')
    (hc : h'.copies = h₁.copies) :
    (releaseAll (found.map Prod.snd) h').2.copies = h.copies
      ∧ h.Alike (releaseAll (found.map Prod.snd) h').2 := by
  obtain ⟨added, hadded, hown, hnew⟩ := hs.copies
  have halike := hs.alike.trans ha
  constructor
  · rw [releaseAll_copies, hc, hadded, ← hown, List.filter_append]
    have hkeep : h.copies.filter (fun c => c.1 ∉ added.map Prod.fst) = h.copies := by
      rw [List.filter_eq_self]
      intro c hc
      rw [decide_eq_true_eq]
      exact fun hmem => (hnew c.1 hmem).1 (List.mem_map_of_mem hc)
    have hdrop : added.filter (fun c => c.1 ∉ added.map Prod.fst) = [] := by
      rw [List.filter_eq_nil_iff]
      intro c hc
      rw [decide_eq_true_eq, not_not]
      exact List.mem_map_of_mem hc
    rw [hkeep, hdrop, List.append_nil]
  · refine halike.trans (releaseAll_alike _ fun p hp => ?_)
    rw [← hown] at hp
    exact (hnew p hp).2.of_alike halike.symm

/-! ## Levels -/

/-- The paths that a file includes, if it can be scanned. -/
def includesOf (settings : Settings) (h : Host) (path : String) : List String :=
  match (scan settings path h).1 with
  | .error _ => []
  | .ok u => u.includes.map h.absolute

theorem inspect_eq_error_iff {settings : Settings} {path : String} {h : Host} {e : Failure} :
    inspect settings path h = .error e ↔ (scan settings path h).1 = .error e := by
  rcases hs : scan settings path h with ⟨e' | u, h'⟩
  · rw [(scan_error hs).1, Except.error.injEq, Except.error.injEq]
  · obtain ⟨f, hu⟩ := scan_ok hs
    rw [hu.inspected]
    simp

theorem inspect_isOk_iff {settings : Settings} {path : String} {h : Host} :
    (∃ f, inspect settings path h = .ok f) ↔ ∃ u, (scan settings path h).1 = .ok u := by
  rcases hs : scan settings path h with ⟨e | u, h'⟩
  · rw [(scan_error hs).1]
    simp
  · obtain ⟨f, hu⟩ := scan_ok hs
    rw [hu.inspected]
    simp

/-- Includes among which one fails: those before it can be scanned. -/
def FailsIn (settings : Settings) (h : Host) (paths : List String) (e : Failure) : Prop :=
  ∃ before path after, paths = before ++ path :: after
    ∧ (∀ p ∈ before, ∃ f, inspect settings p h = .ok f) ∧ inspect settings path h = .error e

theorem FailsIn.append {settings : Settings} {h : Host} {paths : List String} {e : Failure}
    (hp : FailsIn settings h paths e) (more : List String) :
    FailsIn settings h (paths ++ more) e := by
  obtain ⟨before, path, after, rfl, hbefore, hi⟩ := hp
  exact ⟨before, path, after ++ more, by simp, hbefore, hi⟩

/-- Includes that can be scanned do not change which one fails first. -/
theorem FailsIn.behind {settings : Settings} {h : Host} {paths fine : List String} {e : Failure}
    (hfine : ∀ p ∈ fine, ∃ f, inspect settings p h = .ok f) (hp : FailsIn settings h paths e) :
    FailsIn settings h (fine ++ paths) e := by
  obtain ⟨before, path, after, rfl, hbefore, hi⟩ := hp
  refine ⟨fine ++ before, path, after, by simp, ?_, hi⟩
  intro p hp
  rcases List.mem_append.mp hp with hp | hp
  · exact hfine p hp
  · exact hbefore p hp

theorem FailsIn.of_alike {settings : Settings} {h h' : Host} {paths : List String} {e : Failure}
    (hp : FailsIn settings h' paths e) (a : h.Alike h') : FailsIn settings h paths e := by
  obtain ⟨before, path, after, hsplit, hbefore, hi⟩ := hp
  simp only [inspect_alike a] at hbefore hi
  exact ⟨before, path, after, hsplit, hbefore, hi⟩

/-- Every path that was scanned can be scanned. -/
theorem Scans.fine {settings : Settings} {h h' : Host} {found : List (String × SourceUnit)}
    (hs : Scans settings h found h') :
    ∀ p ∈ found.map Prod.fst, ∃ f, inspect settings p h = .ok f := by
  intro p hp
  obtain ⟨e, he, rfl⟩ := List.mem_map.mp hp
  obtain ⟨f, hi, -⟩ := hs.inspected e he
  exact ⟨f, hi⟩

section

variable {settings : Settings} {known : Resolution} {h₀ h h' : Host}

theorem told_quiet (n : Notice) (hn : n.scanned? = none) (h : Host) :
    Quiet h { h with notices := n :: h.notices } := by
  refine ⟨⟨rfl, rfl, rfl, rfl⟩, rfl, ?_⟩
  unfold Host.scanned
  simp [hn]

/-- Scanning one include that is not known: what comes of it. -/
theorem orRelease_scan {found : List (String × SourceUnit)} {source path : String}
    (hf : Scans settings h₀ found h) {r : Except Failure SourceUnit}
    (hr : orRelease found (do tell (.including source path); scan settings path) h = (r, h')) :
    (∃ u, r = .ok u ∧ Scans settings h₀ (found ++ [(path, u)]) h')
      ∨ ∃ e, r = .error e ∧ inspect settings path h₀ = .error e ∧ h₀.Alike h'
        ∧ h'.copies = h₀.copies := by
  have htold := told_quiet (.including source path) rfl h
  unfold orRelease at hr
  rw [Act.bind_of_ok (tell_apply _ _)] at hr
  rcases hs : scan settings path { h with notices := .including source path :: h.notices }
    with ⟨e | u, h''⟩
  · rw [hs] at hr
    cases hr
    obtain ⟨hi, halike, hcopies⟩ := scan_error hs
    refine .inr ⟨e, rfl, ?_, ?_, ?_⟩
    · rwa [inspect_alike htold.alike, inspect_alike hf.alike] at hi
    · exact (hf.release (htold.alike.trans halike) hcopies).2
    · exact (hf.release (htold.alike.trans halike) hcopies).1
  · rw [hs] at hr
    cases hr
    exact .inl ⟨u, rfl, (hf.quiet htold).scan hs⟩

theorem contains_or_contains (path : String) (found : List (String × SourceUnit)) :
    (known.contains path || (found.map Prod.fst).contains path) = true
      ↔ path ∈ known.paths ++ found.map Prod.fst := by
  simp [Resolution.contains]

theorem scanIncludes_ok {source : SourceUnit} {targets : List String}
    {found found' : List (String × SourceUnit)} (hf : Scans settings h₀ found h)
    (hr : scanIncludes settings known source found targets h = (.ok found', h')) :
    Scans settings h₀ found' h' ∧ found'.map Prod.fst = found.map Prod.fst
      ++ fresh (known.paths ++ found.map Prod.fst) (targets.map h₀.absolute) := by
  induction targets generalizing found h with
  | nil =>
    cases hr
    exact ⟨hf, by simp [fresh]⟩
  | cons target targets ih =>
    unfold scanIncludes at hr
    rw [Act.bind_of_ok (Act.get_apply h), hf.alike.absolute] at hr
    simp only [contains_or_contains] at hr
    rw [List.map_cons, fresh]
    split at hr
    · next hseen =>
      rw [if_pos hseen]
      exact ih hf hr
    · next hseen =>
      rw [if_neg hseen]
      obtain ⟨u, h₁, hu, hr⟩ := Act.bind_eq_ok.mp hr
      rcases orRelease_scan hf hu with ⟨u', hu', hs⟩ | ⟨e, he, -⟩
      · obtain rfl := Except.ok.inj hu'
        obtain ⟨hs', hpaths⟩ := ih hs hr
        refine ⟨hs', ?_⟩
        rw [hpaths]
        simp
      · cases he

theorem scanIncludes_error {source : SourceUnit} {targets : List String}
    {found : List (String × SourceUnit)} {e : Failure} (hf : Scans settings h₀ found h)
    (hr : scanIncludes settings known source found targets h = (.error e, h')) :
    h₀.Alike h' ∧ h'.copies = h₀.copies
      ∧ FailsIn settings h₀ (fresh (known.paths ++ found.map Prod.fst)
          (targets.map h₀.absolute)) e := by
  induction targets generalizing found h with
  | nil => cases hr
  | cons target targets ih =>
    unfold scanIncludes at hr
    rw [Act.bind_of_ok (Act.get_apply h), hf.alike.absolute] at hr
    simp only [contains_or_contains] at hr
    rw [List.map_cons, fresh]
    split at hr
    · next hseen =>
      rw [if_pos hseen]
      exact ih hf hr
    · next hseen =>
      rw [if_neg hseen]
      rcases Act.bind_eq_error.mp hr with hu | ⟨u, h₁, hu, hr⟩
      · rcases orRelease_scan hf hu with ⟨u', hu', -⟩ | ⟨e', he, hi, halike, hcopies⟩
        · cases hu'
        · obtain rfl := Except.error.inj he
          exact ⟨halike, hcopies, [], _, _, rfl, by simp, hi⟩
      · rcases orRelease_scan hf hu with ⟨u', hu', hs⟩ | ⟨e', he, -⟩
        · obtain rfl := Except.ok.inj hu'
          obtain ⟨halike, hcopies, hfails⟩ := ih hs hr
          rw [List.map_append, ← List.append_assoc] at hfails
          have hone : ∀ p ∈ [h₀.absolute target], ∃ f, inspect settings p h₀ = .ok f := by
            intro p hp
            rw [List.mem_singleton] at hp
            exact hs.fine p (by simp [hp])
          exact ⟨halike, hcopies, hfails.behind hone⟩
        · cases he

/-- The includes of a level, when the units of the level are scanned. -/
theorem includesOf_units {level : List (String × SourceUnit)}
    (hl : ∀ e ∈ level, ∃ f, inspect settings e.1 h₀ = .ok f ∧ e.2.includes = f.includes) :
    (level.map Prod.fst).flatMap (includesOf settings h₀)
      = (level.map Prod.snd).flatMap fun u => u.includes.map h₀.absolute := by
  rw [List.flatMap_map, List.flatMap_map]
  refine List.flatMap_congr fun e he => ?_
  obtain ⟨f, hi, hf⟩ := hl e he
  unfold includesOf
  rcases hs : scan settings e.1 h₀ with ⟨e' | u, h'⟩
  · rw [(scan_error hs).1] at hi
    cases hi
  · obtain ⟨f', hu⟩ := scan_ok hs
    rw [hu.inspected, Except.ok.injEq] at hi
    subst hi
    simp only
    rw [hu.includes, hf]

theorem scanLevel_ok {us : List SourceUnit} {found found' : List (String × SourceUnit)}
    (hf : Scans settings h₀ found h)
    (hr : scanLevel settings known found us h = (.ok found', h')) :
    Scans settings h₀ found' h' ∧ found'.map Prod.fst = found.map Prod.fst
      ++ fresh (known.paths ++ found.map Prod.fst)
        (us.flatMap fun u => u.includes.map h₀.absolute) := by
  induction us generalizing found h with
  | nil =>
    cases hr
    exact ⟨hf, by simp [fresh]⟩
  | cons u us ih =>
    unfold scanLevel at hr
    obtain ⟨found₁, h₁, h1, hr⟩ := Act.bind_eq_ok.mp hr
    obtain ⟨hs₁, hp₁⟩ := scanIncludes_ok hf h1
    obtain ⟨hs, hp⟩ := ih hs₁ hr
    refine ⟨hs, ?_⟩
    rw [hp, hp₁, List.flatMap_cons, fresh_append]
    simp only [List.append_assoc]

/-- A level fails when one of its includes does, and then leaves no copy behind. -/
theorem scanLevel_error {us : List SourceUnit} {found : List (String × SourceUnit)} {e : Failure}
    (hf : Scans settings h₀ found h)
    (hr : scanLevel settings known found us h = (.error e, h')) :
    h₀.Alike h' ∧ h'.copies = h₀.copies
      ∧ FailsIn settings h₀ (fresh (known.paths ++ found.map Prod.fst)
          (us.flatMap fun u => u.includes.map h₀.absolute)) e := by
  induction us generalizing found h with
  | nil => cases hr
  | cons u us ih =>
    unfold scanLevel at hr
    rw [List.flatMap_cons, fresh_append]
    rcases Act.bind_eq_error.mp hr with h1 | ⟨found₁, h₁, h1, hr⟩
    · obtain ⟨halike, hcopies, hfails⟩ := scanIncludes_error hf h1
      exact ⟨halike, hcopies, hfails.append _⟩
    · obtain ⟨hs₁, hp₁⟩ := scanIncludes_ok hf h1
      obtain ⟨halike, hcopies, hfails⟩ := ih hs₁ hr
      rw [hp₁, ← List.append_assoc] at hfails
      refine ⟨halike, hcopies, hfails.behind fun p hp => hs₁.fine p ?_⟩
      rw [hp₁]
      exact List.mem_append_right _ hp

/-! ## Level after level -/

/-- New units are added at the end. -/
theorem insertAll_entries {r : Resolution} {es : List (String × SourceUnit)}
    (hn : (es.map Prod.fst).Nodup) (hd : ∀ p ∈ es.map Prod.fst, p ∉ r.paths) :
    (r.insertAll es).entries = r.entries ++ es := by
  induction es generalizing r with
  | nil => simp [Resolution.insertAll]
  | cons e es ih =>
    obtain ⟨p, u⟩ := e
    rw [List.map_cons, List.nodup_cons] at hn
    have hp : p ∉ r.paths := hd p (by simp)
    have hentries : (r.insert p u).entries = r.entries ++ [(p, u)] := by
      unfold Resolution.insert
      rw [dif_neg hp]
    rw [Resolution.insertAll, ih hn.2, hentries, List.append_assoc, List.singleton_append]
    intro q hq
    unfold Resolution.paths
    rw [hentries, List.map_append, List.mem_append, not_or]
    refine ⟨hd q (by simp [hq]), ?_⟩
    rw [List.map_singleton, List.mem_singleton]
    rintro rfl
    exact hn.1 hq

/-- What a level finds is new, so it is added at the end. -/
theorem insertAll_fresh {r : Resolution} {es : List (String × SourceUnit)} {targets : List String}
    (hnew : es.map Prod.fst = fresh r.paths targets) :
    (r.insertAll es).entries = r.entries ++ es := by
  refine insertAll_entries ?_ ?_
  · rw [hnew]
    exact fresh_nodup _ _
  · intro p hp
    rw [hnew] at hp
    exact (mem_fresh.mp hp).2

variable {passes fuel : Nat} {u : SourceUnit} {us : List SourceUnit}

theorem closeLevels_nil : closeLevels settings known passes [] fuel h = ((known, .ok passes), h) := by
  cases fuel <;> rfl

theorem closeLevels_of_error {e : Failure}
    (hr : scanLevel settings known [] (u :: us) h = (.error e, h')) :
    closeLevels settings known passes (u :: us) (fuel + 1) h = ((known, .error e), h') := by
  unfold closeLevels
  rw [if_neg (by simp)]
  exact Host.bind_of_eq hr _

theorem closeLevels_of_ok {found : List (String × SourceUnit)}
    (hr : scanLevel settings known [] (u :: us) h = (.ok found, h')) :
    closeLevels settings known passes (u :: us) (fuel + 1) h
      = closeLevels settings (known.insertAll found) (passes + 1) (found.map Prod.snd) fuel h' := by
  rw [closeLevels, if_neg (by simp)]
  exact Host.bind_of_eq hr _

/-- What is found when all levels up to one are scanned. -/
structure Complete (settings : Settings) (h₀ : Host) (start : String) (n : Nat) (r : Resolution)
    (h : Host) : Prop where
  scans : ∃ h₁, Scans settings h₀ r.entries h₁ ∧ h.copies = h₁.copies
  alike : h₀.Alike h
  paths : r.paths = order (includesOf settings h₀) start n

/-- How going on from a complete level ends: behind the last level, or with a level that fails. -/
def Settles (settings : Settings) (h₀ : Host) (start : String) (m : Nat) (r : Resolution)
    (h' : Host) : Except Failure Nat → Prop
  | .ok _ => level (includesOf settings h₀) start (m + 1) = []
      ∧ h'.scanned = h₀.scanned ++ r.paths
  | .error e => FailsIn settings h₀ (level (includesOf settings h₀) start (m + 1)) e

/-- Levels are complete up to the last one or to one that fails, and then a larger bound makes no
difference; or they are complete up to the bound, and there is more to come. -/
theorem closeLevels_spec {start : String} {n : Nat} {frontier : List (String × SourceUnit)}
    (hk : Scans settings h₀ known.entries h)
    (hpaths : known.paths = order (includesOf settings h₀) start n)
    (hsub : frontier ⊆ known.entries)
    (hlevel : frontier.map Prod.fst = level (includesOf settings h₀) start n)
    {r : Resolution} {res : Except Failure Nat}
    (hr : closeLevels settings known passes (frontier.map Prod.snd) fuel h = ((r, res), h')) :
    ∃ m, Complete settings h₀ start m r h'
      ∧ ((Settles settings h₀ start m r h' res ∧ ∀ k, closeLevels settings known passes
            (frontier.map Prod.snd) (fuel + k) h = ((r, res), h'))
        ∨ m = n + fuel ∧ level (includesOf settings h₀) start m ≠ []) := by
  induction fuel generalizing known passes n frontier h with
  | zero =>
    cases frontier with
    | nil =>
      cases hr
      refine ⟨n, ⟨⟨_, hk, rfl⟩, hk.alike, hpaths⟩, .inl ⟨⟨?_, hk.scanned⟩, ?_⟩⟩
      · exact level_succ_eq_nil hlevel.symm
      · exact fun k => closeLevels_nil
    | cons e es =>
      cases hr
      refine ⟨n, ⟨⟨_, hk, rfl⟩, hk.alike, hpaths⟩, .inr ⟨rfl, ?_⟩⟩
      rw [← hlevel]
      simp
  | succ fuel ih =>
    cases frontier with
    | nil =>
      rw [List.map_nil, closeLevels_nil] at hr
      cases hr
      refine ⟨n, ⟨⟨_, hk, rfl⟩, hk.alike, hpaths⟩, .inl ⟨⟨?_, hk.scanned⟩, ?_⟩⟩
      · exact level_succ_eq_nil hlevel.symm
      · exact fun k => closeLevels_nil
    | cons e es =>
      have habs : h.absolute = h₀.absolute := funext hk.alike.absolute
      have htargets : fresh (known.paths ++ ([] : List (String × SourceUnit)).map Prod.fst)
          (((e :: es).map Prod.snd).flatMap fun u => u.includes.map h.absolute)
          = level (includesOf settings h₀) start (n + 1) := by
        rw [habs, ← includesOf_units fun e he => hk.inspected e (hsub he), hlevel, hpaths,
          List.map_nil, List.append_nil, level_succ]
      rw [List.map_cons] at hr htargets ⊢
      rcases hl : scanLevel settings known [] (e.2 :: es.map Prod.snd) h with ⟨f | found, h₁⟩
      · obtain ⟨halike, hcopies, hfails⟩ := scanLevel_error .nil hl
        rw [closeLevels_of_error hl] at hr
        cases hr
        rw [htargets] at hfails
        refine ⟨n, ⟨⟨_, hk, hcopies⟩, hk.alike.trans halike, hpaths⟩, .inl ⟨?_, ?_⟩⟩
        · exact hfails.of_alike hk.alike
        · intro k
          rw [Nat.add_right_comm]
          exact closeLevels_of_error hl
      · obtain ⟨hs, hnew⟩ := scanLevel_ok .nil hl
        rw [htargets, List.map_nil, List.nil_append] at hnew
        rw [closeLevels_of_ok hl] at hr
        have hentries : (known.insertAll found).entries = known.entries ++ found :=
          insertAll_fresh (by rw [hnew, level_succ, hpaths])
        have hk' : Scans settings h₀ (known.insertAll found).entries h₁ := by
          rw [hentries]
          exact hk.trans hs
        have hpaths' : (known.insertAll found).paths
            = order (includesOf settings h₀) start (n + 1) := by
          rw [order_succ, ← hpaths, ← hnew]
          unfold Resolution.paths
          rw [hentries, List.map_append]
        have hsub' : found ⊆ (known.insertAll found).entries := by
          rw [hentries]
          exact List.subset_append_right _ _
        obtain ⟨m, hm, hend⟩ := ih hk' hpaths' hsub' hnew hr
        refine ⟨m, hm, ?_⟩
        rcases hend with ⟨hsettles, hmore⟩ | ⟨hm, hne⟩
        · refine .inl ⟨hsettles, fun k => ?_⟩
          rw [Nat.add_right_comm, closeLevels_of_ok hl]
          exact hmore k
        · exact .inr ⟨by omega, hne⟩

/-! ## Whole resolutions -/

variable {path : String} {bound : Nat}

theorem enter_of_ok {start : String} (hu : scan settings start h = (.ok u, h')) :
    enter settings .empty start h = (.ok (Resolution.empty.insert start u, u), h') := by
  show (scan settings start >>= fun u => pure (Resolution.empty.insert start u, u)) h = _
  rw [Act.bind_of_ok hu]
  rfl

theorem enter_of_error {start : String} {e : Failure}
    (hu : scan settings start h = (.error e, h')) :
    enter settings .empty start h = (.error e, h') := by
  show (scan settings start >>= fun u => pure (Resolution.empty.insert start u, u)) h = _
  exact Act.bind_of_error hu _

theorem resolveWithin_of_error {e : Failure}
    (henter : enter settings known (h.absolute path) h = (.error e, h')) :
    resolveWithin bound settings known path h = ((known, .error e), h') := by
  have henter : (enter settings known (h.absolute path)).run h = _ := henter
  unfold resolveWithin
  rw [Host.bind_of_eq (rfl : (get : StateM Host Host) h = (h, h)), Host.bind_of_eq henter]
  rfl

/-- What is given back behind the last level. -/
def reported (r : Resolution) :
    Except Failure Nat → Host → (Resolution × Except Failure Unit) × Host
  | .error e, h => ((r, .error e), h)
  | .ok passes, h =>
    ((r, .ok ()), { h with notices := .resolved r.size passes :: h.notices })

theorem resolveWithin_of_ok {h₁ : Host} {entered r : Resolution} {res : Except Failure Nat}
    (henter : enter settings known (h.absolute path) h = (.ok (entered, u), h₁))
    (hr : closeLevels settings entered 0 [u] bound h₁ = ((r, res), h')) :
    resolveWithin bound settings known path h = reported r res h' := by
  have henter : (enter settings known (h.absolute path)).run h = _ := henter
  unfold resolveWithin
  rw [Host.bind_of_eq (rfl : (get : StateM Host Host) h = (h, h)), Host.bind_of_eq henter]
  simp only
  rw [Host.bind_of_eq hr]
  cases res <;> rfl

theorem resolve_apply : resolve settings known path h
    = resolveWithin (levelBound h) settings known path h := rfl

/-- How a resolution ends: with everything that can be reached, or with the first path that fails.
-/
def Resolves (settings : Settings) (h : Host) (start : String) (r : Resolution) (h' : Host) :
    Except Failure Unit → Prop
  | .ok () => ∃ m, r.paths = order (includesOf settings h) start m
      ∧ level (includesOf settings h) start (m + 1) = [] ∧ h'.scanned = h.scanned ++ r.paths
  | .error e => ∃ m, FailsIn settings h (order (includesOf settings h) start m) e

/-- A resolution is a row of scans. It ends in one of the two ways whatever the bound is, unless
there are more levels than the bound allows. -/
theorem resolveWithin_spec {r : Resolution} {res : Except Failure Unit}
    (hr : resolveWithin bound settings .empty path h = ((r, res), h')) :
    (∃ h₁, Scans settings h r.entries h₁ ∧ h'.copies = h₁.copies) ∧ h.Alike h'
      ∧ ((Resolves settings h (h.absolute path) r h' res
          ∧ ∀ k, resolveWithin (bound + k) settings .empty path h = ((r, res), h'))
        ∨ level (includesOf settings h) (h.absolute path) bound ≠ []
          ∧ ∀ p ∈ order (includesOf settings h) (h.absolute path) bound,
            ∃ f, inspect settings p h = .ok f) := by
  rcases hu : scan settings (h.absolute path) h with ⟨e | u, h₁⟩
  · have henter := enter_of_error hu
    rw [resolveWithin_of_error henter] at hr
    cases hr
    obtain ⟨hi, halike, hcopies⟩ := scan_error hu
    refine ⟨⟨h, .nil, hcopies⟩, halike, .inl ⟨⟨0, [], _, [], rfl, by simp, hi⟩, fun k => ?_⟩⟩
    exact resolveWithin_of_error henter
  · have henter := enter_of_ok hu
    have hk : Scans settings h (Resolution.empty.insert (h.absolute path) u).entries h₁ :=
      Scans.nil.scan hu
    rcases hc : closeLevels settings (Resolution.empty.insert (h.absolute path) u) 0 [u] bound h₁
      with ⟨⟨r', res'⟩, h₂⟩
    have hfirst : (Resolution.empty.insert (h.absolute path) u).paths
        = order (includesOf settings h) (h.absolute path) 0 := rfl
    have hsub : [(h.absolute path, u)] ⊆ (Resolution.empty.insert (h.absolute path) u).entries :=
      List.Subset.refl _
    obtain ⟨m, ⟨⟨h₃, hscans, hcopies⟩, halike, hpaths⟩, hend⟩ :=
      closeLevels_spec hk hfirst hsub rfl hc
    rw [resolveWithin_of_ok henter hc] at hr
    have hfine : ∀ p ∈ order (includesOf settings h) (h.absolute path) m,
        ∃ f, inspect settings p h = .ok f := by
      rw [← hpaths]
      exact hscans.fine
    cases res' with
    | error e =>
      cases hr
      refine ⟨⟨h₃, hscans, hcopies⟩, halike, ?_⟩
      rcases hend with ⟨hfails, hmore⟩ | ⟨hm, hne⟩
      · refine .inl ⟨⟨m + 1, hfails.behind hfine⟩, fun k => ?_⟩
        exact resolveWithin_of_ok henter (hmore k)
      · obtain rfl : m = bound := by omega
        exact .inr ⟨hne, hfine⟩
    | ok passes =>
      cases hr
      refine ⟨⟨h₃, hscans, hcopies⟩, ⟨halike.tree, halike.cwd, halike.home, halike.tempDir⟩, ?_⟩
      rcases hend with ⟨⟨hlast, hscanned⟩, hmore⟩ | ⟨hm, hne⟩
      · refine .inl ⟨⟨m, hpaths, hlast, ?_⟩, fun k => ?_⟩
        · rw [← hscanned]
          exact (told_quiet (.resolved _ _) rfl h₂).scanned
        · exact resolveWithin_of_ok henter (hmore k)
      · obtain rfl : m = bound := by omega
        exact .inr ⟨hne, hfine⟩

end

end BraceScript.Source
