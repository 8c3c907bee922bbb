import BraceScript.Proofs.Source.Discovery
import Mathlib

/-!
# Calls on one set of units

A set of units can be resolved into several times, and source files may change between the calls.
`History` is such a row of calls. A call adds units at the end of the set, and the copies that it
adds are those that the added units own (`resolve_grows`); what holds after one call is carried
through a row of calls by induction (`History.owned`, `History.gaps`).

A call looks at the includes of its entry and of the units that it adds itself. So a unit whose
includes are missing after a call that ended well was left behind, with its includes missing, by an
earlier call that failed.
-/

namespace BraceScript.Source

open BreadthFirst Files

/-- Everything that a unit includes is in the set. -/
def Resolution.Closes (h : Host) (r : Resolution) (u : SourceUnit) : Prop :=
  ∀ target ∈ u.includes, h.absolute target ∈ r.paths

theorem Resolution.Closes.mono {h : Host} {r r' : Resolution} {u : SourceUnit}
    (hu : r.Closes h u) (hr : r.entries <+: r'.entries) : r'.Closes h u :=
  fun target ht => (hr.map Prod.fst).subset (hu target ht)

theorem Resolution.Closes.of_cwd {h h' : Host} {r : Resolution} {u : SourceUnit}
    (hu : r.Closes h' u) (hcwd : h'.cwd = h.cwd) : r.Closes h u := by
  intro target ht
  have hmem := hu target ht
  unfold Host.absolute at hmem ⊢
  rwa [hcwd] at hmem

theorem Resolution.notMem_of_get? {r : Resolution} {path : String} (h : r.get? path = none) :
    path ∉ r.paths := by
  intro hmem
  obtain ⟨e, he, rfl⟩ := List.mem_map.mp hmem
  have hne := List.lookup_eq_none_iff.mp h e he
  simp at hne

/-- Nothing is missing of what the units of a level include, when all of it that is new has been
added. -/
theorem Resolution.closes_of_fresh {h : Host} {known r : Resolution} {us : List SourceUnit}
    {found : List (String × SourceUnit)} (hentries : r.entries = known.entries ++ found)
    (hnew : found.map Prod.fst
      = fresh known.paths (us.flatMap fun u => u.includes.map h.absolute)) :
    ∀ u ∈ us, r.Closes h u := by
  intro u hu target ht
  unfold Resolution.paths
  rw [hentries, List.map_append, List.mem_append]
  by_cases hknown : h.absolute target ∈ known.paths
  · exact .inl hknown
  · refine .inr ?_
    rw [hnew, mem_fresh]
    exact ⟨List.mem_flatMap.mpr ⟨u, hu, List.mem_map_of_mem ht⟩, hknown⟩

/-- A path leads to one unit. -/
theorem Resolution.unit_eq {r : Resolution} {path : String} {u v : SourceUnit}
    (hu : (path, u) ∈ r.entries) (hv : (path, v) ∈ r.entries) : u = v :=
  congrArg Prod.snd (List.inj_on_of_nodup_map r.nodup hu hv rfl)

/-! ## One call -/

/-- Every unit has a copy of its own. -/
theorem Scans.copies_nodup {settings : Settings} {h h' : Host}
    {found : List (String × SourceUnit)} (hs : Scans settings h found h') :
    (ownedCopies (found.map Prod.snd)).Nodup := by
  induction hs with
  | nil => exact List.nodup_nil
  | quiet _ _ ih => exact ih
  | @scan found h₁ h₂ path u hs hu ih =>
    obtain ⟨f, hu⟩ := scan_ok hu
    rw [List.map_append, ownedCopies_append, List.nodup_append]
    have hone : ownedCopies (([(path, u)] : List (String × SourceUnit)).map Prod.snd)
        = if u.isCopied then [u.compilePath] else [] := by
      by_cases hc : u.isCopied <;> simp [ownedCopies, hc]
    rw [hone]
    refine ⟨ih, by split_ifs <;> simp, ?_⟩
    intro p hp q hq
    split_ifs at hq with hc
    · rw [List.mem_singleton] at hq
      subst hq
      -- a unit that owns a copy has a metadata block, and its copy is none of those before
      have hb : f.leading.hasBlock = true := by
        by_contra hb
        obtain ⟨hpath, -⟩ := hu.plain (by simpa using hb)
        simp [SourceUnit.isCopied, hpath, hu.sourcePath] at hc
      obtain ⟨-, -, hfresh, -⟩ := hu.copied hb
      obtain ⟨added, hadded, hown, -⟩ := hs.copies
      rw [hadded, List.map_append, hown] at hfresh
      rintro rfl
      exact hfresh (List.mem_append_right _ hp)
    · simp at hq

/-- What a call adds to a set: units at its end, each scanned under its absolute path, and the
copies that these units own. -/
structure Grows (settings : Settings) (h : Host) (known r : Resolution) (h' : Host)
    (more : List (String × SourceUnit)) : Prop where
  entries : r.entries = known.entries ++ more
  scans : ∃ h₁, Scans settings h more h₁ ∧ h'.copies = h₁.copies
  alike : h.Alike h'
  absolute : ∀ p ∈ more.map Prod.fst, ∃ q, p = h.absolute q

section

variable {settings : Settings} {h h' : Host} {known r : Resolution}

/-- The set as it was, when the copies are those from before. -/
theorem Grows.none (ha : h.Alike h') (hc : h'.copies = h.copies) :
    Grows settings h known known h' [] :=
  ⟨(List.append_nil _).symm, ⟨h, .nil, hc⟩, ha, by simp⟩

/-- Units that are found before the others. -/
theorem Grows.behind {h₁ : Host} {entered : Resolution} {found more : List (String × SourceUnit)}
    (hg : Grows settings h₁ entered r h' more) (hs : Scans settings h found h₁)
    (hentries : entered.entries = known.entries ++ found)
    (habs : ∀ p ∈ found.map Prod.fst, ∃ q, p = h.absolute q) :
    Grows settings h known r h' (found ++ more) := by
  obtain ⟨hmore, ⟨h₂, hs₂, hc⟩, ha, habs₂⟩ := hg
  refine ⟨?_, ⟨h₂, hs.trans hs₂, hc⟩, hs.alike.trans ha, ?_⟩
  · rw [hmore, hentries, List.append_assoc]
  · intro p hp
    rw [List.map_append, List.mem_append] at hp
    rcases hp with hp | hp
    · exact habs p hp
    · obtain ⟨q, rfl⟩ := habs₂ p hp
      exact ⟨q, hs.alike.absolute q⟩

theorem Grows.front {more : List (String × SourceUnit)}
    (hg : Grows settings h known r h' more) : known.entries <+: r.entries :=
  ⟨more, hg.entries.symm⟩

/-- A call adds no more units than there are paths to files. -/
theorem Grows.length_le {more : List (String × SourceUnit)}
    (hg : Grows settings h known r h' more) (hcwd : isAbsolute h.cwd = true) :
    more.length ≤ 2 * h.tree.nodes.length := by
  obtain ⟨h₁, hs, -⟩ := hg.scans
  have hn : (more.map Prod.fst).Nodup := by
    have hall := r.nodup
    rw [hg.entries, List.map_append, List.nodup_append] at hall
    exact hall.2.1
  have hfew := length_le_of_inspected hcwd hn hg.absolute hs.fine
  rwa [List.length_map] at hfew

/-- What levels add. Unless there are more levels than the bound allows, an end without failure
means that nothing is missing of what the units of the first level and the added ones include. -/
theorem closeLevels_grows {passes fuel : Nat} {us : List SourceUnit} {res : Except Failure Nat}
    (hr : closeLevels settings known passes us fuel h = ((r, res), h')) :
    ∃ more, Grows settings h known r h' more
      ∧ ∀ n, res = .ok n → fuel ≤ more.length ∨ ∀ u ∈ us ++ more.map Prod.snd, r.Closes h u := by
  induction fuel generalizing known passes us h with
  | zero =>
    cases hr
    exact ⟨[], .none (.refl _) rfl, fun _ _ => .inl (Nat.zero_le _)⟩
  | succ fuel ih =>
    cases us with
    | nil =>
      rw [closeLevels_nil] at hr
      cases hr
      exact ⟨[], .none (.refl _) rfl, fun _ _ => .inr (by simp)⟩
    | cons u us =>
      rcases hl : scanLevel settings known [] (u :: us) h with ⟨e | found, h₁⟩
      · obtain ⟨halike, hcopies, -⟩ := scanLevel_error .nil hl
        rw [closeLevels_of_error hl] at hr
        cases hr
        exact ⟨[], .none halike hcopies, fun n hn => nomatch hn⟩
      · obtain ⟨hs, hnew⟩ := scanLevel_ok .nil hl
        rw [List.map_nil, List.nil_append, List.append_nil] at hnew
        rw [closeLevels_of_ok hl] at hr
        have hentries : (known.insertAll found).entries = known.entries ++ found :=
          insertAll_fresh hnew
        have habs : ∀ p ∈ found.map Prod.fst, ∃ q, p = h.absolute q := by
          intro p hp
          rw [hnew] at hp
          obtain ⟨v, -, hv⟩ := List.mem_flatMap.mp (mem_fresh.mp hp).1
          obtain ⟨q, -, rfl⟩ := List.mem_map.mp hv
          exact ⟨q, rfl⟩
        -- what the level includes was known before or is found now
        have hlevel : ∀ v ∈ u :: us, (known.insertAll found).Closes h v :=
          Resolution.closes_of_fresh hentries hnew
        cases found with
        | nil =>
          rw [List.map_nil, closeLevels_nil] at hr
          cases hr
          have hgrows : Grows settings h known (known.insertAll []) h' [] :=
            .behind (.none (.refl h') rfl) hs hentries habs
          refine ⟨[], hgrows, fun _ _ => .inr ?_⟩
          simpa using hlevel
        | cons e es =>
          -- this level found a unit, so the bound left and the units found add up
          obtain ⟨more, hg, hend⟩ := ih hr
          refine ⟨e :: es ++ more, hg.behind hs hentries habs, fun n hn => ?_⟩
          rcases hend n hn with hfuel | hclosed
          · refine .inl ?_
            simp only [List.cons_append, List.length_cons, List.length_append]
            omega
          · refine .inr fun v hv => ?_
            rw [List.map_append, List.mem_append, List.mem_append] at hv
            rcases hv with hv | hv
            · exact (hlevel v hv).mono hg.front
            · exact (hclosed v (List.mem_append.mpr hv)).of_cwd hs.alike.cwd

/-- The unit to begin with is in the set, and is scanned if it was not there before. -/
theorem enter_grows {path : String} {entered : Resolution} {u : SourceUnit}
    (he : enter settings known path h = (.ok (entered, u), h')) :
    ∃ found, Scans settings h found h' ∧ entered.entries = known.entries ++ found
      ∧ (path, u) ∈ entered.entries ∧ ∀ p ∈ found.map Prod.fst, p = path := by
  unfold enter at he
  cases hget : known.get? path with
  | some v =>
    rw [hget] at he
    cases he
    obtain ⟨l, l', hsplit, -⟩ := List.lookup_eq_some_iff.mp hget
    refine ⟨[], .nil, (List.append_nil _).symm, ?_, by simp⟩
    rw [hsplit]
    simp
  | none =>
    rw [hget] at he
    obtain ⟨v, h₁, hv, he⟩ := Act.bind_eq_ok.mp he
    cases he
    have hnew := Resolution.notMem_of_get? hget
    have hentries : (known.insert path u).entries = known.entries ++ [(path, u)] := by
      unfold Resolution.insert
      rw [dif_neg hnew]
    refine ⟨[(path, u)], Scans.nil.scan hv, hentries, ?_, by simp⟩
    rw [hentries]
    simp

/-- There is no unit to begin with when the entry cannot be scanned. -/
theorem enter_error {path : String} {e : Failure}
    (he : enter settings known path h = (.error e, h')) :
    scan settings path h = (.error e, h') := by
  unfold enter at he
  cases hget : known.get? path with
  | some v =>
    rw [hget] at he
    cases he
  | none =>
    rw [hget] at he
    rcases Act.bind_eq_error.mp he with hs | ⟨v, h₁, -, hv⟩
    · exact hs
    · cases hv

/-- A call adds units at the end of the set. When it ends well, nothing is missing of what its
entry and the added units include. -/
theorem resolve_grows {entry : String} {res : Except Failure Unit}
    (hcwd : isAbsolute h.cwd = true)
    (hr : resolve settings known entry h = ((r, res), h')) :
    ∃ more, Grows settings h known r h' more
      ∧ (res = .ok () → (∀ u ∈ more.map Prod.snd, r.Closes h u)
        ∧ ∀ u, (h.absolute entry, u) ∈ r.entries → r.Closes h u) := by
  rw [resolve_apply] at hr
  rcases he : enter settings known (h.absolute entry) h with ⟨e | ⟨entered, u⟩, h₁⟩
  · rw [resolveWithin_of_error he] at hr
    cases hr
    obtain ⟨-, halike, hcopies⟩ := scan_error (enter_error he)
    exact ⟨[], .none halike hcopies, fun hok => nomatch hok⟩
  · obtain ⟨found, hs, hentries, hmem, hpath⟩ := enter_grows he
    rcases hc : closeLevels settings entered 0 [u] (levelBound h) h₁ with ⟨⟨r', res'⟩, h₂⟩
    rw [resolveWithin_of_ok he hc] at hr
    obtain ⟨more, hg, hend⟩ := closeLevels_grows hc
    have habs : ∀ p ∈ found.map Prod.fst, ∃ q, p = h.absolute q :=
      fun p hp => ⟨entry, hpath p hp⟩
    have hg' := hg.behind hs hentries habs
    cases res' with
    | error e =>
      cases hr
      exact ⟨found ++ more, hg', fun hok => nomatch hok⟩
    | ok passes =>
      cases hr
      obtain ⟨hall, hscans, halike, habs'⟩ := hg'
      have hg'' : Grows settings h known r
          { h₂ with notices := .resolved r.size passes :: h₂.notices } (found ++ more) :=
        ⟨hall, hscans, ⟨halike.tree, halike.cwd, halike.home, halike.tempDir⟩, habs'⟩
      refine ⟨found ++ more, hg'', fun _ => ?_⟩
      -- the bound is never met, since every level needs a file of its own
      have hfew := hg''.length_le hcwd
      rw [List.length_append] at hfew
      have hclosed : ∀ v ∈ [u] ++ more.map Prod.snd, r.Closes h v := by
        rcases hend passes rfl with hfuel | hclosed
        · unfold levelBound at hfuel
          omega
        · exact fun v hv => (hclosed v hv).of_cwd hs.alike.cwd
      have hentry (v : SourceUnit) (hv : (h.absolute entry, v) ∈ r.entries) : v = u :=
        Resolution.unit_eq hv (hg.front.subset hmem)
      refine ⟨?_, ?_⟩
      · intro v hv
        rw [List.map_append, List.mem_append] at hv
        rcases hv with hv | hv
        · obtain ⟨e, he, rfl⟩ := List.mem_map.mp hv
          have hmem' : e ∈ r.entries := by
            rw [hall]
            simp [he]
          have hfst := hpath e.1 (List.mem_map_of_mem he)
          rw [hentry e.2 (by rw [← hfst]; exact hmem')]
          exact hclosed u (by simp)
        · exact hclosed v (List.mem_append_right _ hv)
      · intro v hv
        rw [hentry v hv]
        exact hclosed u (by simp)

/-- A first call that fails leaves the levels that were complete before the one that failed, and
nothing when its entry cannot be scanned. -/
theorem resolve_error_levels {entry : String} {e : Failure} (hcwd : isAbsolute h.cwd = true)
    (hr : resolve settings .empty entry h = ((r, .error e), h')) :
    (r.paths = [] ∧ (scan settings (h.absolute entry) h).1 = .error e)
      ∨ ∃ n, r.paths = order (includesOf settings h) (h.absolute entry) n
        ∧ (∀ p ∈ r.paths, ∃ u, (scan settings p h).1 = .ok u)
        ∧ ∃ before p after,
          level (includesOf settings h) (h.absolute entry) (n + 1) = before ++ p :: after
          ∧ (∀ q ∈ before, ∃ u, (scan settings q h).1 = .ok u)
          ∧ (scan settings p h).1 = .error e := by
  rw [resolve_apply] at hr
  rcases hu : scan settings (h.absolute entry) h with ⟨f | u, h₁⟩
  · rw [resolveWithin_of_error (enter_of_error hu)] at hr
    cases hr
    exact .inl ⟨rfl, rfl⟩
  · rcases hc : closeLevels settings (Resolution.empty.insert (h.absolute entry) u) 0 [u]
      (levelBound h) h₁ with ⟨⟨r', res'⟩, h₂⟩
    rw [resolveWithin_of_ok (enter_of_ok hu) hc] at hr
    have hk : Scans settings h (Resolution.empty.insert (h.absolute entry) u).entries h₁ :=
      Scans.nil.scan hu
    have hfirst : (Resolution.empty.insert (h.absolute entry) u).paths
        = order (includesOf settings h) (h.absolute entry) 0 := rfl
    have hsub : [(h.absolute entry, u)]
        ⊆ (Resolution.empty.insert (h.absolute entry) u).entries := List.Subset.refl _
    obtain ⟨m, ⟨⟨h₃, hscans, -⟩, -, hpaths⟩, hend⟩ := closeLevels_spec hk hfirst hsub rfl hc
    cases res' with
    | ok passes => cases hr
    | error f =>
      cases hr
      have hfine : ∀ p ∈ r.paths, ∃ u, (scan settings p h).1 = .ok u :=
        fun p hp => inspect_isOk_iff.mp (hscans.fine p hp)
      rcases hend with ⟨⟨before, p, after, hsplit, hbefore, hp⟩, -⟩ | ⟨hm, hne⟩
      · exact .inr ⟨m, hpaths, hfine, before, p, after, hsplit,
          fun q hq => inspect_isOk_iff.mp (hbefore q hq), inspect_eq_error_iff.mp hp⟩
      · obtain rfl : m = levelBound h := by omega
        refine absurd (level_levelBound hcwd fun p hp => ?_) hne
        rw [← hpaths] at hp
        exact hscans.fine p hp

end

/-! ## Rows of calls -/

/-- A call: the host in which it began, the set before and after it, and how it ended. -/
structure Call where
  host : Host
  entry : String
  before : Resolution
  result : Except Failure Unit
  after : Resolution

/-- Source files are written or deleted; copies stay, and nothing is put in the place of one. -/
structure Edited (h h' : Host) : Prop where
  cwd : h'.cwd = h.cwd
  copies : h'.copies = h.copies
  vacant : ∀ p ∈ h.copies.map Prod.fst, h.Vacant p → h'.Vacant p

/-- `History settings start calls r h`: from `start` on, where no unit is known, the calls were made
one after the other, and led to the set `r`. -/
inductive History (settings : Settings) (start : Host) : List Call → Resolution → Host → Prop
  | start : History settings start [] .empty start
  | edit {calls : List Call} {r : Resolution} {h h' : Host} :
    History settings start calls r h → Edited h h' → History settings start calls r h'
  | call {calls : List Call} {r r' : Resolution} {h h' : Host} {entry : String}
    {res : Except Failure Unit} :
    History settings start calls r h → resolve settings r entry h = ((r', res), h') →
    History settings start (calls ++ [⟨h, entry, r, res, r'⟩]) r' h'

/-- The copies behind a row of calls: those from before it, and those of the units in the set. -/
structure Owned (start : Host) (r : Resolution) (h : Host) : Prop where
  cwd : h.cwd = start.cwd
  copies : ∃ added, h.copies = start.copies ++ added
    ∧ added.map Prod.fst = ownedCopies r.units ∧ (added.map Prod.fst).Nodup
    ∧ ∀ p ∈ added.map Prod.fst, p ∉ start.copies.map Prod.fst ∧ h.Vacant p

section

variable {settings : Settings} {start h h' : Host} {r r' : Resolution} {calls : List Call}

theorem Owned.edit (ho : Owned start r h) (he : Edited h h') : Owned start r h' := by
  obtain ⟨hcwd, added, hadded, hown, hnodup, hnew⟩ := ho
  refine ⟨he.cwd.trans hcwd, added, he.copies.trans hadded, hown, hnodup, fun p hp => ?_⟩
  refine ⟨(hnew p hp).1, he.vacant p ?_ (hnew p hp).2⟩
  rw [hadded, List.map_append]
  exact List.mem_append_right _ hp

theorem Owned.call {more : List (String × SourceUnit)} (ho : Owned start r h)
    (hg : Grows settings h r r' h' more) : Owned start r' h' := by
  obtain ⟨hcwd, added, hadded, hown, hnodup, hnew⟩ := ho
  obtain ⟨h₁, hs, hcopies⟩ := hg.scans
  obtain ⟨added', hadded', hown', hnew'⟩ := hs.copies
  have hnodup' := hs.copies_nodup
  rw [← hown'] at hnodup'
  refine ⟨hg.alike.cwd.trans hcwd, added ++ added', ?_, ?_, ?_, ?_⟩
  · rw [hcopies, hadded', hadded, List.append_assoc]
  · unfold Resolution.units at hown ⊢
    rw [hg.entries, List.map_append, List.map_append, ownedCopies_append, hown, hown']
  · rw [List.map_append, List.nodup_append]
    -- a copy is made where none of those before stands
    refine ⟨hnodup, hnodup', ?_⟩
    rintro p hp _ hq rfl
    apply (hnew' p hq).1
    rw [hadded, List.map_append]
    exact List.mem_append_right _ hp
  · intro p hp
    rw [List.map_append, List.mem_append] at hp
    rcases hp with hp | hp
    · exact ⟨(hnew p hp).1, (hnew p hp).2.of_alike hg.alike.symm⟩
    · refine ⟨fun hmem => (hnew' p hp).1 ?_, (hnew' p hp).2.of_alike hg.alike.symm⟩
      rw [hadded, List.map_append]
      exact List.mem_append_left _ hmem

theorem History.owned (hh : History settings start calls r h)
    (hcwd : isAbsolute start.cwd = true) : Owned start r h := by
  induction hh with
  | start => exact ⟨rfl, [], (List.append_nil _).symm, rfl, List.nodup_nil, by simp⟩
  | edit _ he ih => exact ih.edit he
  | call _ hr ih =>
    obtain ⟨more, hg, -⟩ := resolve_grows (ih.cwd ▸ hcwd) hr
    exact ih.call hg

/-- Once the units of a set are released, once or several times, the copies are those from before
the calls, and no other file is removed. -/
theorem Owned.release (ho : Owned start r h) (n : Nat) :
    ((fun k => (releaseAll r.units k).2)^[n + 1] h).copies = start.copies
      ∧ h.Alike ((fun k => (releaseAll r.units k).2)^[n + 1] h) := by
  obtain ⟨-, added, hadded, hown, -, hnew⟩ := ho
  have hvacant : ∀ p ∈ ownedCopies r.units, h.Vacant p :=
    fun p hp => (hnew p (hown ▸ hp)).2
  have hkeep : start.copies.filter (fun c => c.1 ∉ ownedCopies r.units) = start.copies := by
    rw [List.filter_eq_self]
    intro c hc
    rw [decide_eq_true_eq, ← hown]
    exact fun hmem => (hnew c.1 hmem).1 (List.mem_map_of_mem hc)
  -- the first time removes the added copies, and after that there is nothing to remove
  induction n with
  | zero =>
    refine ⟨?_, releaseAll_alike _ hvacant⟩
    have hdrop : added.filter (fun c => c.1 ∉ ownedCopies r.units) = [] := by
      rw [List.filter_eq_nil_iff]
      intro c hc
      rw [decide_eq_true_eq, not_not, ← hown]
      exact List.mem_map_of_mem hc
    show (releaseAll r.units h).2.copies = _
    rw [releaseAll_copies, hadded, List.filter_append, hkeep, hdrop, List.append_nil]
  | succ n ih =>
    rw [Function.iterate_succ_apply']
    obtain ⟨hcopies, halike⟩ := ih
    refine ⟨?_, halike.trans (releaseAll_alike _ fun p hp => ?_)⟩
    · rw [releaseAll_copies, hcopies, hkeep]
    · exact (hvacant p hp).of_alike halike.symm

theorem History.eq_empty (hh : History settings start calls r h) (hn : calls = []) :
    r = .empty := by
  induction hh with
  | start => rfl
  | edit _ _ ih => exact ih hn
  | call => simp at hn

/-- The first call begins without any unit. -/
theorem History.first_before (hh : History settings start calls r h) {c : Call}
    {rest : List Call} (hc : calls = c :: rest) : c.before = .empty := by
  induction hh generalizing rest with
  | start => cases hc
  | edit _ _ ih => exact ih hc
  | @call calls r r' h h' entry res hh hr ih =>
    cases calls with
    | nil =>
      obtain ⟨rfl, -⟩ := List.cons.inj hc
      exact hh.eq_empty rfl
    | cons d ds =>
      obtain ⟨rfl, -⟩ := List.cons.inj hc
      exact ih rfl

/-- Every call of a row was made in the working directory of the first one, and what it left is at
the front of the set. -/
theorem History.made (hh : History settings start calls r h) (hcwd : isAbsolute start.cwd = true)
    {c : Call} (hc : c ∈ calls) : c.host.cwd = start.cwd ∧ c.after.entries <+: r.entries
      ∧ ∃ k, resolve settings c.before c.entry c.host = ((c.after, c.result), k) := by
  induction hh with
  | start => cases hc
  | edit _ _ ih => exact ih hc
  | @call calls r r' h h' entry res hh hr ih =>
    have howned := hh.owned hcwd
    obtain ⟨more, hg, -⟩ := resolve_grows (howned.cwd ▸ hcwd) hr
    rcases List.mem_append.mp hc with hc | hc
    · obtain ⟨hsame, hleft, hmade⟩ := ih hc
      exact ⟨hsame, hleft.trans hg.front, hmade⟩
    · obtain rfl := List.mem_singleton.mp hc
      exact ⟨howned.cwd, List.prefix_rfl, h', hr⟩

/-- What the last call left is the set. -/
theorem History.last_after (hh : History settings start calls r h) {c : Call}
    {before : List Call} (hc : calls = before ++ [c]) : c.after = r := by
  induction hh with
  | start => simp at hc
  | edit _ _ ih => exact ih hc
  | call =>
    obtain ⟨-, hlast⟩ := List.append_inj' hc rfl
    obtain rfl := List.singleton_inj.mp hlast
    rfl

/-- A unit whose includes are missing was in the set when a call failed. -/
theorem History.gaps (hh : History settings start calls r h) (hcwd : isAbsolute start.cwd = true) :
    ∀ e ∈ r.entries, r.Closes start e.2
      ∨ ∃ d ∈ calls, (∃ f, d.result = .error f) ∧ e ∈ d.after.entries := by
  induction hh with
  | start => exact fun e he => nomatch he
  | edit _ _ ih => exact ih
  | @call calls r r' h h' entry res hh hr ih =>
    have howned := hh.owned hcwd
    obtain ⟨more, hg, hend⟩ := resolve_grows (howned.cwd ▸ hcwd) hr
    intro e he
    have hsplit := he
    rw [hg.entries, List.mem_append] at hsplit
    rcases hsplit with hknown | hadded
    -- the set only grows, so a unit that was known lacks no more than before
    · rcases ih e hknown with hclosed | ⟨d, hd, hfailed, hmem⟩
      · exact .inl (hclosed.mono hg.front)
      · exact .inr ⟨d, List.mem_append_left _ hd, hfailed, hmem⟩
    · cases res with
      | error f =>
        exact .inr ⟨_, List.mem_append_right _ (List.mem_singleton_self _), ⟨f, rfl⟩, he⟩
      | ok _ =>
        have hclosed := (hend rfl).1 e.2 (List.mem_map_of_mem hadded)
        exact .inl (hclosed.of_cwd howned.cwd)

/-- When a call returns, nothing is missing of what its entry includes, nor of what any other unit
of the set includes, except for units that an earlier call left behind with includes missing when it
failed. -/
theorem closes_of_returned {c : Call} (hcwd : isAbsolute start.cwd = true)
    (hh : History settings start (calls ++ [c]) r h) (hc : c.result = .ok ()) :
    (∀ u, (start.absolute c.entry, u) ∈ r.entries → r.Closes start u)
      ∧ ∀ e ∈ r.entries, r.Closes start e.2
        ∨ ∃ d ∈ calls, (∃ f, d.result = .error f) ∧ e ∈ d.after.entries
          ∧ ¬ d.after.Closes start e.2 := by
  constructor
  · obtain ⟨hsame, -, k, hr⟩ := hh.made hcwd (List.mem_append_right _ (List.mem_singleton_self c))
    obtain ⟨_, _, hend⟩ := resolve_grows (hsame ▸ hcwd) hr
    have habs : c.host.absolute c.entry = start.absolute c.entry := by
      unfold Host.absolute
      rw [hsame]
    intro u hu
    rw [← hh.last_after rfl, ← habs] at hu
    rw [← hh.last_after rfl]
    exact ((hend hc).2 u hu).of_cwd hsame
  · intro e he
    rcases hh.gaps hcwd e he with hclosed | ⟨d, hd, ⟨f, hf⟩, hmem⟩
    · exact .inl hclosed
    · by_cases hclosed : d.after.Closes start e.2
      · exact .inl (hclosed.mono (hh.made hcwd hd).2.1)
      · refine .inr ⟨d, ?_, ⟨f, hf⟩, hmem, hclosed⟩
        rcases List.mem_append.mp hd with hd | hd
        · exact hd
        · obtain rfl := List.mem_singleton.mp hd
          rw [hc] at hf
          cases hf

/-- A file that includes a second one, which includes a third one that does not exist. -/
def gapHost : Host where
  tree := ⟨[(["a.cs"], .file (Text.encodeUtf8 "//#include b.cs\n".toList)),
    (["b.cs"], .file (Text.encodeUtf8 "//#include c.cs\n".toList))]⟩
  cwd := "/"
  home := "/"
  tempDir := "/"
  copies := []
  named := 0
  notices := []
  asked := []

/-- The first call on that host: it fails. -/
def gapFirst : (Resolution × Except Failure Unit) × Host :=
  resolve ⟨none, "utf-8"⟩ .empty "a.cs" gapHost

/-- The host when the third file is written after the first call. -/
def gapFilled : Host :=
  { gapFirst.2 with tree := gapFirst.2.tree.put ["c.cs"] (.file []) }

/-- The same call again: it returns. -/
def gapSecond : (Resolution × Except Failure Unit) × Host :=
  resolve ⟨none, "utf-8"⟩ gapFirst.1.1 "a.cs" gapFilled

theorem closes_of_returned_gap :
    gapSecond.1.2 = .ok () ∧ gapSecond.1.1.paths = ["/a.cs", "/b.cs"]
      ∧ ∀ e ∈ gapSecond.1.1.entries, gapSecond.1.1.Closes gapHost e.2
        ∨ ∃ d ∈ [(⟨gapHost, "a.cs", .empty, gapFirst.1.2, gapFirst.1.1⟩ : Call)],
          (∃ f, d.result = .error f) ∧ e ∈ d.after.entries ∧ ¬ d.after.Closes gapHost e.2 := by
  have hok : gapSecond.1.2 = .ok () := by decide +kernel
  have hnone : gapFirst.2.copies = [] := by decide +kernel
  have hfill : Edited gapFirst.2 gapFilled := by
    refine ⟨rfl, rfl, fun p hp => ?_⟩
    rw [hnone] at hp
    cases hp
  have hh : History ⟨none, "utf-8"⟩ gapHost
      ([⟨gapHost, "a.cs", .empty, gapFirst.1.2, gapFirst.1.1⟩]
        ++ [⟨gapFilled, "a.cs", gapFirst.1.1, gapSecond.1.2, gapSecond.1.1⟩])
      gapSecond.1.1 gapSecond.2 := .call (.edit (.call .start rfl) hfill) rfl
  exact ⟨hok, by decide +kernel,
    (closes_of_returned (by decide : isAbsolute gapHost.cwd = true) hh hok).2⟩

/-- The copies that a row of calls adds are those that the units of the set own, each its own; the
set grows at its end only; a first call that fails leaves the levels that were complete before; and
releasing the set, once or several times, removes exactly the added copies. -/
theorem copies_of_history (hcwd : isAbsolute start.cwd = true)
    (hh : History settings start calls r h) :
    (∃ added, h.copies = start.copies ++ added ∧ added.map Prod.fst = ownedCopies r.units
        ∧ (added.map Prod.fst).Nodup ∧ ∀ p ∈ added.map Prod.fst, p ∉ start.copies.map Prod.fst)
      ∧ (∀ c ∈ calls, c.before.entries <+: c.after.entries ∧ c.after.entries <+: r.entries)
      ∧ (∀ c rest e, calls = c :: rest → c.result = .error e →
        (c.after.paths = [] ∧ (scan settings (c.host.absolute c.entry) c.host).1 = .error e)
          ∨ ∃ n, c.after.paths
              = order (includesOf settings c.host) (c.host.absolute c.entry) n
            ∧ (∀ p ∈ c.after.paths, ∃ u, (scan settings p c.host).1 = .ok u)
            ∧ ∃ before p after, level (includesOf settings c.host) (c.host.absolute c.entry) (n + 1)
                = before ++ p :: after
              ∧ (∀ q ∈ before, ∃ u, (scan settings q c.host).1 = .ok u)
              ∧ (scan settings p c.host).1 = .error e)
      ∧ ∀ n, ((fun k => (releaseAll r.units k).2)^[n + 1] h).copies = start.copies
        ∧ ((fun k => (releaseAll r.units k).2)^[n + 1] h).tree = h.tree := by
  have howned := hh.owned hcwd
  refine ⟨?_, ?_, ?_, ?_⟩
  · obtain ⟨-, added, hadded, hown, hnodup, hnew⟩ := howned
    exact ⟨added, hadded, hown, hnodup, fun p hp => (hnew p hp).1⟩
  · intro c hc
    obtain ⟨hsame, hleft, k, hr⟩ := hh.made hcwd hc
    obtain ⟨more, hg, -⟩ := resolve_grows (hsame ▸ hcwd) hr
    exact ⟨hg.front, hleft⟩
  · rintro c rest e rfl hfailed
    obtain ⟨hsame, -, k, hr⟩ := hh.made hcwd List.mem_cons_self
    rw [hh.first_before rfl, hfailed] at hr
    exact resolve_error_levels (hsame ▸ hcwd) hr
  · intro n
    obtain ⟨hcopies, halike⟩ := howned.release n
    exact ⟨hcopies, halike.tree⟩

/-- A file with a metadata block that includes one that does not exist. -/
def blockHost : Host where
  tree := ⟨[(["a.cs"], .file (Text.encodeUtf8 "::\x7b\n\x7d::\n\n//#include b.cs\nclass A \x7b \x7d\n".toList))]⟩
  cwd := "/"
  home := "/"
  tempDir := "/"
  copies := []
  named := 0
  notices := []
  asked := []

/-- The first call on that host: it fails, and leaves the unit of its entry with a copy. -/
def blockFirst : (Resolution × Except Failure Unit) × Host :=
  resolve ⟨none, "utf-8"⟩ .empty "a.cs" blockHost

/-- The host when the included file is written, with a metadata block too. -/
def blockFilled : Host :=
  { blockFirst.2 with
    tree := blockFirst.2.tree.put ["b.cs"] (.file (Text.encodeUtf8 "::\x7b\n\x7d::\n".toList)) }

/-- The same call again: it returns. -/
def blockSecond : (Resolution × Except Failure Unit) × Host :=
  resolve ⟨none, "utf-8"⟩ blockFirst.1.1 "a.cs" blockFilled

theorem copies_of_history_block :
    blockFirst.2.copies.map Prod.fst = ["/csrun-00000000.cs"]
      ∧ blockSecond.2.copies.map Prod.fst = ["/csrun-00000000.cs", "/csrun-00000001.cs"]
      ∧ ownedCopies blockSecond.1.1.units = ["/csrun-00000000.cs", "/csrun-00000001.cs"]
      ∧ ((fun k => (releaseAll blockSecond.1.1.units k).2)^[2] blockSecond.2).copies = [] := by
  have hone : blockFirst.2.copies.map Prod.fst = ["/csrun-00000000.cs"] := by decide +kernel
  have hfill : Edited blockFirst.2 blockFilled := by
    refine ⟨rfl, rfl, fun p hp _ => ?_⟩
    rw [hone, List.mem_singleton] at hp
    subst hp
    have hjoin : join "/" "csrun-00000000.cs" = "/csrun-00000000.cs" := by decide +kernel
    have hname : IsName "csrun-00000000.cs" := ⟨by decide, by decide, by decide⟩
    have hslash : '/' ∉ "csrun-00000000.cs".toList := by decide
    have hfresh : "csrun-00000000.cs" ∉ blockFilled.tree.nodes.map (·.1.headD "") := by
      decide +kernel
    rw [← hjoin]
    exact ⟨find_join_fresh hname hslash hfresh, removeFile_join_fresh hname hslash hfresh⟩
  have hh : History ⟨none, "utf-8"⟩ blockHost
      ([⟨blockHost, "a.cs", .empty, blockFirst.1.2, blockFirst.1.1⟩]
        ++ [⟨blockFilled, "a.cs", blockFirst.1.1, blockSecond.1.2, blockSecond.1.1⟩])
      blockSecond.1.1 blockSecond.2 := .call (.edit (.call .start rfl) hfill) rfl
  obtain ⟨⟨added, hadded, hown, -⟩, -, -, hrelease⟩ :=
    copies_of_history (by decide : isAbsolute blockHost.cwd = true) hh
  have htwo : blockSecond.2.copies.map Prod.fst
      = ["/csrun-00000000.cs", "/csrun-00000001.cs"] := by decide +kernel
  refine ⟨hone, htwo, ?_, (hrelease 1).1⟩
  rw [← hown, ← htwo, hadded]
  rfl

end

end BraceScript.Source
