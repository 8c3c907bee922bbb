import BraceScript.Proofs.Files.Absolute
import BraceScript.Proofs.Source.Resolution
import Mathlib

/-!
# The order of discovery

Every level of a resolution needs a file of its own, and files are known by few paths, so the bound
on the levels is never met (`level_levelBound`). What a resolution gives is therefore decided by
the graph of includes alone: all paths that can be reached, in breadth-first order, or the failure
of the first one that cannot be scanned (`resolve_breadthFirst`).
-/

namespace BraceScript.Source

open BreadthFirst Files

/-- There are no more paths to files than can be written. -/
theorem length_le_of_inspected {settings : Settings} {h : Host} {paths : List String}
    (hcwd : isAbsolute h.cwd = true) (hn : paths.Nodup)
    (habs : ∀ p ∈ paths, ∃ q, p = h.absolute q)
    (hfine : ∀ p ∈ paths, ∃ f, inspect settings p h = .ok f) :
    paths.length ≤ 2 * h.tree.nodes.length := by
  rw [← length_writtenPaths]
  refine (hn.subperm fun p hp => ?_).length_le
  obtain ⟨f, hf⟩ := hfine p hp
  obtain ⟨bytes, -, hfile, -⟩ := inspect_ok hf
  obtain ⟨q, rfl⟩ := habs p hp
  exact absolute_mem_writtenPaths hcwd hfile

/-- Every path that is discovered is absolute. -/
theorem exists_absolute_of_mem_order {settings : Settings} {h : Host} {path p : String} {n : Nat}
    (hp : p ∈ order (includesOf settings h) (h.absolute path) n) : ∃ q, p = h.absolute q := by
  obtain ⟨m, -, hs⟩ := mem_order.mp hp
  cases hs with
  | start => exact ⟨path, rfl⟩
  | step _ hmem =>
    unfold includesOf at hmem
    split at hmem
    · simp at hmem
    · obtain ⟨q, -, rfl⟩ := List.mem_map.mp hmem
      exact ⟨q, rfl⟩

/-- A level behind the bound would hold more files than there are. -/
theorem level_levelBound {settings : Settings} {h : Host} {path : String}
    (hcwd : isAbsolute h.cwd = true)
    (hfine : ∀ p ∈ order (includesOf settings h) (h.absolute path) (levelBound h),
      ∃ f, inspect settings p h = .ok f) :
    level (includesOf settings h) (h.absolute path) (levelBound h) = [] := by
  by_contra hne
  have hmany := lt_length_order hne
  have hfew := length_le_of_inspected hcwd (order_nodup _)
    (fun p hp => exists_absolute_of_mem_order hp) hfine
  unfold levelBound at hmany hfew
  omega

/-- A resolution ends well exactly when everything that the entry reaches can be scanned; the units
are then all that can be reached, in breadth-first order, and each was scanned once. Otherwise the
failure is that of the first path in this order that cannot be scanned. More levels than the bound
allows are never needed. -/
theorem resolve_breadthFirst {settings : Settings} {path : String} {h h' : Host} {r : Resolution}
    {res : Except Failure Unit} (hcwd : isAbsolute h.cwd = true)
    (hr : resolve settings .empty path h = ((r, res), h')) :
    (∀ bound, levelBound h ≤ bound →
        resolveWithin bound settings .empty path h = ((r, res), h'))
      ∧ (res = .ok () ↔ ∀ p, Reach (includesOf settings h) (h.absolute path) p →
        ∃ u, (scan settings p h).1 = .ok u)
      ∧ (res = .ok () → r.paths.Nodup
        ∧ (∃ n, r.paths = order (includesOf settings h) (h.absolute path) n)
        ∧ (∀ p, p ∈ r.paths ↔ Reach (includesOf settings h) (h.absolute path) p)
        ∧ h'.scanned = h.scanned ++ r.paths)
      ∧ ∀ e, res = .error e → ∃ n before p after,
        order (includesOf settings h) (h.absolute path) n = before ++ p :: after
        ∧ (∀ q ∈ before, ∃ u, (scan settings q h).1 = .ok u)
        ∧ (scan settings p h).1 = .error e := by
  obtain ⟨⟨h₁, hscans, -⟩, -, hend⟩ := resolveWithin_spec (resolve_apply.symm.trans hr)
  rcases hend with ⟨hres, hmore⟩ | ⟨hne, hfine⟩
  · have hbound : ∀ bound, levelBound h ≤ bound →
        resolveWithin bound settings .empty path h = ((r, res), h') := by
      intro bound hb
      obtain ⟨k, rfl⟩ := Nat.exists_eq_add_of_le hb
      exact hmore k
    cases res with
    | ok _ =>
      obtain ⟨n, hpaths, hlast, hscanned⟩ := hres
      have hreach : ∀ p, p ∈ r.paths ↔ Reach (includesOf settings h) (h.absolute path) p := by
        intro p
        rw [hpaths]
        exact mem_order_iff_reach hlast
      refine ⟨hbound, ?_, ?_, ?_⟩
      · refine ⟨fun _ p hp => ?_, fun _ => rfl⟩
        exact inspect_isOk_iff.mp (hscans.fine p ((hreach p).mpr hp))
      · exact fun _ => ⟨r.nodup, ⟨n, hpaths⟩, hreach, hscanned⟩
      · exact fun e he => nomatch he
    | error e =>
      obtain ⟨n, before, p, after, hsplit, hbefore, hp⟩ := hres
      have hfail := inspect_eq_error_iff.mp hp
      refine ⟨hbound, ?_, fun h => (nomatch h), ?_⟩
      · refine ⟨fun h => (nomatch h), fun hall => ?_⟩
        have hmem : p ∈ order (includesOf settings h) (h.absolute path) n := by
          rw [hsplit]
          simp
        obtain ⟨u, hu⟩ := hall p (reach_of_mem_order hmem)
        rw [hfail] at hu
        cases hu
      · intro e' he
        cases he
        exact ⟨n, before, p, after, hsplit, fun q hq => inspect_isOk_iff.mp (hbefore q hq), hfail⟩
  · exact absurd (level_levelBound hcwd hfine) hne

/-- Two files that include each other, and the second one also itself. -/
def circularHost : Host where
  tree := ⟨[(["a.cs"], .file (Text.encodeUtf8 "//#include b.cs\n".toList)),
    (["b.cs"], .file (Text.encodeUtf8 "//#include b.cs\n//#include a.cs\n".toList))]⟩
  cwd := "/"
  home := "/"
  tempDir := "/"
  copies := []
  named := 0
  notices := []
  asked := []

theorem resolve_breadthFirst_circular :
    (resolve ⟨none, "utf-8"⟩ .empty "a.cs" circularHost).1.1.paths = ["/a.cs", "/b.cs"]
      ∧ (resolve ⟨none, "utf-8"⟩ .empty "a.cs" circularHost).2.scanned = ["/a.cs", "/b.cs"] := by
  have hend : (resolve ⟨none, "utf-8"⟩ .empty "a.cs" circularHost).1.2 = .ok () := by
    decide +kernel
  have hpaths : (resolve ⟨none, "utf-8"⟩ .empty "a.cs" circularHost).1.1.paths
      = ["/a.cs", "/b.cs"] := by
    decide +kernel
  rcases hr : resolve ⟨none, "utf-8"⟩ .empty "a.cs" circularHost with ⟨⟨r, res⟩, h'⟩
  rw [hr] at hend hpaths
  obtain ⟨-, -, hok, -⟩ :=
    resolve_breadthFirst (by decide : isAbsolute circularHost.cwd = true) hr
  obtain ⟨-, -, -, hscanned⟩ := hok hend
  refine ⟨hpaths, ?_⟩
  show h'.scanned = _
  rw [hscanned, hpaths]
  rfl

end BraceScript.Source
