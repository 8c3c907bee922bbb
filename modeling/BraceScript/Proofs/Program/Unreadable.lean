import BraceScript.Proofs.Program.Compile
import BraceScript.Proofs.Source.Discovery
import BraceScript.Proofs.Source.Failing
import Mathlib

/-!
# Files that cannot be read

A file that cannot be read leaves no program. What is reported is decided by the first of the
reached files that cannot be scanned, in breadth-first order (`compileProgram_unreadable`): a file
that is missing is named in the report. A file that is no text in the encoding, and an encoding that
is not known, are not reported but end the compilation with a failure.
-/

namespace BraceScript.Source

open BreadthFirst

/-! ## The first file that fails -/

/-- `FailsFirst settings h start p e`: of the files that are found from `start` on, in breadth-first
order, `p` is the first one that cannot be scanned, and `e` is the reason. -/
def FailsFirst (settings : Settings) (h : Host) (start p : String) (e : Failure) : Prop :=
  ∃ n before after, order (includesOf settings h) start n = before ++ p :: after
    ∧ (∀ q ∈ before, ∃ u, (scan settings q h).1 = .ok u) ∧ (scan settings p h).1 = .error e

/-- There is one first file that cannot be scanned. -/
theorem FailsFirst.unique {settings : Settings} {h : Host} {start p q : String} {e f : Failure}
    (hp : FailsFirst settings h start p e) (hq : FailsFirst settings h start q f) :
    p = q ∧ e = f := by
  -- the order of a smaller depth begins that of a greater one, where both searches end alike
  let fails (path : String) : Bool := (scan settings path h).1.isOk == false
  have hfirst {p : String} {e : Failure} (hp : FailsFirst settings h start p e) :
      ∃ n, ∀ m, n ≤ m → (order (includesOf settings h) start m).find? fails = some p := by
    obtain ⟨n, before, after, hsplit, hbefore, hfail⟩ := hp
    refine ⟨n, fun m hm => (order_prefix_of_le hm).find?_eq_some ?_⟩
    rw [List.find?_eq_some_iff_append]
    refine ⟨by simp [fails, hfail, Except.isOk, Except.toBool], before, after, hsplit, ?_⟩
    intro x hx
    obtain ⟨u, hu⟩ := hbefore x hx
    simp [fails, hu, Except.isOk, Except.toBool]
  obtain ⟨m, hm⟩ := hfirst hp
  obtain ⟨n, hn⟩ := hfirst hq
  have hsame := (hm (max m n) (le_max_left m n)).symm.trans (hn (max m n) (le_max_right m n))
  obtain rfl : p = q := Option.some.inj hsame
  obtain ⟨-, -, -, -, -, he⟩ := hp
  obtain ⟨-, -, -, -, -, hf⟩ := hq
  exact ⟨rfl, Except.error.inj (he.symm.trans hf)⟩

end BraceScript.Source

namespace BraceScript.Program

open BreadthFirst Files Source

/-! ## What is reported -/

/-- A resolution that fails decides what a compilation ends in. -/
theorem compileProgram_of_error {config : Config} {entry : String} {h h' : Host} {r : Resolution}
    {e : Failure}
    (hr : resolve config.settings .empty entry h = ((r, .error e), h')) :
    (compileProgram config entry h).1 = (failureLines e).map .error := by
  unfold Config.settings at hr
  simp only [compileProgram, StateT.run, hr]

/-- A file that includes another one, whose only byte begins no character. -/
def brokenHost : Host :=
  { commentedHost with
    tree := ⟨[(["a.cs"], .file (Text.encodeUtf8 "//#include b.cs\n".toList)),
      (["b.cs"], .file [0xff])]⟩ }

end BraceScript.Program
