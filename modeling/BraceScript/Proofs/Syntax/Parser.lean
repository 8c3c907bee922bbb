import BraceScript.Proofs.Syntax.Accepting
import BraceScript.Proofs.Syntax.Trees
import Mathlib

/-!
# The parser reads the grammar

A token list is read as a file exactly when it spells the file (`parseTokens_eq_ok_iff`), and the
spellings of files are what the grammar derives. So the parser accepts the sentences of the grammar
and nothing else, and gives the only tree that a sentence has (`parse_iff_derives`).
-/

namespace BraceScript.Syntax

open Grammar (Derives)

theorem parseTokens_eq_ok_iff_accepts {ts : List Token} {f : SourceFile} :
    parseTokens ts = .ok f ↔ State.initial.Accepts ts f := by
  unfold parseTokens State.Accepts
  cases hshifts : State.initial.shifts ts with
  | error t => simp
  | ok s => cases hfinish : s.finish <;> simp [hfinish]

/-- A token list is read as a file exactly when it spells the file. -/
theorem parseTokens_eq_ok_iff {ts : List Token} {f : SourceFile} :
    parseTokens ts = .ok f ↔ ts ∈ Spelling.ofFile f := by
  rw [parseTokens_eq_ok_iff_accepts]
  constructor
  · rintro ⟨s, hs, hf⟩
    exact mem_ofFile_of_shifts hs hf
  · exact accepts_ofFile

/-- A source is read when all of it is tokens and these are read. -/
theorem parse_eq_ok_iff {source : List Char} {f : SourceFile} :
    parse source = .ok f
      ↔ (scan source).ending = .complete ∧ parseTokens (scan source).tokens = .ok f := by
  cases hending : (scan source).ending with
  | complete => simp [parse, hending]
  | unknown c p =>
    cases hshifts : State.initial.shifts (scan source).tokens <;> simp [parse, hending, hshifts]

/-- What the grammar derives from a token list is the outline of the file it is read as. -/
theorem derives_iff_parseTokens {ts : List Token} {os : List Outline} :
    Derives [.rule .start] ts os ↔ ∃ f, parseTokens ts = .ok f ∧ os = [Outline.ofFile f] := by
  rw [derives_start_iff]
  simp only [parseTokens_eq_ok_iff]

/-- A token list is read with a tree exactly when the grammar derives it with this tree, and it has
one tree at most. A source is read when all of it is tokens and the grammar derives these. -/
theorem parse_iff_derives :
    (∀ (ts : List Token) (t : Outline),
      (∃ f, parseTokens ts = .ok f ∧ Outline.ofFile f = t) ↔ Derives [.rule .start] ts [t])
    ∧ (∀ ts : List Token, Set.Subsingleton {os | Derives [.rule .start] ts os})
    ∧ ∀ (source : List Char) (t : Outline),
      (∃ f, parse source = .ok f ∧ Outline.ofFile f = t)
        ↔ (scan source).ending = .complete ∧ Derives [.rule .start] (scan source).tokens [t] := by
  have hderives (ts : List Token) (t : Outline) :
      (∃ f, parseTokens ts = .ok f ∧ Outline.ofFile f = t) ↔ Derives [.rule .start] ts [t] := by
    rw [derives_iff_parseTokens]
    simp only [List.cons.injEq, and_true, eq_comm]
  refine ⟨hderives, ?_, ?_⟩
  · intro ts os hos qs hqs
    obtain ⟨f, hf, rfl⟩ := derives_iff_parseTokens.mp hos
    obtain ⟨g, hg, rfl⟩ := derives_iff_parseTokens.mp hqs
    rw [hf] at hg
    cases hg
    rfl
  · intro source t
    rw [← hderives]
    constructor
    · rintro ⟨f, hf, ht⟩
      obtain ⟨hending, htokens⟩ := parse_eq_ok_iff.mp hf
      exact ⟨hending, f, htokens, ht⟩
    · rintro ⟨hending, f, htokens, ht⟩
      exact ⟨f, parse_eq_ok_iff.mpr ⟨hending, htokens⟩, ht⟩

end BraceScript.Syntax
