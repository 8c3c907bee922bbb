import BraceScript.Proofs.Syntax.FirstFault

/-!
# Tokens in order

The outline of a file holds the tokens of its source that are no signs and no keywords, modifiers
apart, in the order in which they stand there (`tokens_ofFile`). Each token stands behind the ones
before it (`scan_ordered`).
-/

namespace BraceScript.Syntax

/-! ## Tokens of outlines -/

mutual

/-- The tokens of an outline, in order. -/
def Outline.tokens : Outline → List Token
  | .node _ os => Outline.allTokens os
  | .leaf t => [t]
  | .gap => []

/-- The tokens of several outlines. -/
def Outline.allTokens : List Outline → List Token
  | [] => []
  | o :: os => o.tokens ++ Outline.allTokens os

end

namespace Outline

theorem allTokens_eq_flatMap (os : List Outline) : allTokens os = os.flatMap tokens := by
  induction os with
  | nil => rfl
  | cons o os ih => rw [allTokens, ih, List.flatMap_cons]

@[simp]
theorem allTokens_append (os qs : List Outline) :
    allTokens (os ++ qs) = allTokens os ++ allTokens qs := by
  simp only [allTokens_eq_flatMap, List.flatMap_append]

end Outline

namespace Grammar

/-- Whether tokens of a kind are kept in outlines: all but the signs and most keywords. -/
def isKept : Kind → Bool
  | .name | .number | .string | .char => true
  | .word k => modifierKinds.contains (.word k)
  | .sign _ => false

mutual

/-- Whether a part keeps and drops tokens by their kind alone. -/
def Part.keepsByKind : Part → Bool
  | .drop k => !isKept k
  | .keep ks => ks.all isKept
  | .rule _ => true
  | .maybe ps | .many ps => keepByKind ps

/-- Whether parts keep and drop tokens by their kind alone. -/
def keepByKind : List Part → Bool
  | [] => true
  | p :: ps => p.keepsByKind && keepByKind ps

end

theorem alternatives_keepByKind (r : Rule) : ∀ a ∈ r.alternatives, keepByKind a.parts = true := by
  cases r <;> decide

theorem allTokens_result (a : Alternative) (r : Rule) (os : List Outline) :
    Outline.allTokens (a.result r os) = Outline.allTokens os := by
  have hnode (l : String) : Outline.allTokens [.node l os] = Outline.allTokens os := by
    rw [Outline.allTokens, Outline.tokens, Outline.allTokens, List.append_nil]
  unfold Alternative.result
  split
  · exact hnode _
  · split
    · rfl
    · exact hnode _

theorem allTokens_gaps (ps : List Part) : Outline.allTokens (gaps ps) = [] := by
  rw [gaps, Outline.allTokens_eq_flatMap, List.flatMap_eq_nil_iff]
  intro o ho
  rw [List.eq_of_mem_replicate ho, Outline.tokens]

/-- What is derived keeps the tokens of the kept kinds, in order. -/
theorem Derives.allTokens_eq {ps : List Part} {ts : List Token} {os : List Outline}
    (h : Derives ps ts os) (hps : keepByKind ps = true) :
    Outline.allTokens os = ts.filter fun t => isKept t.kind := by
  induction h with
  | nil => rfl
  | drop hk _ ih =>
    simp only [keepByKind, Part.keepsByKind, Bool.and_eq_true, Bool.not_eq_true'] at hps
    rw [ih hps.2, List.filter_cons_of_neg]
    simp [hk, hps.1]
  | keep hk _ ih =>
    simp only [keepByKind, Part.keepsByKind, Bool.and_eq_true, List.all_eq_true] at hps
    rw [Outline.allTokens, Outline.tokens, ih hps.2, List.filter_cons_of_pos]
    · rfl
    · exact hps.1 _ hk
  | rule ha _ _ ih ih' =>
    simp only [keepByKind, Part.keepsByKind, Bool.true_and] at hps
    rw [Outline.allTokens_append, allTokens_result, ih (alternatives_keepByKind _ _ ha), ih' hps,
      List.filter_append]
  | absent _ ih =>
    simp only [keepByKind, Part.keepsByKind, Bool.and_eq_true] at hps
    rw [Outline.allTokens_append, allTokens_gaps, List.nil_append, ih hps.2]
  | present _ _ ih ih' =>
    simp only [keepByKind, Part.keepsByKind, Bool.and_eq_true] at hps
    rw [Outline.allTokens_append, ih hps.1, ih' hps.2, List.filter_append]
  | stop _ ih =>
    simp only [keepByKind, Part.keepsByKind, Bool.and_eq_true] at hps
    exact ih hps.2
  | more _ _ ih ih' =>
    have hparts := hps
    simp only [keepByKind, Part.keepsByKind, Bool.and_eq_true] at hparts
    rw [Outline.allTokens_append, ih hparts.1, ih' hps, List.filter_append]

end Grammar

/-- The outline of a file keeps its tokens in order, without signs and most keywords. -/
theorem tokens_ofFile {source : List Char} {f : SourceFile} (h : parse source = .ok f) :
    (Outline.ofFile f).tokens
      = (scan source).tokens.filter fun t => Grammar.isKept t.kind := by
  obtain ⟨-, htokens⟩ := parse_eq_ok_iff.mp h
  have hderives : Grammar.Derives [.rule .start] (scan source).tokens [Outline.ofFile f] :=
    derives_iff_parseTokens.mpr ⟨f, htokens, rfl⟩
  have htree := hderives.allTokens_eq rfl
  rwa [Outline.allTokens, Outline.allTokens, List.append_nil] at htree

/-! ## Pieces -/

/-- A token is the piece that stands at its place. -/
theorem scanFrom_pieces (front cs : List Char) : ∀ t ∈ (scanFrom (.behind front) cs).tokens,
    ∃ before c rest n, front ++ cs = before ++ c :: rest ∧ t.position = .behind before
      ∧ pieceAt c rest = .token t.kind n ∧ t.text = String.ofList (c :: rest.take n) := by
  induction hlen : cs.length using Nat.strong_induction_on generalizing front cs with
  | _ len ih =>
    subst hlen
    intro t ht
    cases cs with
    | nil =>
      rw [scanFrom] at ht
      cases ht
    | cons c cs =>
      have hshorter (n : Nat) : (cs.drop n).length < (c :: cs).length := by
        rw [List.length_drop, List.length_cons]
        omega
      have hsplit (n : Nat) : front ++ c :: cs = front ++ c :: cs.take n ++ cs.drop n := by simp
      cases hpiece : pieceAt c cs with
      | ignored n =>
        rw [scanFrom_of_ignored hpiece, Position.advance_behind] at ht
        rw [hsplit n]
        exact ih _ (hshorter n) _ _ rfl t ht
      | token k n =>
        rw [scanFrom_of_token hpiece, Position.advance_behind] at ht
        rcases List.mem_cons.mp ht with rfl | ht
        · exact ⟨front, c, cs, n, rfl, rfl, hpiece, rfl⟩
        · rw [hsplit n]
          exact ih _ (hshorter n) _ _ rfl t ht
      | unknown =>
        rw [scanFrom_of_unknown hpiece] at ht
        cases ht

theorem scan_pieces {source : List Char} {t : Token} (ht : t ∈ (scan source).tokens) :
    ∃ before c rest n, source = before ++ c :: rest ∧ t.position = .behind before
      ∧ pieceAt c rest = .token t.kind n ∧ t.text = String.ofList (c :: rest.take n) :=
  scanFrom_pieces [] source t ht

/-! ## Places -/

namespace Position

/-- One place stands before another: on an earlier line, or on the same line further left. -/
def Before (p q : Position) : Prop := p.line < q.line ∨ p.line = q.line ∧ p.column < q.column

instance (p q : Position) : Decidable (p.Before q) := inferInstanceAs (Decidable (_ ∨ _))

theorem Before.trans {p q r : Position} (h : p.Before q) (h' : q.Before r) : p.Before r := by
  unfold Before at *
  omega

theorem Before.asymm {p q : Position} (h : p.Before q) : ¬q.Before p := by
  unfold Before at *
  omega

theorem before_next (p : Position) (c : Char) : p.Before (p.next c) := by
  unfold next
  split
  · exact .inl (Nat.lt_succ_self _)
  · exact .inr ⟨rfl, Nat.lt_succ_self _⟩

theorem before_advance (p : Position) (c : Char) (cs : List Char) :
    p.Before (p.advance (c :: cs)) := by
  induction cs generalizing p c with
  | nil => exact p.before_next c
  | cons d cs ih => exact (p.before_next c).trans (ih (p.next c) d)

end Position

/-- Tokens stand where the text begins or behind, each behind the ones before it. -/
theorem scanFrom_ordered (p : Position) (cs : List Char) :
    (∀ t ∈ (scanFrom p cs).tokens, t.position = p ∨ p.Before t.position)
      ∧ (scanFrom p cs).tokens.Pairwise fun t u => t.position.Before u.position := by
  induction hlen : cs.length using Nat.strong_induction_on generalizing p cs with
  | _ len ih =>
    subst hlen
    cases cs with
    | nil =>
      rw [scanFrom]
      exact ⟨fun t ht => absurd ht List.not_mem_nil, .nil⟩
    | cons c cs =>
      have hshorter (n : Nat) : (cs.drop n).length < (c :: cs).length := by
        rw [List.length_drop, List.length_cons]
        omega
      -- whatever stands behind the first piece stands behind its beginning
      have hbehind (n : Nat) (q : Position)
          (hq : q = p.advance (c :: cs.take n) ∨ (p.advance (c :: cs.take n)).Before q) :
          p.Before q := by
        have hpiece := p.before_advance c (cs.take n)
        rcases hq with rfl | hq
        · exact hpiece
        · exact hpiece.trans hq
      cases hpiece : pieceAt c cs with
      | ignored n =>
        rw [scanFrom_of_ignored hpiece]
        obtain ⟨hplaces, hpairs⟩ := ih _ (hshorter n) (p.advance (c :: cs.take n)) _ rfl
        exact ⟨fun t ht => .inr (hbehind n _ (hplaces t ht)), hpairs⟩
      | token k n =>
        rw [scanFrom_of_token hpiece]
        obtain ⟨hplaces, hpairs⟩ := ih _ (hshorter n) (p.advance (c :: cs.take n)) _ rfl
        refine ⟨fun t ht => ?_, .cons (fun t ht => hbehind n _ (hplaces t ht)) hpairs⟩
        rcases List.mem_cons.mp ht with rfl | ht
        · exact .inl rfl
        · exact .inr (hbehind n _ (hplaces t ht))
      | unknown =>
        rw [scanFrom_of_unknown hpiece]
        exact ⟨fun t ht => absurd ht List.not_mem_nil, .nil⟩

/-- Each token of a text stands behind the ones before it. -/
theorem scan_ordered (source : List Char) :
    (scan source).tokens.Pairwise fun t u => t.position.Before u.position :=
  (scanFrom_ordered .start source).2

end BraceScript.Syntax
