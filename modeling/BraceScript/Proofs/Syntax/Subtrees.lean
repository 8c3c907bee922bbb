import BraceScript.Proofs.Syntax.InOrder

/-!
# Parts of outlines

`Outline.Within` says that an outline stands somewhere in another. `Outline.collect` lists what is
picked from the nodes of an outline, in order: it finds what stands within it (`mem_collect`), and
where tokens are picked it keeps their order (`collect_sublist`).
-/

namespace BraceScript.Syntax.Outline

/-- `Within o p`: the outline `o` stands somewhere in the outline `p`. -/
inductive Within (o : Outline) : Outline → Prop
  | self : Within o o
  | part {l : String} {p : Outline} {os : List Outline} : p ∈ os → Within o p → Within o (.node l os)

section
variable {α : Type} (pick : String → List Outline → Option α)

mutual

/-- What is picked from the nodes of an outline, in order. -/
def collect : Outline → List α
  | .node l os => (pick l os).toList ++ collectAll os
  | .leaf _ | .gap => []

/-- What is picked from the nodes of several outlines, in order. -/
def collectAll : List Outline → List α
  | [] => []
  | o :: os => collect o ++ collectAll os

end

theorem collectAll_eq_flatMap (os : List Outline) :
    collectAll pick os = os.flatMap (collect pick) := by
  induction os with
  | nil => rfl
  | cons o os ih => rw [collectAll, ih, List.flatMap_cons]

@[simp]
theorem collectAll_append (os qs : List Outline) :
    collectAll pick (os ++ qs) = collectAll pick os ++ collectAll pick qs := by
  simp only [collectAll_eq_flatMap, List.flatMap_append]

variable {pick}

mutual

/-- What is picked stands within the outline. -/
theorem mem_collect {a : α} : ∀ o : Outline,
    a ∈ collect pick o ↔ ∃ l os, (node l os).Within o ∧ pick l os = some a
  | .node l os => by
    rw [collect, List.mem_append, Option.mem_toList, mem_collectAll os]
    constructor
    · rintro (h | ⟨p, hp, l', os', hw, h⟩)
      · exact ⟨l, os, .self, h⟩
      · exact ⟨l', os', .part hp hw, h⟩
    · rintro ⟨l', os', hw, h⟩
      cases hw with
      | self => exact .inl h
      | part hp hw => exact .inr ⟨_, hp, l', os', hw, h⟩
  | .leaf t => by
    rw [collect]
    refine iff_of_false List.not_mem_nil ?_
    rintro ⟨l, os, hw, -⟩
    cases hw
  | .gap => by
    rw [collect]
    refine iff_of_false List.not_mem_nil ?_
    rintro ⟨l, os, hw, -⟩
    cases hw

theorem mem_collectAll {a : α} : ∀ os : List Outline, a ∈ collectAll pick os
    ↔ ∃ o ∈ os, ∃ l qs, (node l qs).Within o ∧ pick l qs = some a
  | [] => by simp [collectAll]
  | o :: os => by
    rw [collectAll, List.mem_append, mem_collect o, mem_collectAll os]
    simp only [List.mem_cons, exists_eq_or_imp]

end

mutual

/-- Tokens that are picked from their own nodes stand in the order in which they are written. -/
theorem collect_sublist {token : α → Token}
    (hpick : ∀ l os a, pick l os = some a → os = [leaf (token a)]) : ∀ o : Outline,
    ((collect pick o).map token).Sublist o.tokens
  | .node l os => by
    rw [collect, tokens]
    cases h : pick l os with
    | none => exact collectAll_sublist hpick os
    | some a =>
      rw [hpick l os a h]
      simp [collectAll, collect, allTokens, tokens]
  | .leaf t => by
    rw [collect]
    exact List.nil_sublist _
  | .gap => List.Sublist.refl _

theorem collectAll_sublist {token : α → Token}
    (hpick : ∀ l os a, pick l os = some a → os = [leaf (token a)]) : ∀ os : List Outline,
    ((collectAll pick os).map token).Sublist (allTokens os)
  | [] => List.Sublist.refl _
  | o :: os => by
    rw [collectAll, List.map_append, allTokens]
    exact (collect_sublist hpick o).append (collectAll_sublist hpick os)

end

end

end BraceScript.Syntax.Outline
