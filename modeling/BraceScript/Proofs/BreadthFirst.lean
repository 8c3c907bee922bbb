import Mathlib

/-!
# Breadth-first order

What a place leads to is a list of places. `level` gives the places of one distance from a start,
in the order of the places that lead there, and `order` all places up to a distance. No place
comes twice (`order_nodup`), a level holds exactly the places of its distance (`mem_level`), and
once a level is empty everything that can be reached is there (`mem_order_iff_reach`).
-/

namespace BraceScript.BreadthFirst

variable {α : Type}

/-- A way of `n` steps. -/
inductive Steps (next : α → List α) (start : α) : Nat → α → Prop
  | start : Steps next start 0 start
  | step {n : Nat} {a b : α} : Steps next start n a → b ∈ next a → Steps next start (n + 1) b

/-- A place leads to another one, in any number of steps. -/
abbrev Reach (next : α → List α) : α → α → Prop := Relation.ReflTransGen fun a b => b ∈ next a

theorem Steps.reach {next : α → List α} {start : α} {n : Nat} {a : α}
    (h : Steps next start n a) : Reach next start a := by
  induction h with
  | start => exact .refl
  | step _ hb ih => exact ih.tail hb

variable [DecidableEq α]

/-- The first occurrences in a list of what was not seen before. -/
def fresh (seen : List α) : List α → List α
  | [] => []
  | a :: as => if a ∈ seen then fresh seen as else a :: fresh (seen ++ [a]) as

/-- What is seen before a level, and the level. -/
def stage (next : α → List α) (start : α) : Nat → List α × List α
  | 0 => ([], [start])
  | n + 1 =>
    let s := stage next start n
    (s.1 ++ s.2, fresh (s.1 ++ s.2) (s.2.flatMap next))

/-- The places of one level. -/
def level (next : α → List α) (start : α) (n : Nat) : List α := (stage next start n).2

/-- The places up to a level. -/
def order (next : α → List α) (start : α) (n : Nat) : List α :=
  (stage next start n).1 ++ (stage next start n).2

/-! ## What was not seen -/

theorem mem_fresh {seen as : List α} {a : α} : a ∈ fresh seen as ↔ a ∈ as ∧ a ∉ seen := by
  induction as generalizing seen with
  | nil => simp [fresh]
  | cons b as ih =>
    unfold fresh
    split_ifs with hb
    · rw [ih, List.mem_cons]
      constructor
      · rintro ⟨ha, hs⟩
        exact ⟨.inr ha, hs⟩
      · rintro ⟨rfl | ha, hs⟩
        · exact absurd hb hs
        · exact ⟨ha, hs⟩
    · rw [List.mem_cons, List.mem_cons, ih, List.mem_append, List.mem_singleton]
      by_cases hab : a = b
      · simp [hab, hb]
      · simp [hab]

theorem fresh_nodup (seen as : List α) : (fresh seen as).Nodup := by
  induction as generalizing seen with
  | nil => simp [fresh]
  | cons b as ih =>
    unfold fresh
    split_ifs with hb
    · exact ih seen
    · rw [List.nodup_cons]
      refine ⟨?_, ih _⟩
      simp [mem_fresh]

/-- What is fresh in two lists one after the other. -/
theorem fresh_append (seen as bs : List α) :
    fresh seen (as ++ bs) = fresh seen as ++ fresh (seen ++ fresh seen as) bs := by
  induction as generalizing seen with
  | nil => simp [fresh]
  | cons a as ih =>
    simp only [List.cons_append, fresh]
    split_ifs with ha
    · exact ih seen
    · rw [ih, List.cons_append, List.append_assoc, List.singleton_append]

/-! ## Levels -/

variable {next : α → List α} {start : α}

@[simp]
theorem order_zero : order next start 0 = [start] := rfl

@[simp]
theorem level_zero : level next start 0 = [start] := rfl

theorem level_succ (n : Nat) : level next start (n + 1)
    = fresh (order next start n) ((level next start n).flatMap next) := rfl

theorem order_succ (n : Nat) :
    order next start (n + 1) = order next start n ++ level next start (n + 1) := rfl

theorem level_subset_order (n : Nat) : level next start n ⊆ order next start n :=
  List.subset_append_right _ _

theorem order_nodup (n : Nat) : (order next start n).Nodup := by
  induction n with
  | zero => simp
  | succ n ih =>
    rw [order_succ, List.nodup_append]
    refine ⟨ih, ?_, ?_⟩
    · rw [level_succ]
      exact fresh_nodup _ _
    · rintro a ha b hb rfl
      rw [level_succ, mem_fresh] at hb
      exact hb.2 ha

theorem level_succ_eq_nil {n : Nat} (h : level next start n = []) :
    level next start (n + 1) = [] := by
  rw [level_succ, h]
  rfl

/-- As long as levels are not empty, there are at least as many places as levels. -/
theorem lt_length_order {n : Nat} (h : level next start n ≠ []) :
    n < (order next start n).length := by
  induction n with
  | zero => simp
  | succ n ih =>
    have hn := ih fun hnil => h (level_succ_eq_nil hnil)
    have hpos := List.length_pos_iff.mpr h
    rw [order_succ, List.length_append]
    omega

/-- More levels come behind the ones before them. -/
theorem order_prefix_of_le {m n : Nat} (h : m ≤ n) : order next start m <+: order next start n := by
  induction n, h using Nat.le_induction with
  | base => exact List.prefix_refl _
  | succ n _ ih => exact ih.trans (List.prefix_append _ _)

theorem order_subset {m n : Nat} (h : m ≤ n) : order next start m ⊆ order next start n :=
  (order_prefix_of_le h).subset

theorem mem_level_succ {n : Nat} {a : α} :
    a ∈ level next start (n + 1) ↔ a ∈ order next start (n + 1) ∧ a ∉ order next start n := by
  rw [order_succ, List.mem_append]
  constructor
  · intro ha
    exact ⟨.inr ha, (mem_fresh.mp ha).2⟩
  · rintro ⟨ha, hn⟩
    exact ha.resolve_left hn

/-- What a place leads to comes at the latest one level behind it. -/
theorem mem_order_succ {n : Nat} {a b : α} (ha : a ∈ order next start n) (hb : b ∈ next a) :
    b ∈ order next start (n + 1) := by
  have hlevel : ∀ {n}, a ∈ level next start n → b ∈ order next start (n + 1) := by
    intro n ha
    rw [order_succ, List.mem_append, level_succ, mem_fresh, List.mem_flatMap]
    by_cases hn : b ∈ order next start n
    · exact .inl hn
    · exact .inr ⟨⟨a, ha, hb⟩, hn⟩
  induction n with
  | zero => exact hlevel ha
  | succ n ih =>
    rw [order_succ, List.mem_append] at ha
    rcases ha with ha | ha
    · exact order_subset (Nat.le_succ _) (ih ha)
    · exact hlevel ha

theorem Steps.mem_order {n : Nat} {a : α} (h : Steps next start n a) :
    a ∈ order next start n := by
  induction h with
  | start => simp
  | step _ hb ih => exact mem_order_succ ih hb

/-- A place is there when there is a way to it that is short enough. -/
theorem mem_order {n : Nat} {a : α} :
    a ∈ order next start n ↔ ∃ m ≤ n, Steps next start m a := by
  constructor
  · intro ha
    induction n generalizing a with
    | zero =>
      rw [order_zero, List.mem_singleton] at ha
      exact ⟨0, le_refl 0, ha ▸ .start⟩
    | succ n ih =>
      rw [order_succ, List.mem_append] at ha
      rcases ha with ha | ha
      · obtain ⟨m, hm, hs⟩ := ih ha
        exact ⟨m, by omega, hs⟩
      · rw [level_succ, mem_fresh, List.mem_flatMap] at ha
        obtain ⟨⟨b, hb, hab⟩, -⟩ := ha
        obtain ⟨m, hm, hs⟩ := ih (level_subset_order n hb)
        exact ⟨m + 1, by omega, hs.step hab⟩
  · rintro ⟨m, hm, hs⟩
    exact order_subset hm hs.mem_order

/-- A level holds the places of its distance. -/
theorem mem_level {n : Nat} {a : α} :
    a ∈ level next start n ↔ Steps next start n a ∧ ∀ m < n, ¬ Steps next start m a := by
  cases n with
  | zero =>
    have hfirst : level next start 0 = order next start 0 := rfl
    rw [hfirst, BreadthFirst.mem_order]
    constructor
    · rintro ⟨m, hm, hs⟩
      obtain rfl : m = 0 := by omega
      exact ⟨hs, fun m hm => absurd hm (Nat.not_lt_zero m)⟩
    · rintro ⟨hs, -⟩
      exact ⟨0, le_refl 0, hs⟩
  | succ n =>
    rw [mem_level_succ, BreadthFirst.mem_order, BreadthFirst.mem_order]
    constructor
    · rintro ⟨⟨m, hm, hs⟩, hn⟩
      have hlate : ∀ m < n + 1, ¬ Steps next start m a := fun m hm hs => hn ⟨m, by omega, hs⟩
      obtain rfl : m = n + 1 := by
        by_contra hne
        exact hlate m (by omega) hs
      exact ⟨hs, hlate⟩
    · rintro ⟨hs, hlate⟩
      refine ⟨⟨n + 1, le_refl _, hs⟩, ?_⟩
      rintro ⟨m, hm, hs⟩
      exact hlate m (by omega) hs

theorem reach_of_mem_order {n : Nat} {a : α} (h : a ∈ order next start n) :
    Reach next start a := by
  obtain ⟨m, -, hs⟩ := BreadthFirst.mem_order.mp h
  exact hs.reach

/-- Behind an empty level nothing is left to discover. -/
theorem mem_order_iff_reach {n : Nat} (h : level next start (n + 1) = []) {a : α} :
    a ∈ order next start n ↔ Reach next start a := by
  refine ⟨reach_of_mem_order, fun hr => ?_⟩
  induction hr with
  | refl => exact order_subset (Nat.zero_le n) (by simp)
  | tail _ hb ih =>
    have hmem := mem_order_succ ih hb
    rwa [order_succ, h, List.append_nil] at hmem

end BraceScript.BreadthFirst
