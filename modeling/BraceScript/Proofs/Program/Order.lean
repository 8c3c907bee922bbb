import BraceScript.Program.Compile
import BraceScript.Proofs.Host
import Mathlib

/-!
# Bases first

What the order of types is, and what is reported on the way (`orderTypes_arranges`). The first
declarations of all names are placed once each, and a type stands behind its base unless the edge
to the base is the one that closes a cycle. A chain of bases is built from the bottom up, so its
invariant is a link: every type of the chain derives from the one before it (`climb_spec`). The
chain cannot be longer than there are types, since its names differ, so the bound on its length is
never met. What is placed is closed under bases, so a cycle is placed by one chain, and each chain
closes at most one cycle (`placeTypes_spec`).
-/

namespace BraceScript.Program

open Lowering (TypeDecl)
open Relation (ReflTransGen TransGen)

/-- The names of some types. -/
def namesOf (ds : List TypeDecl) : List String := ds.map (·.name)

/-- Some types without a repeated name, each behind its base if the base is one of `types`. -/
structure BasesFirst (types ordered : List TypeDecl) : Prop where
  declared : ordered ⊆ types
  nodup : (namesOf ordered).Nodup
  bases : ∀ before d after, ordered = before ++ d :: after →
    ∀ b, d.base = some b → b ∈ namesOf types → b ∈ namesOf before

theorem namesOf_append (ds es : List TypeDecl) : namesOf (ds ++ es) = namesOf ds ++ namesOf es :=
  List.map_append

theorem contains_namesOf {ds : List TypeDecl} {name : String} :
    (ds.map (·.name)).contains name = true ↔ name ∈ namesOf ds := List.contains_iff_mem

theorem any_name {ds : List TypeDecl} {name : String} :
    ds.any (·.name == name) = true ↔ name ∈ namesOf ds := by
  rw [List.any_eq_true, namesOf, List.mem_map]
  simp only [beq_iff_eq]

/-! ## The relation of bases -/

/-- A type of some types is the base of a type. -/
structure IsBase (types : List TypeDecl) (d base : TypeDecl) : Prop where
  declared : base ∈ types
  named : d.base = some base.name

/-- A type is another one, or the base of its base and so on. -/
abbrev Above (types : List TypeDecl) : TypeDecl → TypeDecl → Prop := ReflTransGen (IsBase types)

/-- A type that derives from itself. -/
def OnCycle (types : List TypeDecl) (d : TypeDecl) : Prop := TransGen (IsBase types) d d

section
variable {types : List TypeDecl}

theorem eq_of_name_eq (hnames : (namesOf types).Nodup) {d e : TypeDecl} (hd : d ∈ types)
    (he : e ∈ types) (h : d.name = e.name) : d = e :=
  List.inj_on_of_nodup_map hnames hd he h

/-- A type has at most one base. -/
theorem IsBase.unique (hnames : (namesOf types).Nodup) {d b₁ b₂ : TypeDecl}
    (h₁ : IsBase types d b₁) (h₂ : IsBase types d b₂) : b₁ = b₂ := by
  refine eq_of_name_eq hnames h₁.declared h₂.declared ?_
  exact Option.some.inj (h₁.named.symm.trans h₂.named)

theorem IsBase.name_mem {d base : TypeDecl} (h : IsBase types d base) :
    base.name ∈ namesOf types := List.mem_map_of_mem h.declared

theorem exists_isBase {d : TypeDecl} {b : String} (hb : d.base = some b) (h : b ∈ namesOf types) :
    ∃ base, IsBase types d base ∧ base.name = b := by
  obtain ⟨base, hmem, hname⟩ := List.mem_map.mp h
  exact ⟨base, ⟨hmem, by rw [hb, hname]⟩, hname⟩

/-- What is above a type of a cycle lies on the same cycle. -/
theorem OnCycle.back (hnames : (namesOf types).Nodup) {d e : TypeDecl} (hd : OnCycle types d)
    (h : Above types d e) : Above types e d ∧ OnCycle types e := by
  induction h with
  | refl => exact ⟨.refl, hd⟩
  | @tail e base _ hbase ih =>
    -- the only way on from `e` leads through its base
    obtain ⟨next, hnext, hback⟩ := TransGen.head'_iff.mp ih.2
    obtain rfl := hnext.unique hnames hbase
    exact ⟨hback.trans ih.1, TransGen.tail' hback hbase⟩

end

/-! ## Chains -/

/-- Declared types that are not placed yet, each followed by one that derives from it. -/
structure Chain (types : List TypeDecl) (done : List String) (ds : List TypeDecl) : Prop where
  declared : ds ⊆ types
  nodup : (namesOf ds).Nodup
  fresh : ∀ x ∈ namesOf ds, x ∉ done
  linked : ds.IsChain fun base d => d.base = some base.name

/-- The problem with a base that nothing declares. -/
def unknownBase? (types : List TypeDecl) (isKnown : String → Bool) (d : TypeDecl) :
    Option Diagnostic :=
  d.base.bind fun b =>
    if b ∈ namesOf types ∨ isKnown b then none else some (problemAt (.unknownBase b) d)

/-- The problem with an edge that closes a cycle, at the base. -/
def circularBase (edge : TypeDecl × TypeDecl) : Diagnostic :=
  problemAt (.circularBase edge.2.name) edge.2

/-- How a chain ends at its first type, with the edges that close a cycle there and what is
reported. -/
inductive Peak (types : List TypeDecl) (isKnown : String → Bool) (done : List String)
    (top : TypeDecl) (chain : List TypeDecl) :
    List (TypeDecl × TypeDecl) → Option Diagnostic → Prop
  /-- The base is placed, or there is none. -/
  | open (h : ∀ base, IsBase types top base → base.name ∈ done) :
    Peak types isKnown done top chain [] (unknownBase? types isKnown top)
  /-- The base is in the chain. -/
  | closed (base : TypeDecl) (hbase : IsBase types top base) (hmem : base ∈ chain) :
    Peak types isKnown done top chain [(top, base)] (some (circularBase (top, base)))

section
variable {types : List TypeDecl} {isKnown : String → Bool} {done : List String}

/-- In a chain everything but the first type stands behind its base. -/
theorem Chain.base_mem {before after : List TypeDecl} {d : TypeDecl}
    (h : Chain types done (before ++ d :: after)) (hne : before ≠ []) :
    ∃ base ∈ before, IsBase types d base := by
  obtain ⟨front, base, rfl⟩ := (List.eq_nil_or_concat' before).resolve_left hne
  have hlinked := h.linked
  rw [List.append_assoc, List.isChain_append] at hlinked
  have hpair := hlinked.2.1
  rw [List.singleton_append, List.isChain_cons_cons] at hpair
  exact ⟨base, by simp, h.declared (by simp), hpair.1⟩

/-- The first type of a chain is above all types of it. -/
theorem Chain.above {top : TypeDecl} {rest : List TypeDecl} (h : Chain types done (top :: rest))
    {d : TypeDecl} (hd : d ∈ top :: rest) : Above types d top := by
  induction rest generalizing top with
  | nil =>
    obtain rfl := List.mem_singleton.mp hd
    exact .refl
  | cons next rest ih =>
    obtain ⟨hlink, hlinked⟩ := List.isChain_cons_cons.mp h.linked
    rcases List.mem_cons.mp hd with rfl | hd
    · exact .refl
    · have hrest : Chain types done (next :: rest) :=
        ⟨(List.cons_subset.mp h.declared).2, (List.nodup_cons.mp h.nodup).2,
          fun x hx => h.fresh x (List.mem_cons_of_mem _ hx), hlinked⟩
      exact (ih hrest hd).tail ⟨h.declared List.mem_cons_self, hlink⟩

/-- A base that is neither placed nor in a chain goes on top of it. -/
theorem Chain.cons {chain : List TypeDecl} {base d : TypeDecl} (h : Chain types done (d :: chain))
    (hbase : IsBase types d base) (hdone : base.name ∉ done)
    (hnew : base.name ∉ namesOf (d :: chain)) : Chain types done (base :: d :: chain) where
  declared := List.cons_subset.mpr ⟨hbase.declared, h.declared⟩
  nodup := List.nodup_cons.mpr ⟨hnew, h.nodup⟩
  fresh := List.forall_mem_cons.mpr ⟨hdone, h.fresh⟩
  linked := List.isChain_cons_cons.mpr ⟨hbase.named, h.linked⟩

/-- A chain goes up to a type whose base is placed, not declared, or in the chain. -/
theorem climb_spec (hnames : (namesOf types).Nodup) {chain : List TypeDecl} {d : TypeDecl} {n : Nat}
    (hchain : Chain types done (d :: chain)) (hfuel : types.length ≤ n + chain.length) :
    ∃ top rest closing, (climb types isKnown done chain d n).1 = top :: rest
      ∧ Chain types done (top :: rest) ∧ d :: chain <:+ top :: rest
      ∧ Peak types isKnown done top (top :: rest) closing
        (climb types isKnown done chain d n).2 := by
  induction n generalizing chain d with
  | zero =>
    -- more types than there are cannot have different names
    exfalso
    have hsub : namesOf (d :: chain) ⊆ namesOf types := List.map_subset _ hchain.declared
    have hlen := (hchain.nodup.subperm hsub).length_le
    rw [namesOf, namesOf, List.length_map, List.length_map, List.length_cons] at hlen
    omega
  | succ n ih =>
    unfold climb
    cases hbase : d.base with
    | none =>
      refine ⟨d, chain, [], rfl, hchain, List.suffix_rfl, ?_⟩
      have hnone : unknownBase? types isKnown d = none := by rw [unknownBase?, hbase]; rfl
      have hend : ∀ base, IsBase types d base → base.name ∈ done :=
        fun base h => nomatch hbase.symm.trans h.named
      have hpeak : Peak types isKnown done d (d :: chain) [] (unknownBase? types isKnown d) :=
        .open hend
      simpa only [hnone] using hpeak
    | some b =>
      simp only
      cases hfind : types.find? (·.name == b) with
      | none =>
        have hundeclared : b ∉ namesOf types := by
          intro hmem
          obtain ⟨x, hx, hname⟩ := List.mem_map.mp hmem
          exact List.find?_eq_none.mp hfind x hx (beq_iff_eq.mpr hname)
        refine ⟨d, chain, [], rfl, hchain, List.suffix_rfl, ?_⟩
        have hproblem : unknownBase? types isKnown d
            = if isKnown b then none else some (problemAt (.unknownBase b) d) := by
          simp [unknownBase?, hbase, hundeclared]
        have hend : ∀ base, IsBase types d base → base.name ∈ done := by
          intro base h
          obtain rfl := Option.some.inj (hbase.symm.trans h.named)
          exact absurd h.name_mem hundeclared
        have hpeak : Peak types isKnown done d (d :: chain) [] (unknownBase? types isKnown d) :=
          .open hend
        simpa only [hproblem] using hpeak
      | some base =>
        have hfound := List.find?_some hfind
        have hname : base.name = b := beq_iff_eq.mp hfound
        have hedge : IsBase types d base :=
          ⟨List.mem_of_find?_eq_some hfind, by rw [hbase, hname]⟩
        simp only
        subst hname
        split
        · next hdone =>
          refine ⟨d, chain, [], rfl, hchain, List.suffix_rfl, ?_⟩
          have hnone : unknownBase? types isKnown d = none := by
            simp [unknownBase?, hbase, hedge.name_mem]
          have hend : ∀ base, IsBase types d base → base.name ∈ done := by
            intro other h
            rw [← hedge.unique hnames h]
            exact List.contains_iff_mem.mp hdone
          have hpeak : Peak types isKnown done d (d :: chain) [] (unknownBase? types isKnown d) :=
            .open hend
          simpa only [hnone] using hpeak
        · next hdone =>
          split
          · next hloop =>
            obtain ⟨x, hx, hxname⟩ := List.mem_map.mp (any_name.mp hloop)
            obtain rfl := eq_of_name_eq hnames (hchain.declared hx) hedge.declared hxname
            exact ⟨d, chain, [(d, x)], rfl, hchain, List.suffix_rfl, .closed x hedge hx⟩
          · next hloop =>
            have hlonger : Chain types done (base :: d :: chain) :=
              hchain.cons hedge (fun h => hdone (List.contains_iff_mem.mpr h))
                (fun h => hloop (any_name.mpr h))
            have hmore : types.length ≤ n + (d :: chain).length := by
              rw [List.length_cons]
              omega
            obtain ⟨top, rest, closing, hwhole, hspec, hsuffix, hpeak⟩ := ih hlonger hmore
            exact ⟨top, rest, closing, hwhole, hspec, (List.suffix_cons base _).trans hsuffix, hpeak⟩

/-- The base of the first type is placed, or closes a cycle. -/
theorem Peak.base (hnames : (namesOf types).Nodup) {top base : TypeDecl} {chain : List TypeDecl}
    {closing : List (TypeDecl × TypeDecl)} {problem : Option Diagnostic}
    (h : Peak types isKnown done top chain closing problem) (hbase : IsBase types top base) :
    closing = [] ∧ base.name ∈ done ∨ closing = [(top, base)] ∧ base ∈ chain := by
  cases h with
  | «open» hend => exact .inl ⟨rfl, hend base hbase⟩
  | closed other hother hmem =>
    obtain rfl := hother.unique hnames hbase
    exact .inr ⟨rfl, hmem⟩

/-- Only the edge from the first type to its base closes a cycle. -/
theorem Peak.edge {top : TypeDecl} {chain : List TypeDecl} {closing : List (TypeDecl × TypeDecl)}
    {problem : Option Diagnostic} (h : Peak types isKnown done top chain closing problem)
    {e : TypeDecl × TypeDecl} (he : e ∈ closing) :
    e.1 = top ∧ IsBase types top e.2 ∧ e.2 ∈ chain := by
  cases h with
  | «open» hend => cases he
  | closed base hbase hmem =>
    obtain rfl := List.mem_singleton.mp he
    exact ⟨rfl, hbase, hmem⟩

theorem Peak.nodup {top : TypeDecl} {chain : List TypeDecl} {closing : List (TypeDecl × TypeDecl)}
    {problem : Option Diagnostic} (h : Peak types isKnown done top chain closing problem) :
    closing.Nodup := by
  cases h with
  | «open» => exact List.nodup_nil
  | closed => exact List.nodup_singleton _

end

/-! ## Placing chains -/

/-- Some of the types in an order, with the edges that close a cycle. -/
structure Arranged (types placed : List TypeDecl) (closing : List (TypeDecl × TypeDecl)) :
    Prop where
  declared : placed ⊆ types
  nodup : (namesOf placed).Nodup
  /-- A type is placed together with its base. -/
  complete : ∀ d ∈ placed, ∀ base, IsBase types d base → base ∈ placed
  /-- A type stands behind its base unless the edge to the base closes a cycle. -/
  behind : ∀ before d after, placed = before ++ d :: after →
    ∀ base, IsBase types d base → (base ∈ before ↔ (d, base) ∉ closing)
  /-- An edge that closes a cycle leads to a base which derives from the type itself. -/
  closes : ∀ e ∈ closing, e.1 ∈ placed ∧ IsBase types e.1 e.2 ∧ Above types e.2 e.1
  /-- Every cycle is closed by exactly one edge. -/
  once : ∀ d ∈ placed, OnCycle types d →
    ∃! e, e ∈ closing ∧ Above types d e.2 ∧ Above types e.2 d
  distinct : closing.Nodup

section
variable {types placed : List TypeDecl} {closing : List (TypeDecl × TypeDecl)}
  {isKnown : String → Bool}

theorem Arranged.nil : Arranged types [] [] where
  declared := List.nil_subset _
  nodup := List.nodup_nil
  complete := List.forall_mem_nil _
  behind before d after h := by simp at h
  closes := List.forall_mem_nil _
  once := List.forall_mem_nil _
  distinct := List.nodup_nil

/-- Everything above a placed type is placed. -/
theorem Arranged.above_mem (hp : Arranged types placed closing) {d e : TypeDecl} (hd : d ∈ placed)
    (h : Above types d e) : e ∈ placed := by
  induction h with
  | refl => exact hd
  | tail _ hbase ih => exact hp.complete _ ih _ hbase

/-- No type of a chain is placed. -/
theorem Chain.notMem_placed {chain : List TypeDecl} (hc : Chain types (namesOf placed) chain)
    {d : TypeDecl} (hd : d ∈ chain) : d ∉ placed := fun h =>
  hc.fresh d.name (List.mem_map_of_mem hd) (List.mem_map_of_mem h)

/-- A placed type is one of those with its name. -/
theorem Arranged.mem_of_name (hnames : (namesOf types).Nodup) (hp : Arranged types placed closing)
    {d : TypeDecl} (hd : d ∈ types) (h : d.name ∈ namesOf placed) : d ∈ placed := by
  obtain ⟨x, hx, hname⟩ := List.mem_map.mp h
  rwa [← eq_of_name_eq hnames (hp.declared hx) hd hname]

/-- The base of a type of a chain stands in front of it in the chain, unless the type is first. -/
theorem Chain.base_cases (hnames : (namesOf types).Nodup) {done : List String} {top : TypeDecl}
    {rest before after : List TypeDecl} {d base : TypeDecl} (hc : Chain types done (top :: rest))
    (hsplit : top :: rest = before ++ d :: after) (hbase : IsBase types d base) :
    before = [] ∧ d = top ∨ base ∈ before := by
  by_cases hfirst : before = []
  · subst hfirst
    exact .inl ⟨rfl, (List.cons.inj hsplit).1.symm⟩
  · rw [hsplit] at hc
    obtain ⟨other, hmem, hother⟩ := hc.base_mem hfirst
    rw [hother.unique hnames hbase] at hmem
    exact .inr hmem

section
variable {top : TypeDecl} {rest : List TypeDecl} {more : List (TypeDecl × TypeDecl)}
  {problem : Option Diagnostic}

theorem Arranged.append_complete (hnames : (namesOf types).Nodup)
    (hp : Arranged types placed closing) (hc : Chain types (namesOf placed) (top :: rest))
    (hpeak : Peak types isKnown (namesOf placed) top (top :: rest) more problem) :
    ∀ d ∈ placed ++ top :: rest, ∀ base, IsBase types d base → base ∈ placed ++ top :: rest := by
  intro d hd base hbase
  rcases List.mem_append.mp hd with hd | hd
  · exact List.mem_append_left _ (hp.complete d hd base hbase)
  · obtain ⟨before, after, hsplit⟩ := List.append_of_mem hd
    rcases hc.base_cases hnames hsplit hbase with ⟨-, rfl⟩ | hmem
    · rcases hpeak.base hnames hbase with ⟨-, hdone⟩ | ⟨-, hmem⟩
      · exact List.mem_append_left _ (hp.mem_of_name hnames hbase.declared hdone)
      · exact List.mem_append_right _ hmem
    · rw [hsplit]
      exact List.mem_append_right _ (List.mem_append_left _ hmem)

theorem Arranged.append_behind (hnames : (namesOf types).Nodup)
    (hp : Arranged types placed closing) (hc : Chain types (namesOf placed) (top :: rest))
    (hpeak : Peak types isKnown (namesOf placed) top (top :: rest) more problem) :
    ∀ before d after, placed ++ top :: rest = before ++ d :: after →
      ∀ base, IsBase types d base → (base ∈ before ↔ (d, base) ∉ closing ++ more) := by
  intro before d after hsplit base hbase
  have hfresh {x : TypeDecl} (hx : x ∈ top :: rest) : (x, base) ∉ closing := fun h =>
    hc.notMem_placed hx (hp.closes _ h).1
  rw [List.mem_append, not_or]
  have hwhere : (∃ back, placed = before ++ d :: back)
      ∨ ∃ front, before = placed ++ front ∧ top :: rest = front ++ d :: after := by
    rcases List.append_eq_append_iff.mp hsplit with ⟨front, h, hchain⟩ | ⟨back, h, hrest⟩
    · exact .inr ⟨front, h, hchain⟩
    · cases back with
      | nil => exact .inr ⟨[], by simpa using h.symm, by simpa using hrest.symm⟩
      | cons x back =>
        obtain ⟨rfl, -⟩ := List.cons.inj hrest
        exact .inl ⟨back, h⟩
  rcases hwhere with ⟨back, hback⟩ | ⟨front, rfl, hfront⟩
  · -- the type was placed before
    rw [hp.behind before d back hback base hbase]
    refine (and_iff_left fun hmore => ?_).symm
    have hd : d ∈ placed := by simp [hback]
    exact hc.notMem_placed List.mem_cons_self ((hpeak.edge hmore).1 ▸ hd)
  · -- the type is one of the chain
    have hd : d ∈ top :: rest := by simp [hfront]
    rw [List.mem_append, and_iff_right (hfresh hd)]
    rcases hc.base_cases hnames hfront hbase with ⟨rfl, rfl⟩ | hmem
    · rcases hpeak.base hnames hbase with ⟨rfl, hdone⟩ | ⟨rfl, hmem⟩
      · simpa using hp.mem_of_name hnames hbase.declared hdone
      · simpa using hc.notMem_placed hmem
    · refine iff_of_true (.inr hmem) fun hmore => ?_
      -- a type behind another one is not the first of the chain
      obtain ⟨hfirst, -, -⟩ := hpeak.edge hmore
      have hnodup : (top :: rest).Nodup := hc.nodup.of_map _
      cases front with
      | nil => cases hmem
      | cons x front =>
        obtain ⟨rfl, hrest⟩ := List.cons.inj hfront
        refine (List.nodup_cons.mp hnodup).1 ?_
        rw [hrest]
        simp [hfirst.symm]

theorem Arranged.append_once (hnames : (namesOf types).Nodup)
    (hp : Arranged types placed closing) (hc : Chain types (namesOf placed) (top :: rest))
    (hpeak : Peak types isKnown (namesOf placed) top (top :: rest) more problem) :
    ∀ d ∈ placed ++ top :: rest, OnCycle types d →
      ∃! e, e ∈ closing ++ more ∧ Above types d e.2 ∧ Above types e.2 d := by
  intro d hd hcycle
  rcases List.mem_append.mp hd with hd | hd
  · -- everything on the cycle of a placed type is placed
    obtain ⟨e, ⟨he, habove⟩, honly⟩ := hp.once d hd hcycle
    refine ⟨e, ⟨List.mem_append_left _ he, habove⟩, ?_⟩
    rintro e' ⟨he', habove'⟩
    rcases List.mem_append.mp he' with he' | he'
    · exact honly e' ⟨he', habove'⟩
    · exact absurd (hp.above_mem hd habove'.1) (hc.notMem_placed (hpeak.edge he').2.2)
  · -- the cycle leads through the top of the chain
    have htop := hc.above hd
    obtain ⟨base, hbase, -⟩ := TransGen.head'_iff.mp (hcycle.back hnames htop).2
    have hup := htop.tail hbase
    have hdown := (hcycle.back hnames hup).1
    rcases hpeak.base hnames hbase with ⟨-, hdone⟩ | ⟨rfl, -⟩
    · have hmem := hp.mem_of_name hnames hbase.declared hdone
      exact absurd (hp.above_mem hmem hdown) (hc.notMem_placed hd)
    · refine ⟨(top, base), ⟨by simp, hup, hdown⟩, ?_⟩
      rintro e ⟨he, -, hback⟩
      rcases List.mem_append.mp he with he | he
      · obtain ⟨hmem, hedge, -⟩ := hp.closes e he
        exact absurd (hp.above_mem (hp.complete _ hmem _ hedge) hback) (hc.notMem_placed hd)
      · exact List.mem_singleton.mp he

/-- Behind the types that are placed a whole chain can be placed. -/
theorem Arranged.append (hnames : (namesOf types).Nodup) (hp : Arranged types placed closing)
    (hc : Chain types (namesOf placed) (top :: rest))
    (hpeak : Peak types isKnown (namesOf placed) top (top :: rest) more problem) :
    Arranged types (placed ++ top :: rest) (closing ++ more) where
  declared := List.append_subset.mpr ⟨hp.declared, hc.declared⟩
  nodup := by
    rw [namesOf_append, List.nodup_append]
    refine ⟨hp.nodup, hc.nodup, ?_⟩
    rintro x hx _ hy rfl
    exact hc.fresh x hy hx
  complete := hp.append_complete hnames hc hpeak
  behind := hp.append_behind hnames hc hpeak
  closes := by
    intro e he
    rcases List.mem_append.mp he with he | he
    · obtain ⟨hmem, hrest⟩ := hp.closes e he
      exact ⟨List.mem_append_left _ hmem, hrest⟩
    · obtain ⟨hfirst, hbase, hmem⟩ := hpeak.edge he
      rw [hfirst]
      exact ⟨by simp, hbase, hc.above hmem⟩
  once := hp.append_once hnames hc hpeak
  distinct := by
    rw [List.nodup_append]
    refine ⟨hp.distinct, hpeak.nodup, ?_⟩
    rintro e he _ he' rfl
    exact hc.notMem_placed List.mem_cons_self ((hpeak.edge he').1 ▸ (hp.closes e he).1)

/-- What is reported about a chain: a base of its first type that nothing declares, or a cycle. -/
theorem Peak.reported {done : List String} (hc : Chain types done (top :: rest))
    (hpeak : Peak types isKnown done top (top :: rest) more problem) :
    problem.toList
      = (top :: rest).filterMap (unknownBase? types isKnown) ++ more.map circularBase := by
  have hnone {d : TypeDecl} {base : TypeDecl} (hbase : IsBase types d base) :
      unknownBase? types isKnown d = none := by
    simp [unknownBase?, hbase.named, hbase.name_mem]
  have hrest : rest.filterMap (unknownBase? types isKnown) = [] := by
    rw [List.filterMap_eq_nil_iff]
    intro d hd
    obtain ⟨before, after, rfl⟩ := List.append_of_mem hd
    have hsplit : Chain types done ((top :: before) ++ d :: after) := hc
    obtain ⟨base, -, hbase⟩ := hsplit.base_mem (List.cons_ne_nil _ _)
    exact hnone hbase
  cases hpeak with
  | «open» hend => cases h : unknownBase? types isKnown top <;> simp [h, hrest]
  | closed base hbase hmem => simp [hnone hbase, hrest]

end

/-- All types of a list are placed, behind those that were placed before; what is reported are the
bases that nothing declares and the cycles. -/
theorem placeTypes_spec (hnames : (namesOf types).Nodup) {ds : List TypeDecl} (hds : ds ⊆ types)
    (hp : Arranged types placed closing) :
    ∃ new more, (placeTypes types isKnown placed ds).1 = placed ++ new
      ∧ Arranged types (placed ++ new) (closing ++ more) ∧ ds ⊆ placed ++ new
      ∧ (placeTypes types isKnown placed ds).2.Perm
        (new.filterMap (unknownBase? types isKnown) ++ more.map circularBase) := by
  induction ds generalizing placed closing with
  | nil => exact ⟨[], [], by simp [placeTypes], by simpa using hp, by simp, by simp [placeTypes]⟩
  | cons d ds ih =>
    obtain ⟨hd, hds⟩ := List.cons_subset.mp hds
    simp only [placeTypes]
    split
    · next hdone =>
      obtain ⟨new, more, hresult, hnew, hsub, hreported⟩ := ih hds hp
      have hmem := hp.mem_of_name hnames hd (contains_namesOf.mp hdone)
      exact ⟨new, more, hresult, hnew,
        List.cons_subset.mpr ⟨List.mem_append_left _ hmem, hsub⟩, hreported⟩
    · next hdone =>
      have hone : Chain types (namesOf placed) [d] := by
        refine ⟨by simpa using hd, List.nodup_singleton _, ?_, List.isChain_singleton d⟩
        intro x hx
        obtain rfl := List.mem_singleton.mp hx
        exact fun h => hdone (contains_namesOf.mpr h)
      obtain ⟨top, rest, edges, hwhole, hchain, hsuffix, hpeak⟩ :=
        climb_spec hnames hone (Nat.le_add_right _ _)
      obtain ⟨new, more, hresult, hnew, hsub, hreported⟩ := ih hds (hp.append hnames hchain hpeak)
      simp only [namesOf] at hwhole hpeak
      rw [hwhole]
      refine ⟨top :: rest ++ new, edges ++ more, ?_, ?_, ?_, ?_⟩
      · rw [hresult, List.append_assoc]
      · simpa only [List.append_assoc] using hnew
      · rw [← List.append_assoc]
        refine List.cons_subset.mpr ⟨?_, hsub⟩
        exact List.mem_append_left _ (List.mem_append_right _ (hsuffix.subset List.mem_cons_self))
      · rw [hpeak.reported hchain, List.filterMap_append, List.map_append]
        refine (hreported.append_left _).trans ?_
        simp only [List.append_assoc]
        exact (List.perm_append_comm_assoc _ _ _).append_left _

end

/-! ## Repeated names -/

/-- Declarations, each with those in front of it. -/
def withFront (front : List TypeDecl) : List TypeDecl → List (List TypeDecl × TypeDecl)
  | [] => []
  | d :: ds => (front, d) :: withFront (front ++ [d]) ds

/-- The declarations whose name no earlier one has. -/
def firsts (decls : List TypeDecl) : List TypeDecl :=
  ((withFront [] decls).filter fun e => e.2.name ∉ namesOf e.1).map (·.2)

/-- The declarations whose name an earlier one has. -/
def repeats (decls : List TypeDecl) : List TypeDecl :=
  ((withFront [] decls).filter fun e => e.2.name ∈ namesOf e.1).map (·.2)

/-- The problem with a repeated name. -/
def duplicateType (d : TypeDecl) : Diagnostic := problemAt (.duplicateType d.name) d

/-- What was kept of some declarations has all their names, so a later name is dropped exactly if
one of them has it. -/
theorem dropRepeated_withFront {kept front : List TypeDecl}
    (h : ∀ x, x ∈ namesOf kept ↔ x ∈ namesOf front) (ds : List TypeDecl) :
    dropRepeated kept ds =
      (kept ++ ((withFront front ds).filter fun e => e.2.name ∉ namesOf e.1).map (·.2),
        (((withFront front ds).filter fun e => e.2.name ∈ namesOf e.1).map (·.2)).map
          duplicateType) := by
  induction ds generalizing kept front with
  | nil => simp [dropRepeated, withFront]
  | cons d ds ih =>
    simp only [dropRepeated, any_name, withFront, List.filter_cons, h]
    by_cases hd : d.name ∈ namesOf front
    · have hnext : ∀ x, x ∈ namesOf kept ↔ x ∈ namesOf (front ++ [d]) := by
        intro x
        rw [h, namesOf_append, List.mem_append]
        refine (or_iff_left_of_imp fun hx => ?_).symm
        rwa [List.mem_singleton.mp hx]
      simp [hd, ih hnext, duplicateType]
    · have hnext : ∀ x, x ∈ namesOf (kept ++ [d]) ↔ x ∈ namesOf (front ++ [d]) := by
        intro x
        rw [namesOf_append, namesOf_append, List.mem_append, List.mem_append, h]
      simp [hd, ih hnext]

theorem dropRepeated_spec (decls : List TypeDecl) :
    dropRepeated [] decls = (firsts decls, (repeats decls).map duplicateType) :=
  dropRepeated_withFront (fun _ => Iff.rfl) decls

theorem namesOf_dropRepeated_nodup {kept : List TypeDecl} (hk : (namesOf kept).Nodup)
    (ds : List TypeDecl) : (namesOf (dropRepeated kept ds).1).Nodup := by
  induction ds generalizing kept with
  | nil => exact hk
  | cons d ds ih =>
    simp only [dropRepeated, any_name]
    split
    · exact ih hk
    · next hnew =>
      refine ih ?_
      rw [namesOf_append, List.nodup_append]
      refine ⟨hk, List.nodup_singleton _, ?_⟩
      rintro x hx y hy rfl
      obtain rfl := List.mem_singleton.mp hy
      exact hnew hx

theorem namesOf_firsts_nodup (decls : List TypeDecl) : (namesOf (firsts decls)).Nodup := by
  have hempty : (namesOf ([] : List TypeDecl)).Nodup := List.nodup_nil
  have h := namesOf_dropRepeated_nodup hempty decls
  rwa [dropRepeated_spec] at h

theorem map_withFront (front ds : List TypeDecl) : (withFront front ds).map (·.2) = ds := by
  induction ds generalizing front with
  | nil => rfl
  | cons d ds ih => rw [withFront, List.map_cons, ih]

theorem split_of_mem_withFront {front ds : List TypeDecl} {e : List TypeDecl × TypeDecl}
    (h : e ∈ withFront front ds) : ∃ after, front ++ ds = e.1 ++ e.2 :: after := by
  induction ds generalizing front with
  | nil => cases h
  | cons d ds ih =>
    rcases List.mem_cons.mp h with rfl | h
    · exact ⟨ds, rfl⟩
    · obtain ⟨after, hafter⟩ := ih h
      exact ⟨after, by rw [← hafter, List.append_assoc, List.singleton_append]⟩

/-- Without repeated declarations all are the first of their names. -/
theorem firsts_eq_self {decls : List TypeDecl} (h : repeats decls = []) : firsts decls = decls := by
  have hnone := List.filter_eq_nil_iff.mp (List.map_eq_nil_iff.mp h)
  rw [firsts, List.filter_eq_self.mpr, map_withFront]
  intro e he
  simpa using hnone e he

theorem repeats_eq_nil {decls : List TypeDecl} (h : (namesOf decls).Nodup) : repeats decls = [] := by
  rw [repeats, List.map_eq_nil_iff, List.filter_eq_nil_iff]
  intro e he hmem
  obtain ⟨after, hsplit⟩ := split_of_mem_withFront he
  rw [List.nil_append] at hsplit
  rw [hsplit, namesOf_append, List.nodup_append] at h
  exact h.2.2 _ (by simpa using hmem) _ List.mem_cons_self rfl

/-! ## Orders that stay -/

section
variable {types : List TypeDecl} {isKnown : String → Bool}

/-- Types that stand behind their bases are placed as they are. -/
theorem placeTypes_of_basesFirst {placed ds : List TypeDecl} (htypes : types = placed ++ ds)
    (h : BasesFirst types types) : (placeTypes types isKnown placed ds).1 = types := by
  induction ds generalizing placed with
  | nil => rw [htypes, List.append_nil, placeTypes]
  | cons d ds ih =>
    have hnew : d.name ∉ namesOf placed := by
      have hnodup := h.nodup
      rw [htypes, namesOf_append, List.nodup_append] at hnodup
      exact fun hmem => hnodup.2.2 _ hmem _ List.mem_cons_self rfl
    have hchain : (climb types isKnown (placed.map (·.name)) [] d types.length).1 = [d] := by
      obtain ⟨n, hn⟩ : ∃ n, types.length = n + 1 := ⟨placed.length + ds.length, by
        rw [htypes, List.length_append, List.length_cons, Nat.add_assoc]⟩
      rw [hn, climb]
      cases hbase : d.base with
      | none => rfl
      | some b =>
        simp only
        cases hfind : types.find? (·.name == b) with
        | none => rfl
        | some base =>
          have hname := List.find?_some hfind
          have hmem : b ∈ namesOf types :=
            List.mem_map.mpr ⟨base, List.mem_of_find?_eq_some hfind, beq_iff_eq.mp hname⟩
          have hdone := h.bases placed d ds htypes b hbase hmem
          simp only [contains_namesOf.mpr hdone, if_true]
    simp only [placeTypes, contains_namesOf, hnew, if_false, hchain]
    exact ih (by rw [htypes, List.append_assoc, List.singleton_append])

/-- Without a cycle every type stands behind its base. -/
theorem Arranged.basesFirst {ordered : List TypeDecl} (h : Arranged types ordered []) :
    BasesFirst types ordered where
  declared := h.declared
  nodup := h.nodup
  bases := by
    intro before d after hsplit b hb hmem
    obtain ⟨base, hbase, rfl⟩ := exists_isBase hb hmem
    exact List.mem_map_of_mem ((h.behind before d after hsplit base hbase).mpr List.not_mem_nil)

/-- An order of types is one for any other list of the same types. -/
theorem BasesFirst.of_perm {types' ordered : List TypeDecl} (h : BasesFirst types ordered)
    (hperm : types.Perm types') : BasesFirst types' ordered where
  declared := fun _ hd => hperm.subset (h.declared hd)
  nodup := h.nodup
  bases before d after hsplit b hb hmem :=
    h.bases before d after hsplit b hb ((hperm.map _).mem_iff.mpr hmem)

/-- Two lists of the same types without a repeated name are the same up to order. -/
theorem Arranged.perm {ordered : List TypeDecl} {closing : List (TypeDecl × TypeDecl)}
    (hnames : (namesOf types).Nodup) (h : Arranged types ordered closing)
    (hall : types ⊆ ordered) : ordered.Perm types :=
  ((h.nodup.of_map _).subperm h.declared).antisymm ((hnames.of_map _).subperm hall)

end

/-! ## The order of a program -/

section
variable {decls ordered : List TypeDecl} {isLibrary : String → Bool}

/-- The problem with the base of a declaration that neither the program nor a library declares. -/
def unknownIn (decls : List TypeDecl) (isLibrary : String → Bool) : TypeDecl → Option Diagnostic :=
  unknownBase? (firsts decls) fun b => isPredefined b || isLibrary b

theorem orderTypes_fst (decls : List TypeDecl) (isLibrary : String → Bool) :
    (orderTypes decls isLibrary).1
      = (placeTypes (firsts decls) (fun b => isPredefined b || isLibrary b) []
        (firsts decls)).1 := by
  rw [orderTypes, dropRepeated_spec]

theorem orderTypes_snd (decls : List TypeDecl) (isLibrary : String → Bool) :
    (orderTypes decls isLibrary).2 = (repeats decls).map duplicateType
      ++ (placeTypes (firsts decls) (fun b => isPredefined b || isLibrary b) []
        (firsts decls)).2 := by
  rw [orderTypes, dropRepeated_spec]

/-- The first declarations are placed, and what is reported are the repeated names, the bases that
nothing declares, and the cycles. -/
theorem orderTypes_spec (decls : List TypeDecl) (isLibrary : String → Bool) :
    ∃ closing, Arranged (firsts decls) (orderTypes decls isLibrary).1 closing
      ∧ (orderTypes decls isLibrary).1.Perm (firsts decls)
      ∧ (orderTypes decls isLibrary).2.Perm ((repeats decls).map duplicateType
        ++ (firsts decls).filterMap (unknownIn decls isLibrary) ++ closing.map circularBase) := by
  have hnames := namesOf_firsts_nodup decls
  obtain ⟨ordered, closing, hresult, harranged, hall, hreported⟩ :=
    placeTypes_spec hnames (List.Subset.refl _) Arranged.nil
  rw [List.nil_append] at hresult hall harranged
  rw [List.nil_append] at harranged
  have hperm := harranged.perm hnames hall
  rw [orderTypes_fst, orderTypes_snd, hresult]
  refine ⟨closing, harranged, hperm, ?_⟩
  rw [List.append_assoc]
  exact (hreported.trans ((hperm.filterMap _).append_right _)).append_left _

/-- An edge is reported for every cycle, and for nothing else. -/
theorem Arranged.closing_eq_nil_iff {types : List TypeDecl} {closing : List (TypeDecl × TypeDecl)}
    (h : Arranged types ordered closing) (hperm : ordered.Perm types) :
    closing = [] ↔ ∀ d ∈ types, ¬ OnCycle types d := by
  rw [List.eq_nil_iff_forall_not_mem]
  constructor
  · intro hnone d hd hcycle
    obtain ⟨e, ⟨he, -⟩, -⟩ := h.once d (hperm.mem_iff.mpr hd) hcycle
    exact hnone e he
  · intro hnone e he
    obtain ⟨-, hbase, habove⟩ := h.closes e he
    exact hnone e.2 hbase.declared (TransGen.tail' habove hbase)

/-- Without a repeated name, a base that nothing declares and a cycle nothing is reported, and
otherwise something is. -/
theorem orderTypes_fine_iff : (orderTypes decls isLibrary).2 = [] ↔ (namesOf decls).Nodup
      ∧ (∀ d ∈ decls, unknownBase? decls (fun b => isPredefined b || isLibrary b) d = none)
      ∧ ∀ d ∈ decls, ¬ OnCycle decls d := by
  obtain ⟨closing, harranged, hperm, hreported⟩ := orderTypes_spec decls isLibrary
  have hnil : (orderTypes decls isLibrary).2 = [] ↔ repeats decls = []
      ∧ (firsts decls).filterMap (unknownIn decls isLibrary) = [] ∧ closing = [] := by
    rw [← List.perm_nil, hreported.congr_left, List.perm_nil, List.append_eq_nil_iff,
      List.append_eq_nil_iff, List.map_eq_nil_iff, List.map_eq_nil_iff, and_assoc]
  rw [hnil, harranged.closing_eq_nil_iff hperm, List.filterMap_eq_nil_iff]
  constructor
  · rintro ⟨hrepeats, hrest⟩
    have hnames := namesOf_firsts_nodup decls
    rw [unknownIn] at hrest
    rw [firsts_eq_self hrepeats] at hrest hnames
    exact ⟨hnames, hrest⟩
  · rintro ⟨hnames, hrest⟩
    have hrepeats := repeats_eq_nil hnames
    rw [unknownIn, firsts_eq_self hrepeats]
    exact ⟨hrepeats, hrest⟩

/-- When nothing is reported the order has all types, and every type stands behind its base. -/
theorem orderTypes_ok (h : orderTypes decls isLibrary = (ordered, [])) :
    ordered.Perm decls ∧ BasesFirst decls ordered := by
  obtain ⟨closing, harranged, hperm, -⟩ := orderTypes_spec decls isLibrary
  obtain ⟨hnames, -, hcycles⟩ := orderTypes_fine_iff.mp (congrArg Prod.snd h)
  rw [firsts_eq_self (repeats_eq_nil hnames), h] at harranged hperm
  obtain rfl := (harranged.closing_eq_nil_iff hperm).mpr hcycles
  exact ⟨hperm, harranged.basesFirst⟩

/-- Declarations whose first ones stand behind their bases stay in their order. -/
theorem orderTypes_of_basesFirst (h : BasesFirst (firsts decls) (firsts decls)) :
    (orderTypes decls isLibrary).1 = firsts decls := by
  rw [orderTypes_fst]
  exact placeTypes_of_basesFirst (List.nil_append _).symm h

/-- An order of types that derive from each other without a cycle stays as it is. -/
theorem orderTypes_idempotent
    (hcycles : ∀ d ∈ firsts decls, ¬ OnCycle (firsts decls) d) :
    (orderTypes (orderTypes decls isLibrary).1 isLibrary).1 = (orderTypes decls isLibrary).1 := by
  obtain ⟨closing, harranged, hperm, -⟩ := orderTypes_spec decls isLibrary
  obtain rfl := (harranged.closing_eq_nil_iff hperm).mpr hcycles
  have hself : firsts (orderTypes decls isLibrary).1 = (orderTypes decls isLibrary).1 :=
    firsts_eq_self (repeats_eq_nil harranged.nodup)
  have hfirst := harranged.basesFirst.of_perm hperm.symm
  rw [orderTypes_of_basesFirst (hself.symm ▸ hfirst), hself]

end

/-- The order of any declarations. The first ones of all names are placed, a type behind its base
unless the edge to the base is the one that closes a cycle. Every repeated name is reported once,
and so is every base that nothing declares and every cycle, at a type that lies on it. Types that
stand behind their bases stay in their order, so the order of types without a cycle is one that
stays. -/
theorem orderTypes_arranges (decls : List TypeDecl) (isLibrary : String → Bool) :
    ∃ closing, Arranged (firsts decls) (orderTypes decls isLibrary).1 closing
      ∧ (orderTypes decls isLibrary).1.Perm (firsts decls)
      ∧ (orderTypes decls isLibrary).2.Perm ((repeats decls).map duplicateType
        ++ (firsts decls).filterMap (unknownIn decls isLibrary) ++ closing.map circularBase)
      ∧ (BasesFirst (firsts decls) (firsts decls) →
        (orderTypes decls isLibrary).1 = firsts decls)
      ∧ ((∀ d ∈ firsts decls, ¬ OnCycle (firsts decls) d) →
        (orderTypes (orderTypes decls isLibrary).1 isLibrary).1
          = (orderTypes decls isLibrary).1) := by
  obtain ⟨closing, harranged, hperm, hreported⟩ := orderTypes_spec decls isLibrary
  exact ⟨closing, harranged, hperm, hreported, orderTypes_of_basesFirst, orderTypes_idempotent⟩

end BraceScript.Program
