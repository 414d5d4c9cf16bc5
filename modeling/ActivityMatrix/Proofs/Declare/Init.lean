import ActivityMatrix.Declare.Derivation
import ActivityMatrix.Proofs.Matrix.Listing
import ActivityMatrix.Proofs.RelationSets.Consistency

/-!
# The first activity of a process

A model has an `init` constraint on the activity that strictly precedes all others. It is found by
counting: each activity is compared with every other one cell by cell, and an activity counts as the first
one if it precedes one activity less than there are. The relation sets are collected from all cells at once
and know nothing of these counts.

On a valid matrix whose cells are all cells between listed activities the two agree
(`opensWith_of_validate`): the counts are the numbers of chains that leave the activities, so an activity is
found exactly if chains lead from it to all others. Since chains form no cycle, there is one such activity
at most. The order then starts with it, and no other activity is without a predecessor.
-/

namespace ActivityMatrix.Declare

open RelationSets ActivityMatrix.Digraph

variable {m : Matrix} {allowed : Option (List String)} {order : List String} {a b : String}

/-- Chains lead from an activity to all others that are listed. -/
def Dominates (m : Matrix) (relations : RelationSets) (a : String) : Prop :=
  a ∈ m.activities ∧ ∀ b ∈ m.activities, b ≠ a → (a, b) ∈ relations.chains

/-- The `init` constraint of a matrix agrees with its relation sets. -/
structure OpensWith (m : Matrix) (relations : RelationSets) : Prop where
  /-- Each activity is counted with the number of its chain successors. -/
  counts : precedenceCounts m =
    m.activities.map fun a => (a, (Digraph.successors relations.chains a).length)
  /-- The activity that is found is one from which chains lead to all others. -/
  found : ∀ a, findInit m = some a ↔ Dominates m relations a
  /-- There is one such activity at most. -/
  unique : ∀ a b, Dominates m relations a → Dominates m relations b → a = b
  /-- It is the first one in order. -/
  first : ∀ a, findInit m = some a → relations.order.head? = some a
  /-- It is the only one without a predecessor. -/
  alone : ∀ a, findInit m = some a → relations.startActivities = [a]

/-! ## Counts -/

/-- Comparing two activities cell by cell finds the chains. -/
theorem precedes_iff (order : List String) :
    precedes m a b = true ↔ (a, b) ∈ (ofMatrixWithOrder m order).chains := by
  by_cases hne : a = b
  · subst hne
    have hirreflexive : (a, a) ∉ (ofMatrixWithOrder m order).chains := fun h => by
      rw [chains_ofMatrixWithOrder] at h
      exact (Matrix.mem_precedenceEdges.mp h).1 rfl
    simp [precedes, hirreflexive]
  · simp [precedes, mem_chains_iff_relation hne, Ne.symm hne]

theorem not_precedes_self (m : Matrix) (a : String) : ¬ precedes m a a = true := by
  simp [precedes]

theorem nodup_chains (m : Matrix) (order : List String) : (ofMatrixWithOrder m order).chains.Nodup :=
  (perm_sortBy _).nodup_iff.mpr (nodup_distinct _)

/-- Both ends of a chain are listed. -/
theorem mem_of_mem_chains (h : m.Covers) (hab : (a, b) ∈ (ofMatrixWithOrder m order).chains) :
    a ∈ m.activities ∧ b ∈ m.activities := by
  rw [chains_ofMatrixWithOrder] at hab
  exact h.endsListed a b (Matrix.mem_precedenceEdges.mp hab)

/-- The activities that one precedes are its successors by chains. -/
theorem countP_precedes (hcovers : m.Covers) (hnodup : m.activities.Nodup) (a : String) :
    m.activities.countP (precedes m a) =
      (Digraph.successors (ofMatrixWithOrder m order).chains a).length := by
  rw [List.countP_eq_length_filter]
  refine List.Perm.length_eq ((List.perm_ext_iff_of_nodup (hnodup.filter _)
    (nodup_successors (nodup_chains m order) a)).mpr fun b => ?_)
  rw [List.mem_filter, precedes_iff order, Digraph.mem_successors]
  exact and_iff_right_of_imp fun hab => (mem_of_mem_chains hcovers hab).2

theorem precedenceCounts_eq (hnodup : m.activities.Nodup) :
    precedenceCounts m = m.activities.map fun a => (a, m.activities.countP (precedes m a)) := by
  rw [precedenceCounts, distinct_eq_self hnodup]

/-! ## The activity that is found -/

/-- The activities that strictly precede all others, with how many these are. -/
def firstCounts (m : Matrix) : List (String × Nat) :=
  (precedenceCounts m).filter fun entry => entry.2 + 1 = m.size

theorem findInit_eq_some_iff : findInit m = some a ↔ ∃ count, firstCounts m = [(a, count)] := by
  unfold findInit firstCounts
  split
  · rename_i entry hentry
    obtain ⟨first, count⟩ := entry
    simp [hentry]
  · rename_i hnone
    simpa using fun count hcount => hnone _ hcount

/-- An activity is kept exactly if chains lead from it to all others. -/
theorem countP_precedes_add_one (hnodup : m.activities.Nodup) (ha : a ∈ m.activities) :
    m.activities.countP (precedes m a) + 1 = m.size ↔ Dominates m (ofMatrixWithOrder m order) a := by
  rw [Matrix.size, countP_add_one_eq_length_iff hnodup ha (not_precedes_self m a), Dominates,
    and_iff_right ha]
  simp only [precedes_iff order]

section Valid

variable (h : m.validate allowed = .ok order)
include h

theorem acyclic_chains : Acyclic (ofMatrixWithOrder m order).chains := by
  rw [chains_ofMatrixWithOrder]
  exact (topologicalOrder_ok (topologicalOrder_of_validate h)).2

theorem eq_of_dominates (ha : Dominates m (ofMatrixWithOrder m order) a)
    (hb : Dominates m (ofMatrixWithOrder m order) b) : a = b := by
  by_contra hne
  exact (acyclic_chains h).asymm (.single (ha.2 b hb.1 (Ne.symm hne))) (.single (hb.2 a ha.1 hne))

theorem findInit_eq_some_iff_dominates (hnodup : m.activities.Nodup) :
    findInit m = some a ↔ Dominates m (ofMatrixWithOrder m order) a := by
  have hcounts := precedenceCounts_eq hnodup
  have hmem : ∀ entry, entry ∈ firstCounts m ↔ Dominates m (ofMatrixWithOrder m order) entry.1 ∧
      entry.2 = m.activities.countP (precedes m entry.1) := by
    rintro ⟨b, count⟩
    simp only [firstCounts, hcounts, List.mem_filter, List.mem_map, Prod.mk.injEq, decide_eq_true_iff]
    constructor
    · rintro ⟨⟨b, hb, rfl, rfl⟩, hcount⟩
      exact ⟨(countP_precedes_add_one hnodup hb).mp hcount, rfl⟩
    · rintro ⟨hdominates, rfl⟩
      exact ⟨⟨b, hdominates.1, rfl, rfl⟩,
        (countP_precedes_add_one hnodup hdominates.1).mpr hdominates⟩
  -- no two activities precede all others, so a single entry is left if one does
  have hnodupFirst : (firstCounts m).Nodup := by
    rw [firstCounts, hcounts]
    exact (hnodup.map fun b c heq => (Prod.mk.inj heq).1).filter _
  rw [findInit_eq_some_iff]
  constructor
  · rintro ⟨count, hfirst⟩
    exact ((hmem (a, count)).mp (by simp [hfirst])).1
  · intro ha
    refine ⟨m.activities.countP (precedes m a), List.perm_singleton.mp
      ((List.perm_ext_iff_of_nodup hnodupFirst (List.nodup_singleton _)).mpr fun entry => ?_)⟩
    rw [hmem, List.mem_singleton]
    constructor
    · rintro ⟨hdominates, hcount⟩
      obtain rfl := eq_of_dominates h hdominates ha
      exact Prod.ext rfl hcount
    · rintro rfl
      exact ⟨ha, rfl⟩

variable (hcovers : m.Covers)
include hcovers

theorem head?_order_of_dominates (ha : Dominates m (ofMatrixWithOrder m order) a) :
    order.head? = some a := by
  have hmem : a ∈ order := (hcovers.endsListed.mem_order_iff h).mpr ha.1
  have hpair := pairwise_of_topologicalOrder_ok (topologicalOrder_of_validate h)
  rw [← chains_ofMatrixWithOrder m order] at hpair
  cases order with
  | nil => cases hmem
  | cons b rest =>
      rw [List.head?_cons, Option.some.injEq]
      by_contra hne
      -- a chain would lead from a later activity to the first one
      have hb : b ∈ m.activities := (hcovers.endsListed.mem_order_iff h).mp List.mem_cons_self
      have hlater : a ∈ rest := (List.mem_cons.mp hmem).resolve_left (Ne.symm hne)
      exact (List.pairwise_cons.mp hpair).1 a hlater (ha.2 b hb hne)

theorem startActivities_of_dominates (ha : Dominates m (ofMatrixWithOrder m order) a) :
    (ofMatrixWithOrder m order).startActivities = [a] := by
  have hedges : ∀ {b c}, (b, c) ∈ (ofMatrixWithOrder m order).edges ↔
      (b, c) ∈ (ofMatrixWithOrder m order).chains := by
    intro b c
    rw [mem_edges_ofMatrixWithOrder, chains_ofMatrixWithOrder]
  refine filter_eq_singleton (listed_of_validate h).nodup ((hcovers.endsListed.mem_order_iff h).mpr ha.1)
    fun b hb => ?_
  rw [List.isEmpty_iff, List.eq_nil_iff_forall_not_mem]
  simp only [RelationSets.mem_predecessors, hedges]
  constructor
  · intro hnone
    by_contra hne
    exact hnone a (ha.2 b ((hcovers.endsListed.mem_order_iff h).mp hb) hne)
  · rintro rfl c hcb
    have hne : c ≠ b := (acyclic_chains h).ne (.single hcb)
    exact (acyclic_chains h).asymm (.single hcb)
      (.single (ha.2 c (mem_of_mem_chains hcovers hcb).1 hne))

/-- **The `init` constraint of a valid matrix agrees with its relation sets**, whether they are collected
with the order that validation answers or find it themselves. -/
theorem opensWith_of_validate (hnodup : m.activities.Nodup) :
    ∃ relations, RelationSets.ofMatrix m none = .ok relations ∧
      RelationSets.ofMatrix m (some order) = .ok relations ∧ relations.order = order ∧
        OpensWith m relations := by
  have hfound : ∀ a, findInit m = some a ↔ Dominates m (ofMatrixWithOrder m order) a :=
    fun a => findInit_eq_some_iff_dominates h hnodup
  refine ⟨ofMatrixWithOrder m order, ofMatrix_of_validate h, rfl, rfl, ?_, hfound,
    fun a b => eq_of_dominates h, fun a ha => ?_, fun a ha => ?_⟩
  · rw [precedenceCounts_eq hnodup]
    exact List.map_congr_left fun a _ => by rw [countP_precedes hcovers hnodup a]
  · exact head?_order_of_dominates h hcovers ((hfound a).mp ha)
  · exact startActivities_of_dominates h hcovers ((hfound a).mp ha)

end Valid

/-- Three activities of which `b` comes before both others, `a` and `c` being unordered. -/
def branching : Matrix :=
  .ofCells (.ofList [
    ("a", .ofList [("a", .identity), ("b", ⟨">", "⇐"⟩), ("c", ⟨"-", "-"⟩)]),
    ("b", .ofList [("a", ⟨"<", "⇒"⟩), ("b", .identity), ("c", ⟨"-", "-"⟩)]),
    ("c", .ofList [("a", ⟨"-", "-"⟩), ("b", ⟨">d", "⇐"⟩), ("c", .identity)])]) []

theorem opensWith_of_validate_branching :
    branching.validate none = .ok ["b", "a", "c"] ∧ branching.Covers ∧ branching.activities.Nodup ∧
      ∃ relations, RelationSets.ofMatrix branching none = .ok relations ∧
        RelationSets.ofMatrix branching (some ["b", "a", "c"]) = .ok relations ∧
        relations.order = ["b", "a", "c"] ∧ OpensWith branching relations ∧
        findInit branching = some "b" := by
  have hvalid : branching.validate none = .ok ["b", "a", "c"] := eq_ok_of_toOption (by decide +kernel)
  have hcovers : branching.Covers := List.Subset.refl _
  have hnodup : branching.activities.Nodup := by decide +kernel
  obtain ⟨relations, hnone, hsome, horder, hopens⟩ := opensWith_of_validate hvalid hcovers hnodup
  exact ⟨hvalid, hcovers, hnodup, relations, hnone, hsome, horder, hopens, by decide +kernel⟩

end ActivityMatrix.Declare
