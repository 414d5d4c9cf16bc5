import ActivityMatrix.Proofs.Digraph.Order
import ActivityMatrix.Proofs.RelationSets.Neighbours

/-!
# Direct neighbours are a transitive reduction

The direct successors and the direct predecessors of an activity are picked in different ways: a successor
is left out if another successor leads to it, a predecessor if it leads to another predecessor. On an
acyclic relation set both say the same thing of a stated precedence, namely that nothing lies between its
two ends (`mem_directSuccessors_iff`, `mem_directPredecessors_iff`): whatever lies between them, the way
to it starts with a successor of the one end, and the way from it ends with a predecessor of the other.

Precedences with nothing between their ends are what no set of edges with the same paths can do without
(`mem_of_leads_iff`), and they are enough, since a path has finitely many refinements (`leads_direct`). So
they are the transitive reduction.
-/

namespace ActivityMatrix

/-- Some of given edges with the same paths, of which every one is needed: without it no path leads from
its source to its target any more, and no other edges with the same paths do without it. -/
structure Digraph.IsTransitiveReduction (edges reduced : List (String × String)) : Prop where
  subset : reduced ⊆ edges
  leads_iff : ∀ a b, Leads reduced a b ↔ Leads edges a b
  needed : ∀ edge ∈ reduced, ¬ Leads (reduced.filter (· ≠ edge)) edge.1 edge.2
  least : ∀ other : List (String × String), (∀ a b, Leads other a b ↔ Leads edges a b) → reduced ⊆ other

namespace RelationSets

open ActivityMatrix.Digraph

variable {r : RelationSets} {a b c p : String}

/-! ## Nothing lies between -/

theorem mem_directSuccessors_iff (h : Acyclic r.edges) : c ∈ r.directSuccessors a ↔
    (a, c) ∈ r.edges ∧ ∀ b, Leads r.edges a b → ¬ Leads r.edges b c := by
  rw [mem_directSuccessors h]
  refine and_congr_right fun _ => ⟨fun hnone b hab hbc => ?_, fun hnone b hab => hnone b (.single hab)⟩
  obtain ⟨next, hnext, heq | hleads⟩ := hab.exists_first
  · exact hnone next hnext (heq ▸ hbc)
  · exact hnone next hnext (hleads.trans hbc)

theorem mem_directPredecessors_iff (h : Acyclic r.edges) : p ∈ r.directPredecessors c ↔
    (p, c) ∈ r.edges ∧ ∀ b, Leads r.edges p b → ¬ Leads r.edges b c := by
  simp only [directPredecessors, List.mem_filter, mem_predecessors, Bool.not_eq_true',
    List.any_eq_false, Bool.and_eq_true, decide_eq_true_eq, List.contains_iff_mem,
    mem_reachable_of_acyclic h, not_and]
  refine and_congr_right fun _ => ⟨fun hnone b hpb hbc => ?_, fun hnone q hq _ hpq => ?_⟩
  · obtain ⟨last, hlast, hedge⟩ := hbc.exists_last
    have hleads : Leads r.edges p last := by
      rcases hlast with rfl | hlast
      · exact hpb
      · exact hpb.trans hlast
    exact hnone last hedge (h.ne hleads).symm hleads
  · exact hnone q hpq (.single hq)

/-! ## The reduction -/

/-- The stated precedences that are direct. -/
def directEdges (r : RelationSets) : List (String × String) :=
  r.edges.filter fun edge => edge.2 ∈ r.directSuccessors edge.1

theorem mem_directEdges : (a, b) ∈ r.directEdges ↔ r.Direct a b := by
  rw [directEdges, List.mem_filter, decide_eq_true_iff, Direct, and_iff_right_iff_imp]
  exact fun hab => Direct.mem_edges hab

theorem leads_directEdges (h : Acyclic r.edges) : Leads r.directEdges a b ↔ Leads r.edges a b := by
  constructor
  · exact Leads.mono (List.filter_subset_self _)
  · intro hab
    exact Relation.TransGen.mono (fun _ _ => mem_directEdges.mpr) _ _ (leads_direct h hab)

/-- A set of edges with the same paths has the edges with nothing between their ends. -/
theorem mem_of_leads_iff {other : List (String × String)} (h : Acyclic r.edges)
    (hother : ∀ a b, Leads other a b ↔ Leads r.edges a b) (hac : r.Direct a c) : (a, c) ∈ other := by
  obtain ⟨hedge, hnone⟩ := (mem_directSuccessors_iff h).mp hac
  obtain ⟨b, hab, rfl | hbc⟩ := ((hother a c).mpr (.single hedge)).exists_first
  · exact hab
  · exact absurd ((hother b c).mp hbc) (hnone b ((hother a b).mp (.single hab)))

theorem isTransitiveReduction_directEdges (h : Acyclic r.edges) :
    IsTransitiveReduction r.edges r.directEdges where
  subset := List.filter_subset_self _
  leads_iff _ _ := leads_directEdges h
  needed := by
    rintro ⟨a, c⟩ hac hleads
    obtain ⟨-, hnone⟩ := (mem_directSuccessors_iff h).mp (mem_directEdges.mp hac)
    obtain ⟨b, hab, hbc⟩ := hleads.exists_first
    obtain ⟨hab, hne⟩ := List.mem_filter.mp hab
    have hsub : r.directEdges.filter (· ≠ (a, c)) ⊆ r.directEdges := List.filter_subset_self _
    rcases hbc with rfl | hbc
    · simp at hne
    · exact hnone b ((leads_directEdges h).mp (.single hab)) ((leads_directEdges h).mp (hbc.mono hsub))
  least := by
    rintro other hother ⟨a, c⟩ hac
    exact mem_of_leads_iff h hother (mem_directEdges.mp hac)

/-- **Direct successors are a transitive reduction, and direct predecessors are its converse.** Of a
relation set whose chains and immediate precedences form no cycle, the edges from activities to their
direct successors lead to the same activities from everywhere, forwards and backwards, and none of them
can be left out. An activity is a direct predecessor of another one exactly if the other one is a direct
successor of it. -/
theorem direct_neighbours_reduce (h : Acyclic r.edges) :
    IsTransitiveReduction r.edges r.directEdges ∧
      (∀ a c, (a, c) ∈ r.directEdges ↔ c ∈ r.directSuccessors a) ∧
      (∀ a b, b ∈ Digraph.reachable r.directEdges a ↔ b ∈ r.reachable a) ∧
      (∀ a b, b ∈ Digraph.reachable (converse r.directEdges) a ↔ b ∈ r.ancestors a) ∧
      ∀ p c, p ∈ r.directPredecessors c ↔ c ∈ r.directSuccessors p := by
  refine ⟨isTransitiveReduction_directEdges h, fun _ _ => mem_directEdges, fun a b => ?_, fun a b => ?_,
    fun p c => ?_⟩
  · rw [Digraph.mem_reachable, mem_reachable, leads_directEdges h]
  · rw [ancestors, Digraph.mem_reachable, Digraph.mem_reachable, leads_converse, leads_converse,
      leads_directEdges h]
  · rw [mem_directPredecessors_iff h, mem_directSuccessors_iff h]

/-- Two ways from `a` to `d`, and the way past both of them. -/
def shortcutDiamond : RelationSets :=
  { activities := ["a", "b", "c", "d"]
    order := ["a", "b", "c", "d"]
    chains := [("a", "b"), ("a", "c"), ("a", "d"), ("b", "d"), ("c", "d")]
    direct := [("a", "d"), ("b", "d")] }

theorem direct_neighbours_reduce_shortcutDiamond :
    Acyclic shortcutDiamond.edges ∧
      IsTransitiveReduction shortcutDiamond.edges shortcutDiamond.directEdges ∧
      shortcutDiamond.directSuccessors "a" = ["b", "c"] ∧
      "a" ∉ shortcutDiamond.directPredecessors "d" := by
  have horder : topologicalOrder [] shortcutDiamond.edges = .ok ["a", "b", "c", "d"] := by decide +kernel
  have hacyclic := (topologicalOrder_ok horder).2
  obtain ⟨hreduces, -, -, -, hconverse⟩ := direct_neighbours_reduce hacyclic
  have hnext : shortcutDiamond.directSuccessors "a" = ["b", "c"] := by decide +kernel
  refine ⟨hacyclic, hreduces, hnext, ?_⟩
  rw [hconverse, hnext]
  decide

end RelationSets

end ActivityMatrix
