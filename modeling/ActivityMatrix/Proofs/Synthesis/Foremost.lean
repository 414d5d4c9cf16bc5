import ActivityMatrix.Proofs.Synthesis.Outcome

/-!
# Only splits lie before the first activities

An activity that no other one precedes may be drawn behind an unrelated activity all the same, if a join is
put in front of it or in front of a split before it. This never happens: between the start event and such an
activity there are splits only (`first_activities_behind_splits`). What the phases hand on is not that the
nodes on the way are splits, which a cleanup may replace, but that no activity is among them and that
nothing comes together in any of them (`Foremost`). In the end every join brings flows together, so none of
them is a join.
-/

namespace ActivityMatrix

open ProcessGraph ActivityMatrix.Digraph

namespace Drafting

variable {r : RelationSets} {d : Draft} {a v : String}

/-- What lies before a foremost activity in the end is the start event or a split. -/
theorem Finished.eq_start_or_hasSplit (h : Finished r d) (hfirst : d.graph.Foremost r.order a)
    (hva : d.graph.Leads v a) : v = startEventId ∨ d.graph.HasSplit v := by
  have hg := h.drawn.sound
  obtain ⟨w, hvw, -⟩ := hva.exists_first
  obtain ⟨node, hnode, rfl⟩ := ProcessGraph.mem_ids.mp (hg.source_mem hvw)
  have hname : node.id ∉ r.order := fun hmem => hfirst.unpreceded _ hmem hva
  have hend : node.id ≠ endEventId := fun heq => hg.out_of_end w (heq ▸ hvw)
  by_cases hstart : node.id = startEventId
  · exact .inl hstart
  have hgateway := (hg.fits node hnode).isGateway_iff.mpr (by simp [hstart, hend, hname])
  rcases (hg.fits node hnode).isSplit_or_isJoin hgateway with hsplit | hjoin
  · exact .inr ⟨node, hnode, rfl, hsplit⟩
  · -- flows would come together in a join
    have hdegree := ((degrees_of_repair?_eq_none
      (List.findSome?_eq_none_iff.mp h.repaired node hnode)).2 hjoin).1
    obtain ⟨s, hs⟩ := List.exists_mem_of_length_pos (Nat.lt_of_succ_lt hdegree)
    have hone := length_incoming_le_one hg.flows_nodup (b := node.id) (a := s)
      fun t ht => hfirst.unjoined node.id (.inr hva) t s ht (mem_incoming.mp hs)
    omega

end Drafting

namespace Synthesis

open Drafting

variable {m : Matrix} {allowed : Option (List String)} {order : List String}
  {options : SynthesisOptions} {relations : RelationSets} {result : SynthesisResult} {a : String}

theorem Run.mem_startActivities_iff (run : Run m allowed order options relations result) :
    a ∈ relations.startActivities ↔ a ∈ order ∧ ∀ b, (b, a) ∉ relations.chains := by
  rw [RelationSets.mem_startActivities, run.order_eq]
  simp only [run.mem_edges_iff]

/-- **Only splits lie before the first activities.** Whatever the options, an activity that no chain ends in
lies behind the start event but behind no activity, and every node on the way to it is a split. -/
theorem first_activities_behind_splits (hvalid : m.validate allowed = .ok order)
    (hstart : startEventId ∉ order) (hend : endEventId ∉ order) (options : SynthesisOptions) :
    ∃ relations result, Run m allowed order options relations result ∧
      ∀ a ∈ order, (∀ b, (b, a) ∉ relations.chains) →
        result.graph.Leads startEventId a ∧ (∀ b ∈ order, ¬ result.graph.Leads b a) ∧
          ∀ v, v ≠ startEventId → result.graph.Leads v a → result.graph.HasSplit v := by
  obtain ⟨relations, result, run⟩ := exists_run hvalid hstart hend options
  obtain ⟨d, hd, hgraph, -, -⟩ := run.exists_finished
  refine ⟨relations, result, run, fun a ha hchains => ?_⟩
  have hfirst := hd.drawn.foremost a (run.mem_startActivities_iff.mpr ⟨ha, hchains⟩)
  have hg := hd.drawn.sound
  rw [run.order_eq] at hfirst hg
  rw [hgraph]
  refine ⟨?_, hfirst.unpreceded, fun v hv hva => ?_⟩
  · exact hg.leads_from_start (fun id hid hs _ => hd.connected.entered id hid hs)
      (hg.known a (by simp [ha])) (fun heq => hstart (heq ▸ ha)) (fun heq => hend (heq ▸ ha))
  · exact (hd.eq_start_or_hasSplit (run.order_eq ▸ hfirst) hva).resolve_left hv

theorem first_activities_behind_splits_crossing :
    crossing.validate none = .ok crossingOrder ∧ startEventId ∉ crossingOrder ∧
      endEventId ∉ crossingOrder ∧
      ∃ relations result, Run crossing none crossingOrder { grouping := .layerAware } relations result ∧
        "d" ∈ crossingOrder ∧ (∀ b, (b, "d") ∉ relations.chains) ∧
        result.graph.Leads startEventId "d" ∧ (∀ b ∈ crossingOrder, ¬ result.graph.Leads b "d") ∧
        ∀ v, v ≠ startEventId → result.graph.Leads v "d" → result.graph.HasSplit v := by
  obtain ⟨relations, result, run, hall⟩ := first_activities_behind_splits validate_crossing
    (by decide) (by decide) { grouping := .layerAware }
  have hchains : ∀ b, (b, "d") ∉ relations.chains := by
    have hnone : ∀ chain ∈ (RelationSets.ofMatrixWithOrder crossing crossingOrder).chains,
        chain.2 ≠ "d" := by decide +kernel
    rw [run.relations_eq]
    exact fun b hb => hnone _ hb rfl
  exact ⟨validate_crossing, by decide, by decide, relations, result, run, by decide, hchains,
    hall "d" (by decide) hchains⟩

end Synthesis

end ActivityMatrix
