import ActivityMatrix.Proofs.Gateway.Grouping
import ActivityMatrix.Proofs.Synthesis.Building
import ActivityMatrix.Synthesis.Stitching

/-!
# Merging refused flows into one activity

A flow that was refused is merged in front of its target: a new join takes in the flow that enters
the target already and the flows from all sources, except those that lie behind the target by then.
`Merged` says what has become of the draft, and `yields_mergeInto` that the guard of the graph
refuses none of the flows on the way.
-/

namespace ActivityMatrix.Drafting

open ProcessGraph ActivityMatrix.Digraph

variable {names : List String} {g : ProcessGraph} {plan : SynthesisPlan} {d d' : Draft}
  {target s t u v : String} {sources : List String}

/-- Flows from some sources may be merged into an activity that a flow enters already. -/
structure Mergeable (names : List String) (g : ProcessGraph) (target : String)
    (sources : List String) : Prop where
  target_mem : target ∈ names
  entered : ∃ u, (u, target) ∈ g.flows
  nodup : sources.Nodup
  source_mem : ∀ s ∈ sources, s ∈ g.ids
  source_ne_end : endEventId ∉ sources
  target_notMem : target ∉ sources
  new : ∀ s ∈ sources, (s, target) ∉ g.flows
  free : ∀ s ∈ sources, s ∈ names → ∀ b, (s, b) ∉ g.flows

theorem Mergeable.filter (h : Mergeable names g target sources) (p : String → Bool) :
    Mergeable names g target (sources.filter p) where
  target_mem := h.target_mem
  entered := h.entered
  nodup := h.nodup.filter p
  source_mem s hs := h.source_mem s (List.mem_of_mem_filter hs)
  source_ne_end hend := h.source_ne_end (List.mem_of_mem_filter hend)
  target_notMem hmem := h.target_notMem (List.mem_of_mem_filter hmem)
  new s hs := h.new s (List.mem_of_mem_filter hs)
  free s hs := h.free s (List.mem_of_mem_filter hs)

/-- Sources that do not lie behind the target may feed it through a join. -/
theorem Mergeable.reroutable (h : Mergeable names g target sources) (hg : g.Sound names)
    (hahead : ∀ s ∈ sources, ¬ g.Leads target s) :
    Reroutable names g (g.incoming target ++ sources) [target] where
  nodup_sources := by
    refine List.Nodup.append (nodup_predecessors hg.flows_nodup target) h.nodup ?_
    intro s hs hs'
    exact h.new s hs' (mem_incoming.mp hs)
  nodup_targets := List.nodup_singleton target
  source_mem s hs := by
    rcases List.mem_append.mp hs with hs | hs
    · exact hg.source_mem (mem_incoming.mp hs)
    · exact h.source_mem s hs
  target_mem t ht := by
    rw [List.mem_singleton.mp ht]
    exact hg.known target (by simp [h.target_mem])
  source_ne_end hend := by
    rcases List.mem_append.mp hend with hend | hend
    · exact hg.out_of_end target (mem_incoming.mp hend)
    · exact h.source_ne_end hend
  target_ne_start hstart := by
    apply hg.start_notMem
    rw [List.mem_singleton.mp hstart]
    exact h.target_mem
  target_of_source s hs hname b hsb := by
    rcases List.mem_append.mp hs with hs | hs
    · exact List.mem_singleton.mpr (hg.single_out hname hsb (mem_incoming.mp hs))
    · exact absurd hsb (h.free s hs hname b)
  source_of_target t ht _ a hat := by
    apply List.mem_append_left
    rw [← List.mem_singleton.mp ht]
    exact mem_incoming.mpr hat
  ne s hs t ht heq := by
    obtain rfl := List.mem_singleton.mp ht
    subst heq
    rcases List.mem_append.mp hs with hs | hs
    · exact hg.ne_of_mem (mem_incoming.mp hs) rfl
    · exact h.target_notMem hs
  -- a source that feeds the target already lies before it, and the others do by hypothesis
  not_leads s hs t ht hback := by
    obtain rfl := List.mem_singleton.mp ht
    rcases List.mem_append.mp hs with hs | hs
    · exact hg.acyclic t (hback.tail (mem_incoming.mp hs))
    · exact hahead s hs hback

/-- The entries of flows that are passed over, since their sources lie behind the target. -/
def passedOver (g : ProcessGraph) (target : String) (sources : List String) : List LogEntry :=
  (sources.filter (g.canReach target ·)).map fun s => ⟨.passedOver s target, g⟩

/-- Flows from some sources were merged into an activity, and those from sources that lie behind it
were passed over. -/
structure Merged (names : List String) (target : String) (sources : List String) (d d' : Draft) :
    Prop where
  rest : d' = { d with
    graph := d'.graph
    log := d.log ++ passedOver d.graph target sources
    additions := d'.additions }
  sound : d'.graph.Sound names
  nodes : d.graph.nodes ⊆ d'.graph.nodes
  leads : ∀ {a b}, d.graph.Leads a b → d'.graph.Leads a b
  into : ∀ {u v}, v ∈ d.graph.ids → v ≠ target →
    ((u, v) ∈ d'.graph.flows ↔ (u, v) ∈ d.graph.flows)
  out_of : ∀ {u v}, u ∈ d.graph.ids → u ∉ sources → (u, v) ∈ d'.graph.flows →
    ∃ w, (u, w) ∈ d.graph.flows
  merged : ∀ s ∈ sources, ¬ d.graph.Leads target s → d'.graph.Leads s target
  rooted : d.graph.Rooted [] → (∀ s ∈ sources, d.graph.Fed [] s) → d'.graph.Rooted []

/-- Nothing is merged if every source lies behind the target. -/
theorem merged_of_filter_eq_nil (hg : d.graph.Sound names)
    (hnone : sources.filter (!d.graph.canReach target ·) = []) :
    Merged names target sources d
      { d with log := d.log ++ passedOver d.graph target sources } where
  rest := rfl
  sound := hg
  nodes := List.Subset.refl _
  leads := id
  into _ _ := Iff.rfl
  out_of _ _ hflow := ⟨_, hflow⟩
  merged s hs hahead := by
    have hback : d.graph.canReach target s = true := by
      simpa using List.filter_eq_nil_iff.mp hnone s hs
    exact absurd (hg.canReach_iff.mp hback) hahead
  rooted hrooted _ := hrooted

/-- The sources that do not lie behind the target are led to it through the join. -/
theorem merged_of_reroutes {node : Node} (hg : d.graph.Sound names) (hfresh : node.id ∉ d.graph.ids)
    (hentered : ∃ u, (u, target) ∈ d.graph.flows)
    (hroute : Reroutes names node
      (d.graph.incoming target ++ sources.filter (!d.graph.canReach target ·)) [target]
      { d with log := d.log ++ passedOver d.graph target sources } d') :
    Merged names target sources d d' where
  rest := hroute.rest
  sound := hroute.sound
  nodes := hroute.rerouted.nodes_subset
  leads := hroute.rerouted.leads
  into := by
    intro u v hv hne
    refine hroute.rerouted.detour.mem_iff_of_notMem_targets (by simpa using hne) ?_
    rintro rfl
    exact hfresh hv
  out_of := by
    intro u v hu hsource hflow
    -- a node that lost its flow to the target fed it before
    rcases (hroute.rerouted.detour u v).mp hflow with hold | ⟨hfeeder, -⟩ | ⟨rfl, -⟩
    · exact ⟨v, hold.1⟩
    · rcases List.mem_append.mp hfeeder with hfeeder | hfeeder
      · exact ⟨target, mem_incoming.mp hfeeder⟩
      · exact absurd (List.mem_of_mem_filter hfeeder) hsource
    · exact absurd hu hfresh
  merged := by
    intro s hs hahead
    refine hroute.rerouted.detour.leads_across (List.mem_append_right _ ?_) (.head _)
    rw [List.mem_filter, Bool.not_eq_true', ← Bool.not_eq_true, hg.canReach_iff]
    exact ⟨hs, hahead⟩
  rooted := by
    intro hrooted hfed
    obtain ⟨u, hu⟩ := hentered
    refine hroute.rerouted.rooted hrooted (fun s hs => ?_) fun _ =>
      List.ne_nil_of_mem (List.mem_append_left _ (mem_incoming.mpr hu))
    rcases List.mem_append.mp hs with hs | hs
    · exact hrooted (mem_incoming.mp hs)
    · exact hfed s (List.mem_of_mem_filter hs)

theorem yields_mergeInto (hg : d.graph.Sound names)
    (hmerge : Mergeable names d.graph target sources) :
    Yields (mergeInto plan target sources) d fun _ d' => Merged names target sources d d' := by
  obtain ⟨feeder, hfeeder⟩ := hmerge.entered
  have hahead : ∀ s ∈ sources.filter (!d.graph.canReach target ·), ¬ d.graph.Leads target s := by
    intro s hs hback
    have hblocked := (List.mem_filter.mp hs).2
    rw [hg.canReach_iff.mpr hback] at hblocked
    exact absurd hblocked (by decide)
  have hroute := (hmerge.filter (!d.graph.canReach target ·)).reroutable hg hahead
  simp only [mergeInto, yields_bind, yields_graph]
  refine (yields_recordAll _ (SynthesisStep.passedOver · target)).mono fun _ d₁ hd₁ => ?_
  subst hd₁
  split
  · rename_i hnone
    exact merged_of_filter_eq_nil hg hnone
  · rename_i hnone _
    exact absurd hfeeder (incoming_eq_nil.mp hnone feeder)
  · generalize plan.relations.gatewayKind _ = kind
    let noted : Draft := { d with log := d.log ++ passedOver d.graph target sources }
    have hjoin := fun (join : String) (hfresh : join ∉ d.graph.ids) =>
      have hsite : Site names (gatewayNode kind joinRole join)
          (d.graph.incoming target ++ sources.filter (!d.graph.canReach target ·)) [target]
          noted.graph := ⟨hg, hfresh, hroute⟩
      (yields_joinInFront hsite (List.subset_append_left _ _) (feeds_orReport join)).mono
        fun _ d' hdone => merged_of_reroutes hg hfresh hmerge.entered hdone
    -- the join is called by the first source or by the target, which makes no difference
    split <;> exact yields_bind.mpr (yields_gatewayId hjoin)

end ActivityMatrix.Drafting
