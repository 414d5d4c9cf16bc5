import ActivityMatrix.Proofs.ProcessGraph.Rerouting
import ActivityMatrix.Proofs.Synthesis.Yields

/-!
# Loops that lead flows through a gateway

The steps of a synthesis that put a gateway between sources and targets differ in the order of their
changes: some remove all flows first, some move one flow after the other, some add the last flow as
a connection. Each of these loops takes a draft that is `Halfway` to one that is further on, and
leaves everything but the graph alone. What such a step has done in the end is `Reroutes`.
-/

namespace ActivityMatrix.Drafting

open ProcessGraph

variable {names : List String} {node : Node} {sources targets fed reached members : List String}
  {gone : List Flow} {d₀ d : Draft} {s t target : String}

/-- A step led the flows from the sources to the targets through a new node, and did nothing
else. -/
structure Reroutes (names : List String) (node : Node) (sources targets : List String)
    (d d' : Draft) : Prop where
  rest : d' = { d with graph := d'.graph, additions := d'.additions }
  sound : d'.graph.Sound names
  rerouted : Rerouted node sources targets d.graph d'.graph

/-- A step that leads flows through a new node is under way. -/
structure Halfway (names : List String) (node : Node) (gone : List Flow)
    (fed reached : List String) (d d' : Draft) : Prop where
  rest : d' = { d with graph := d'.graph, additions := d'.additions }
  midway : Midway names node gone fed reached d.graph d'.graph

/-- Where a new gateway can be put. -/
structure Site (names : List String) (node : Node) (sources targets : List String)
    (g : ProcessGraph) : Prop where
  sound : g.Sound names
  fresh : node.id ∉ g.ids
  route : Reroutable names g sources targets

theorem Site.gate {g : ProcessGraph} (h : Site names node sources targets g) :
    node.id ∉ startEventId :: endEventId :: names :=
  fun hmem => h.fresh (h.sound.known _ hmem)

theorem Halfway.reroutes (h : Halfway names node gone sources targets d₀ d)
    (hgone : ∀ a b, (a, b) ∈ d₀.graph.flows →
      ((a, b) ∈ gone ↔ a ∈ sources ∧ b ∈ targets)) :
    Reroutes names node sources targets d₀ d where
  rest := h.rest
  sound := h.midway.sound
  rerouted := h.midway.rerouted hgone

theorem Halfway.unfrozen (h : Halfway names node gone fed reached d₀ d) :
    d.graph.frozen = false :=
  h.midway.sound.unfrozen

/-- The node of a new gateway is what it should be. -/
theorem fits_gatewayNode {g : ProcessGraph} {kind : GatewayKind} {role id : String}
    (h : g.Sound names) (hfresh : id ∉ g.ids) (hrole : role = splitRole ∨ role = joinRole) :
    (gatewayNode kind role id).Fits names := by
  refine ⟨?_, fun hmem => hfresh (h.known id hmem)⟩
  simpa [gatewayNode] using hrole

/-- A new gateway comes first. -/
theorem yields_addGateway_halfway {kind : GatewayKind} {role id : String} (h : d.graph.Sound names)
    (hfresh : id ∉ d.graph.ids) (hrole : role = splitRole ∨ role = joinRole) :
    Yields (addGateway kind role id) d fun _ d' =>
      Halfway names (gatewayNode kind role id) [] [] [] d d' := by
  refine yields_addGateway h.unfrozen hfresh ?_
  exact ⟨rfl, midway_insertNode h hfresh (fits_gatewayNode h hfresh hrole)⟩

/-! ## Removing flows -/

/-- Flows between other nodes are removed, one for each member of a list. -/
theorem yields_removeFlows (flow : String → Flow) (h : Halfway names node gone fed reached d₀ d)
    (hends : ∀ member ∈ members, (flow member).1 ≠ node.id ∧ (flow member).2 ≠ node.id) :
    Yields (members.forM fun member => do let _ ← removeFlow (flow member).1 (flow member).2) d
      fun _ d' => Halfway names node (gone ++ members.map flow) fed reached d₀ d' := by
  refine yields_forM
    (fun done d' => Halfway names node (gone ++ done.map flow) fed reached d₀ d')
    (by simpa using h) ?_
  intro done member rest d hsplit h
  obtain ⟨hsource, htarget⟩ := hends member (by simp [hsplit])
  refine yields_bind.mpr (yields_removeFlow h.unfrozen ?_)
  rw [List.map_append, ← List.append_assoc]
  exact ⟨by rw [h.rest], h.midway.delete hsource htarget⟩

/-! ## Feeding the gateway -/

/-- A step adds a flow into a node where the guard lets it pass. -/
def Feeds (id : String) (body : String → Drafting Unit) : Prop :=
  ∀ source d, d.graph.frozen = false → d.graph.canAddFlow source id = true →
    Yields (body source) d fun _ d' => d' = { d with graph := d.graph.insertFlow source id }

theorem feeds_addFlow (id : String) :
    Feeds id (fun source => do let _ ← addFlow source id) := by
  intro source d hopen hadd
  exact yields_bind.mpr (yields_addFlow_of_canAddFlow hopen hadd rfl)

theorem feeds_orReport (id : String) : Feeds id (fun source => do
    if !(← addFlow source id) then diagnose (.cannotFeed source id)) := by
  intro source d hopen hadd
  exact yields_bind.mpr (yields_addFlow_of_canAddFlow hopen hadd rfl)

variable (hsite : Site names node sources targets d₀.graph)
include hsite

/-- One source more. -/
theorem Halfway.feed (h : Halfway names node gone fed reached d₀ d) (hs : s ∈ sources)
    (hnew : s ∉ fed) (hreached : reached ⊆ targets)
    (hgone : s ∈ names → ∀ t ∈ targets, (s, t) ∈ d₀.graph.flows → (s, t) ∈ gone) :
    d.graph.canAddFlow s node.id = true ∧ Halfway names node gone (fed ++ [s]) reached d₀
      { d with graph := d.graph.insertFlow s node.id } := by
  obtain ⟨hadd, hmidway⟩ := h.midway.insert_source hsite.sound hsite.fresh hsite.route hsite.gate
    hs hnew hreached hgone
  exact ⟨hadd, by rw [h.rest], hmidway⟩

/-- One target more. -/
theorem Halfway.reach (h : Halfway names node gone fed reached d₀ d) (ht : t ∈ targets)
    (hnew : t ∉ reached) (hfed : fed ⊆ sources)
    (hgone : t ∈ names → ∀ s ∈ sources, (s, t) ∈ d₀.graph.flows → (s, t) ∈ gone) :
    d.graph.canAddFlow node.id t = true ∧ Halfway names node gone fed (reached ++ [t]) d₀
      { d with graph := d.graph.insertFlow node.id t } := by
  obtain ⟨hadd, hmidway⟩ := h.midway.insert_target hsite.sound hsite.fresh hsite.route hsite.gate
    ht hnew hfed hgone
  exact ⟨hadd, by rw [h.rest], hmidway⟩

theorem source_ne (hs : s ∈ sources) : s ≠ node.id :=
  fun heq => hsite.fresh (heq ▸ hsite.route.source_mem s hs)

theorem target_ne (ht : t ∈ targets) : t ≠ node.id :=
  fun heq => hsite.fresh (heq ▸ hsite.route.target_mem t ht)

/-- All sources, after their flows to the targets are gone. -/
theorem yields_feedAll {body : String → Drafting Unit} (hbody : Feeds node.id body)
    (h : Halfway names node gone [] reached d₀ d) (hreached : reached ⊆ targets)
    (hgone : ∀ s ∈ sources, s ∈ names → ∀ t ∈ targets,
      (s, t) ∈ d₀.graph.flows → (s, t) ∈ gone) :
    Yields (sources.forM body) d fun _ d' =>
      Halfway names node gone sources reached d₀ d' := by
  refine yields_forM (fun done d' => Halfway names node gone done reached d₀ d') h ?_
  intro done member rest d hsplit h
  have hmember : member ∈ sources := by simp [hsplit]
  have hnew : member ∉ done := notMem_of_nodup_split hsite.route.nodup_sources hsplit
  obtain ⟨hadd, hnext⟩ := h.feed hsite hmember hnew hreached (hgone member hmember)
  refine (hbody member d h.unfrozen hadd).mono fun _ d' hd' => ?_
  exact hd' ▸ hnext

/-- All sources, each after its flow to the only target is gone. -/
theorem yields_moveAll_into {body : String → Drafting Unit} (hbody : Feeds node.id body)
    (h : Halfway names node [] [] [] d₀ d) (htargets : targets ⊆ [target])
    (hne : target ≠ node.id) :
    Yields (sources.forM fun source => do let _ ← removeFlow source target; body source) d
      fun _ d' => Halfway names node (sources.map (·, target)) sources [] d₀ d' := by
  refine yields_forM
    (fun done d' => Halfway names node (done.map (·, target)) done [] d₀ d') h ?_
  intro done member rest d hsplit h
  have hmember : member ∈ sources := by simp [hsplit]
  have hnew : member ∉ done := notMem_of_nodup_split hsite.route.nodup_sources hsplit
  refine yields_bind.mpr (yields_removeFlow h.unfrozen ?_)
  have hremoved : Halfway names node ((done ++ [member]).map (·, target)) done [] d₀
      { d with graph := d.graph.deleteFlow member target } := by
    rw [List.map_append]
    exact ⟨by rw [h.rest], h.midway.delete (source_ne hsite hmember) hne⟩
  obtain ⟨hadd, hnext⟩ := hremoved.feed hsite hmember hnew (List.nil_subset _)
    fun _ t ht _ => by simp [List.mem_singleton.mp (htargets ht)]
  refine (hbody member _ hremoved.unfrozen hadd).mono fun _ d' hd' => ?_
  exact hd' ▸ hnext

/-! ## Reaching the targets -/

/-- All targets, after their flows from the sources are gone. -/
theorem yields_reachAll (h : Halfway names node gone fed [] d₀ d) (hfed : fed ⊆ sources)
    (hgone : ∀ t ∈ targets, t ∈ names → ∀ s ∈ sources,
      (s, t) ∈ d₀.graph.flows → (s, t) ∈ gone) :
    Yields (targets.forM fun target => do let _ ← addFlow node.id target) d fun _ d' =>
      Halfway names node gone fed targets d₀ d' := by
  refine yields_forM (fun done d' => Halfway names node gone fed done d₀ d') h ?_
  intro done member rest d hsplit h
  have hmember : member ∈ targets := by simp [hsplit]
  have hnew : member ∉ done := notMem_of_nodup_split hsite.route.nodup_targets hsplit
  obtain ⟨hadd, hnext⟩ := h.reach hsite hmember hnew hfed (hgone member hmember)
  exact yields_bind.mpr (yields_addFlow_of_canAddFlow h.unfrozen hadd hnext)

/-! ## Whole rearrangements -/

omit hsite

/-- All flows out of a node, and those to some further targets, are led through a new split. -/
theorem yields_splitBehind {kind : GatewayKind} {split : String}
    (hsite : Site names (gatewayNode kind splitRole split) [s] targets d.graph)
    (htargets : d.graph.outgoing s ⊆ targets) :
    Yields (do
        addGateway kind splitRole split
        (d.graph.outgoing s).forM fun target => do
          let _ ← removeFlow s target
        let _ ← addFlow s split
        targets.forM fun target => do
          let _ ← addFlow split target) d
      fun _ d' => Reroutes names (gatewayNode kind splitRole split) [s] targets d d' := by
  have hends : ∀ target ∈ d.graph.outgoing s, s ≠ split ∧ target ≠ split :=
    fun target hmem => ⟨source_ne hsite (.head _), target_ne hsite (htargets hmem)⟩
  have hgone : ∀ a b, (a, b) ∈ d.graph.flows →
      ((a, b) ∈ [] ++ (d.graph.outgoing s).map (s, ·) ↔ a ∈ [s] ∧ b ∈ targets) := by
    intro a b hab
    simp only [List.nil_append, List.mem_map, Prod.mk.injEq, List.mem_singleton, mem_outgoing]
    constructor
    · rintro ⟨_, hflow, rfl, rfl⟩
      exact ⟨rfl, htargets (mem_outgoing.mpr hflow)⟩
    · rintro ⟨rfl, -⟩
      exact ⟨b, hab, rfl, rfl⟩
  simp only [yields_bind]
  -- the gateway first, then the old flows, then the flow into the split and those out of it
  refine (yields_addGateway_halfway hsite.sound hsite.fresh (.inl rfl)).mono fun _ d₁ h₁ => ?_
  refine (yields_removeFlows (s, ·) h₁ hends).mono fun _ d₂ h₂ => ?_
  obtain ⟨hadd, h₃⟩ := h₂.feed hsite (.head _) List.not_mem_nil (List.nil_subset _)
    fun _ t ht hflow => (hgone s t hflow).mpr ⟨.head _, ht⟩
  refine yields_addFlow_of_canAddFlow h₂.unfrozen hadd ?_
  refine (yields_reachAll hsite h₃ (List.Subset.refl _) fun t ht _ s hs hflow => ?_).mono
    fun _ d' h' => h'.reroutes hgone
  exact (hgone s t hflow).mpr ⟨hs, ht⟩

/-- All flows into a node, and those from some further sources, are led through a new join. -/
theorem yields_joinInFront {kind : GatewayKind} {join : String} {body : String → Drafting Unit}
    (hsite : Site names (gatewayNode kind joinRole join) sources [t] d.graph)
    (hsources : d.graph.incoming t ⊆ sources) (hbody : Feeds join body) :
    Yields (do
        addGateway kind joinRole join
        (d.graph.incoming t).forM fun source => do
          let _ ← removeFlow source t
        sources.forM body
        let _ ← addFlow join t) d
      fun _ d' => Reroutes names (gatewayNode kind joinRole join) sources [t] d d' := by
  have hends : ∀ source ∈ d.graph.incoming t, source ≠ join ∧ t ≠ join :=
    fun source hmem => ⟨source_ne hsite (hsources hmem), target_ne hsite (.head _)⟩
  -- the flows that are removed are those that the rerouting takes away
  have hgone : ∀ a b, (a, b) ∈ d.graph.flows →
      ((a, b) ∈ [] ++ (d.graph.incoming t).map (·, t) ↔ a ∈ sources ∧ b ∈ [t]) := by
    intro a b hab
    simp only [List.nil_append, List.mem_map, Prod.mk.injEq, List.mem_singleton, mem_incoming]
    constructor
    · rintro ⟨_, hflow, rfl, rfl⟩
      exact ⟨hsources (mem_incoming.mpr hflow), rfl⟩
    · rintro ⟨-, rfl⟩
      exact ⟨a, hab, rfl, rfl⟩
  simp only [yields_bind]
  refine (yields_addGateway_halfway hsite.sound hsite.fresh (.inr rfl)).mono fun _ d₁ h₁ => ?_
  refine (yields_removeFlows (·, t) h₁ hends).mono fun _ d₂ h₂ => ?_
  refine (yields_feedAll hsite hbody h₂ (List.nil_subset _) fun s hs _ t ht hflow => ?_).mono
    fun _ d₃ h₃ => ?_
  · exact (hgone s t hflow).mpr ⟨hs, ht⟩
  obtain ⟨hadd, h'⟩ := h₃.reach hsite (.head _) List.not_mem_nil (List.Subset.refl _)
    fun _ s hs hflow => (hgone s t hflow).mpr ⟨hs, .head _⟩
  exact yields_addFlow_of_canAddFlow h₃.unfrozen hadd (h'.reroutes hgone)

end ActivityMatrix.Drafting
