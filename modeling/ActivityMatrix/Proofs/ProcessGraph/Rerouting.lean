import ActivityMatrix.Proofs.Digraph.Detour
import ActivityMatrix.Proofs.ProcessGraph.Sound

/-!
# Leading flows through a new gateway

Nearly every change that a synthesis makes is of one kind: a new gateway is put between some sources
and some targets, the flows between them are removed, and the gateway is connected with all of them.
`Reroutable` says when that is possible, `Rerouted` what has become of the graph. In between the
graph is `Midway`: some flows are gone, and the gateway is connected with some sources and targets.
The guard of the graph refuses none of the new flows, in whatever order they are added
(`Midway.insert_source`, `Midway.insert_target`).
-/

namespace ActivityMatrix.ProcessGraph

open ActivityMatrix.Digraph

variable {names : List String} {g g' g'' : ProcessGraph} {node : Node} {a b s t : String}
  {sources targets fed reached : List String} {gone : List Flow}

/-- The flows from the sources to the targets may be led through a new gateway: a task among the
sources flows into targets only, a task among the targets has its flow from a source, and no target
lies before a source. -/
structure Reroutable (names : List String) (g : ProcessGraph) (sources targets : List String) :
    Prop where
  nodup_sources : sources.Nodup
  nodup_targets : targets.Nodup
  source_mem : ∀ s ∈ sources, s ∈ g.ids
  target_mem : ∀ t ∈ targets, t ∈ g.ids
  source_ne_end : endEventId ∉ sources
  target_ne_start : startEventId ∉ targets
  target_of_source : ∀ s ∈ sources, s ∈ names → ∀ b, (s, b) ∈ g.flows → b ∈ targets
  source_of_target : ∀ t ∈ targets, t ∈ names → ∀ a, (a, t) ∈ g.flows → a ∈ sources
  ne : ∀ s ∈ sources, ∀ t ∈ targets, t ≠ s
  not_leads : ∀ s ∈ sources, ∀ t ∈ targets, ¬ g.Leads t s

/-- The flows from the sources to the targets lead through a new node. -/
structure Rerouted (node : Node) (sources targets : List String) (g g' : ProcessGraph) : Prop where
  nodes : g'.nodes = g.nodes ++ [node]
  detour : IsDetour g.flows g'.flows sources targets node.id

/-- A new gateway is there, some flows are gone, and some sources and targets are connected with the
gateway. -/
structure Midway (names : List String) (node : Node) (gone : List Flow) (fed reached : List String)
    (g g' : ProcessGraph) : Prop where
  sound : g'.Sound names
  nodes : g'.nodes = g.nodes ++ [node]
  mem_flows : ∀ a b, (a, b) ∈ g'.flows ↔ ((a, b) ∈ g.flows ∧ (a, b) ∉ gone) ∨
    (a ∈ fed ∧ b = node.id) ∨ (a = node.id ∧ b ∈ reached)

/-- A gateway that was just added is connected with nothing. -/
theorem midway_insertNode (h : g.Sound names) (hfresh : node.id ∉ g.ids)
    (hfits : node.Fits names) : Midway names node [] [] [] g (g.insertNode node) where
  sound := h.insertNode hfresh hfits
  nodes := rfl
  mem_flows a b := by simp

namespace Midway

variable (h : Midway names node gone fed reached g g')
include h

theorem mem_ids : a ∈ g'.ids ↔ a ∈ g.ids ∨ a = node.id := by
  simp [ids, h.nodes]

/-- A flow between other nodes was there before. -/
theorem mem_flows_of_ne (ha : a ≠ node.id) (hb : b ≠ node.id) (hab : (a, b) ∈ g'.flows) :
    (a, b) ∈ g.flows := by
  rcases (h.mem_flows a b).mp hab with hab | ⟨-, rfl⟩ | ⟨rfl, -⟩
  · exact hab.1
  · exact absurd rfl hb
  · exact absurd rfl ha

/-- A path between other nodes was there before, unless it runs through the gateway. -/
theorem leads_or_leads_via (ha : a ≠ node.id) (hb : b ≠ node.id) (hab : g'.Leads a b) :
    g.Leads a b ∨ g'.Leads a node.id := by
  induction hab with
  | single hab => exact .inl (.single (h.mem_flows_of_ne ha hb hab))
  | @tail b c hab hbc ih =>
      by_cases hmid : b = node.id
      · exact .inr (hmid ▸ hab)
      · exact (ih hmid).imp_left fun hab => hab.tail (h.mem_flows_of_ne hmid hb hbc)

/-- Removing a flow between other nodes. -/
theorem delete (hs : s ≠ node.id) (ht : t ≠ node.id) :
    Midway names node (gone ++ [(s, t)]) fed reached g (g'.deleteFlow s t) where
  sound := h.sound.deleteFlow s t
  nodes := h.nodes
  mem_flows a b := by
    rw [mem_flows_deleteFlow, h.mem_flows a b]
    simp only [List.mem_append, List.mem_singleton, Prod.mk.injEq]
    constructor
    · rintro ⟨hold | hnew | hnew, hne⟩
      · exact .inl ⟨hold.1, by simp [hold.2, hne]⟩
      · exact .inr (.inl hnew)
      · exact .inr (.inr hnew)
    · rintro (⟨hold, hgone⟩ | ⟨ha, rfl⟩ | ⟨rfl, hb⟩)
      · exact ⟨.inl ⟨hold, fun h => hgone (.inl h)⟩, fun h => hgone (.inr h)⟩
      · exact ⟨.inr (.inl ⟨ha, rfl⟩), fun heq => ht heq.2.symm⟩
      · exact ⟨.inr (.inr ⟨rfl, hb⟩), fun heq => hs heq.1.symm⟩

/-- Connecting a source with the gateway. -/
theorem feed (hadd : g'.canAddFlow s node.id = true) (hs : s ≠ endEventId)
    (hstart : node.id ≠ startEventId) :
    Midway names node gone (fed ++ [s]) reached g (g'.insertFlow s node.id) where
  sound := h.sound.insertFlow hadd hs hstart
  nodes := h.nodes
  mem_flows a b := by
    rw [mem_flows_insertFlow, h.mem_flows a b, List.mem_append, List.mem_singleton]
    tauto

/-- Connecting the gateway with a target. -/
theorem reach (hadd : g'.canAddFlow node.id t = true) (ht : t ≠ startEventId)
    (hend : node.id ≠ endEventId) :
    Midway names node gone fed (reached ++ [t]) g (g'.insertFlow node.id t) where
  sound := h.sound.insertFlow hadd hend ht
  nodes := h.nodes
  mem_flows a b := by
    rw [mem_flows_insertFlow, h.mem_flows a b, List.mem_append, List.mem_singleton]
    tauto

variable (hg : g.Sound names) (hfresh : node.id ∉ g.ids)
include hg hfresh

theorem source_mem_iff : (a, node.id) ∈ g'.flows ↔ a ∈ fed := by
  have hold : (a, node.id) ∉ g.flows := fun hflow => hfresh (hg.target_mem hflow)
  constructor
  · intro hflow
    rcases (h.mem_flows a node.id).mp hflow with hflow | hfed | ⟨rfl, -⟩
    · exact absurd hflow.1 hold
    · exact hfed.1
    · exact absurd rfl (h.sound.ne_of_mem hflow)
  · exact fun hfed => (h.mem_flows a node.id).mpr (.inr (.inl ⟨hfed, rfl⟩))

theorem target_mem_iff : (node.id, b) ∈ g'.flows ↔ b ∈ reached := by
  have hold : (node.id, b) ∉ g.flows := fun hflow => hfresh (hg.source_mem hflow)
  constructor
  · intro hflow
    rcases (h.mem_flows node.id b).mp hflow with hflow | ⟨-, rfl⟩ | hreached
    · exact absurd hflow.1 hold
    · exact absurd rfl (h.sound.ne_of_mem hflow)
    · exact hreached.2
  · exact fun hreached => (h.mem_flows node.id b).mpr (.inr (.inr ⟨rfl, hreached⟩))

variable (hroute : Reroutable names g sources targets)
  (hgate : node.id ∉ startEventId :: endEventId :: names)
include hroute hgate

/-- The guard lets a source feed the gateway, once the flows to the targets are gone. -/
theorem insert_source (hs : s ∈ sources) (hnew : s ∉ fed) (hreached : reached ⊆ targets)
    (hgone : s ∈ names → ∀ t ∈ targets, (s, t) ∈ g.flows → (s, t) ∈ gone) :
    g'.canAddFlow s node.id = true ∧
      Midway names node gone (fed ++ [s]) reached g (g'.insertFlow s node.id) := by
  have hmem := hroute.source_mem s hs
  have hne : s ≠ node.id := fun heq => hfresh (heq ▸ hmem)
  have hend : s ≠ endEventId := fun heq => hroute.source_ne_end (heq ▸ hs)
  simp only [List.mem_cons, not_or] at hgate
  suffices hadd : g'.canAddFlow s node.id = true from ⟨hadd, h.feed hadd hend hgate.1⟩
  refine h.sound.canAddFlow_iff.mpr ⟨h.mem_ids.mpr (.inl hmem), h.mem_ids.mpr (.inr rfl), hne,
    fun hflow => hnew ((h.source_mem_iff hg hfresh).mp hflow), ?_,
    fun hname => absurd hname hgate.2.2, ?_⟩
  · intro hname b hflow
    rcases (h.mem_flows s b).mp hflow with hold | ⟨hfed, -⟩ | ⟨heq, -⟩
    · exact hold.2 (hgone hname b (hroute.target_of_source s hs hname b hold.1) hold.1)
    · exact hnew hfed
    · exact hne heq
  · intro hback
    -- the gateway leads to targets only, and no target lies before a source
    obtain ⟨t, hvt, hts⟩ := hback.exists_first
    have ht := hreached ((h.target_mem_iff hg hfresh).mp hvt)
    have htv : t ≠ node.id := fun heq => hfresh (heq ▸ hroute.target_mem t ht)
    rcases hts with rfl | hts
    · exact hroute.ne _ hs _ ht rfl
    · rcases h.leads_or_leads_via htv hne hts with hts | htv
      · exact hroute.not_leads s hs t ht hts
      · exact h.sound.acyclic _ (htv.head hvt)

/-- The guard lets the gateway reach a target, once the flows from the sources are gone. -/
theorem insert_target (ht : t ∈ targets) (hnew : t ∉ reached) (hfed : fed ⊆ sources)
    (hgone : t ∈ names → ∀ s ∈ sources, (s, t) ∈ g.flows → (s, t) ∈ gone) :
    g'.canAddFlow node.id t = true ∧
      Midway names node gone fed (reached ++ [t]) g (g'.insertFlow node.id t) := by
  have hmem := hroute.target_mem t ht
  have hne : t ≠ node.id := fun heq => hfresh (heq ▸ hmem)
  have hstart : t ≠ startEventId := fun heq => hroute.target_ne_start (heq ▸ ht)
  simp only [List.mem_cons, not_or] at hgate
  suffices hadd : g'.canAddFlow node.id t = true from ⟨hadd, h.reach hadd hstart hgate.2.1⟩
  refine h.sound.canAddFlow_iff.mpr ⟨h.mem_ids.mpr (.inr rfl), h.mem_ids.mpr (.inl hmem), hne.symm,
    fun hflow => hnew ((h.target_mem_iff hg hfresh).mp hflow),
    fun hname => absurd hname hgate.2.2, ?_, ?_⟩
  · intro hname a hflow
    rcases (h.mem_flows a t).mp hflow with hold | ⟨-, heq⟩ | ⟨-, hreached⟩
    · exact hold.2 (hgone hname a (hroute.source_of_target t ht hname a hold.1) hold.1)
    · exact hne heq
    · exact hnew hreached
  · intro hback
    -- a path from the target to the gateway arrives there from a source
    obtain ⟨s, hts, hsv⟩ :=
      exists_first_arrival (fun a b ha hb hab => h.mem_flows_of_ne ha hb hab) hne hback
    have hs := hfed ((h.source_mem_iff hg hfresh).mp hsv)
    rcases hts with rfl | hts
    · exact hroute.ne _ hs _ ht rfl
    · exact hroute.not_leads s hs t ht hts

end Midway

/-- When everything is gone and connected, the flows are led through the gateway. -/
theorem Midway.rerouted (h : Midway names node gone sources targets g g')
    (hgone : ∀ a b, (a, b) ∈ g.flows → ((a, b) ∈ gone ↔ a ∈ sources ∧ b ∈ targets)) :
    Rerouted node sources targets g g' where
  nodes := h.nodes
  detour a b := by
    rw [h.mem_flows a b]
    refine or_congr_left (and_congr_right fun hab => ?_)
    rw [hgone a b hab]

namespace Rerouted

variable (h : Rerouted node sources targets g g')
include h

theorem mem_ids : a ∈ g'.ids ↔ a ∈ g.ids ∨ a = node.id := by
  simp [ids, h.nodes]

theorem nodes_subset : g.nodes ⊆ g'.nodes := by
  rw [h.nodes]
  exact List.subset_append_left _ _

theorem leads (hab : g.Leads a b) : g'.Leads a b :=
  h.detour.leads hab

/-- A path between nodes of the old graph is no new one, unless it runs from a source to a target that
no path led to. -/
theorem leads_of_leads (hg : g.Sound names) (hfresh : node.id ∉ g.ids) (ha : a ∈ g.ids)
    (hb : b ∈ g.ids) (hcross : ∀ s ∈ sources, ∀ t ∈ targets, (s = a ∨ g.Leads a s) →
      (b = t ∨ g.Leads t b) → g.Leads a b) (hab : g'.Leads a b) : g.Leads a b := by
  have hne : ∀ {c}, c ∈ g.ids → c ≠ node.id := fun hc heq => hfresh (heq ▸ hc)
  rcases h.detour.leads_or_crosses (hg.ends_ne_of_fresh hfresh) (hne ha) (hne hb) hab with hab | ⟨s, hs, t, ht, has, htb⟩
  · exact hab
  · exact hcross s hs t ht has htb

/-- Every node has a flow in, if the gateway has one and so has every node that is no target. -/
theorem exists_into (hsources : sources ≠ []) (ha : a ∈ g'.ids)
    (hold : a ∈ g.ids → a ∉ targets → ∃ u, (u, a) ∈ g.flows) : ∃ u, (u, a) ∈ g'.flows := by
  by_cases hvia : a = node.id
  · obtain ⟨s, hs⟩ := List.exists_mem_of_ne_nil sources hsources
    exact ⟨s, hvia ▸ h.detour.source_mem hs⟩
  · by_cases htarget : a ∈ targets
    · exact ⟨node.id, h.detour.target_mem htarget⟩
    · obtain ⟨u, hu⟩ := hold ((h.mem_ids.mp ha).resolve_right hvia) htarget
      exact ⟨u, (h.detour.mem_iff_of_notMem_targets htarget hvia).mpr hu⟩

theorem exists_out (htargets : targets ≠ []) (ha : a ∈ g'.ids)
    (hold : a ∈ g.ids → a ∉ sources → ∃ v, (a, v) ∈ g.flows) : ∃ v, (a, v) ∈ g'.flows := by
  by_cases hvia : a = node.id
  · obtain ⟨t, ht⟩ := List.exists_mem_of_ne_nil targets htargets
    exact ⟨t, hvia ▸ h.detour.target_mem ht⟩
  · by_cases hsource : a ∈ sources
    · exact ⟨node.id, h.detour.source_mem hsource⟩
    · obtain ⟨v, hv⟩ := hold ((h.mem_ids.mp ha).resolve_right hvia) hsource
      exact ⟨v, (h.detour.mem_iff_of_notMem_sources hsource hvia).mpr hv⟩

/-- Flows that are led through a gateway with a flow in leave no node that they might not leave. -/
theorem rooted {kept : List String} (hg : g.Rooted kept) (hfed : ∀ s ∈ sources, g.Fed kept s)
    (hsources : targets ≠ [] → sources ≠ []) : g'.Rooted kept := by
  intro u v hflow
  rcases (h.detour u v).mp hflow with ⟨hold, -⟩ | ⟨hsource, -⟩ | ⟨rfl, htarget⟩
  · exact (hg hold).of_leads h.leads
  · exact (hfed u hsource).of_leads h.leads
  · obtain ⟨s, hs⟩ := List.exists_mem_of_ne_nil _ (hsources (List.ne_nil_of_mem htarget))
    exact .inr (.inr ⟨s, h.detour.source_mem hs⟩)

/-- A gateway with flows on both sides leaves the graph connected. -/
theorem connected (hg : g.Connected)
    (hsources : sources ≠ []) (htargets : targets ≠ []) : g'.Connected where
  entered id hid hstart := h.exists_into hsources hid fun hold _ => hg.entered id hold hstart
  left id hid hend := h.exists_out htargets hid fun hold _ => hg.left id hold hend

end Rerouted

end ActivityMatrix.ProcessGraph
