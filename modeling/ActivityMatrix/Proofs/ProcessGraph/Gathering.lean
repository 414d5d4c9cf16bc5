import ActivityMatrix.Proofs.Digraph.Detour
import ActivityMatrix.Proofs.ProcessGraph.Workable

/-!
# Gathering flows in front of a node

Flows into a node are gathered by a new gateway: the flows that enter the node are removed, their sources
and some further nodes feed the gateway, and the gateway flows into the node. That can be done in any
workable graph. The guard lets the sources of the removed flows feed the gateway, and any other node that is
no task or has no flow out (`Gathering.canFeed`). In the end it lets the gateway reach the node, unless the
node leads to one that feeds the gateway (`Gathering.canReachTarget`). Until then no path leads out of the
gateway, so the order in which it is fed does not matter. Where nothing but the flows into the node is
gathered, none of them is refused (`Gathering.move`, `Gathering.close`).
-/

namespace ActivityMatrix.ProcessGraph

open ActivityMatrix.Digraph

variable {g g' : ProcessGraph} {gate node : Node} {gone : List Flow} {fed : List String}
  {a b s t target : String}

/-- The flows into a node, told by the sources. -/
theorem mem_map_incoming (hflow : (a, b) ∈ g.flows) : (a, b) ∈ (g.incoming t).map (·, t) ↔ b = t := by
  simp only [List.mem_map, mem_incoming, Prod.mk.injEq]
  constructor
  · rintro ⟨_, -, -, heq⟩
    exact heq.symm
  · rintro rfl
    exact ⟨a, hflow, rfl, rfl⟩

/-- A new gateway is there, some flows are gone, and some nodes feed the gateway. -/
structure Gathering (gate : Node) (gone : List Flow) (fed : List String) (g g' : ProcessGraph) :
    Prop where
  workable : g'.Workable
  checks : g'.acyclic = g.acyclic
  nodes : g'.nodes = g.nodes ++ [gate]
  mem_flows : ∀ a b, (a, b) ∈ g'.flows ↔
    ((a, b) ∈ g.flows ∧ (a, b) ∉ gone) ∨ (a ∈ fed ∧ b = gate.id)

/-- A gateway that was just added is fed by nothing. -/
theorem gathering_insertNode (h : g.Workable) (hfresh : gate.id ∉ g.ids) :
    Gathering gate [] [] g (g.insertNode gate) where
  workable := h.insertNode hfresh
  checks := rfl
  nodes := rfl
  mem_flows a b := by simp

namespace Gathering

section

variable (h : Gathering gate gone fed g g')
include h

theorem mem_ids : a ∈ g'.ids ↔ a ∈ g.ids ∨ a = gate.id := by
  simp [ids, h.nodes]

theorem nodes_subset : g.nodes ⊆ g'.nodes := by
  rw [h.nodes]
  exact List.subset_append_left _ _

/-- One flow of the old graph less. -/
theorem delete (ht : t ∈ g.ids) (hfresh : gate.id ∉ g.ids) :
    Gathering gate (gone ++ [(s, t)]) fed g (g'.deleteFlow s t) where
  workable := h.workable.deleteFlow s t
  checks := h.checks
  nodes := h.nodes
  mem_flows a b := by
    have hgate : b = gate.id → ¬ (a = s ∧ b = t) := fun hb heq => hfresh (hb ▸ heq.2 ▸ ht)
    rw [mem_flows_deleteFlow, h.mem_flows a b, List.mem_append, List.mem_singleton, Prod.mk.injEq]
    tauto

theorem isTask_gate (hgate : gate.isTask = false) : g'.isTask gate.id = false := by
  rw [← Bool.not_eq_true, h.workable.isTask_iff]
  rintro ⟨node, hnode, hid, htask⟩
  have hmem : gate ∈ g'.nodes := by simp [h.nodes]
  obtain rfl := List.inj_on_of_nodup_map h.workable.guarded.ids_nodup hnode hmem hid
  rw [hgate] at htask
  cases htask

variable (hg : g.Workable) (hfresh : gate.id ∉ g.ids)
include hg hfresh

/-- No flow leaves the gateway yet. -/
theorem out_of_gate (b : String) : (gate.id, b) ∉ g'.flows := by
  intro hflow
  rcases (h.mem_flows gate.id b).mp hflow with hold | ⟨-, rfl⟩
  · exact hfresh (hg.guarded.joins hold.1).1
  · exact (h.workable.guarded.joins hflow).2.2 rfl

theorem not_leads_gate (b : String) : ¬ g'.Leads gate.id b := fun hleads => by
  obtain ⟨c, hflow, -⟩ := hleads.exists_first
  exact h.out_of_gate hg hfresh c hflow

theorem feeds_iff : (a, gate.id) ∈ g'.flows ↔ a ∈ fed := by
  rw [h.mem_flows]
  constructor
  · rintro (hold | hfed)
    · exact absurd (hg.guarded.joins hold.1).2.1 hfresh
    · exact hfed.1
  · exact fun hfed => .inr ⟨hfed, rfl⟩

/-- One feeder more. -/
theorem feed (hadd : g'.canAddFlow s gate.id = true) :
    Gathering gate gone (fed ++ [s]) g (g'.insertFlow s gate.id) where
  workable := h.workable.insertFlow hadd (h.not_leads_gate hg hfresh s)
  checks := h.checks
  nodes := h.nodes
  mem_flows a b := by
    rw [mem_flows_insertFlow, h.mem_flows a b, List.mem_append, List.mem_singleton]
    tauto

/-- Any node that does not feed the gateway yet may do so, unless it is a task with a flow out that is
not gone. -/
theorem canFeed (hgate : gate.isTask = false) (hs : s ∈ g.ids) (hnew : s ∉ fed) :
    g'.canAddFlow s gate.id = true ↔
      (g.isTask s = true → ∀ b, (s, b) ∈ g.flows → (s, b) ∈ gone) := by
  have htask := hg.isTask_iff_of_subset h.workable h.nodes_subset hs
  have hgate' := h.isTask_gate hgate
  have hout : (∀ b, (s, b) ∉ g'.flows) ↔ ∀ b, (s, b) ∈ g.flows → (s, b) ∈ gone := by
    simp only [h.mem_flows, hnew, false_and, or_false, not_and, not_not]
  rw [h.workable.canAddFlow_iff, htask, hout, hgate', h.feeds_iff hg hfresh]
  constructor
  · exact fun hadd => hadd.2.2.2.2.1
  · exact fun hfree => ⟨h.mem_ids.mpr (.inl hs), h.mem_ids.mpr (.inr rfl),
      fun heq => hfresh (heq ▸ hs), hnew, hfree, fun hfalse => absurd hfalse (by decide),
      fun _ => h.not_leads_gate hg hfresh s⟩

/-- A node leads to the gateway only through those that feed it. -/
theorem target_not_leads (htarget : target ∈ g.ids)
    (hahead : ∀ s ∈ fed, target ≠ s ∧ ¬ g.Leads target s) : ¬ g'.Leads target gate.id := by
  intro hback
  have hne : target ≠ gate.id := fun heq => hfresh (heq ▸ htarget)
  have hmore : ∀ a b, a ≠ gate.id → b ≠ gate.id → (a, b) ∈ g'.flows → (a, b) ∈ g.flows :=
    fun a b _ hb hflow => (((h.mem_flows a b).mp hflow).resolve_right fun hfed => hb hfed.2).1
  -- a path from the node to the gateway arrives there from a node that feeds it
  obtain ⟨s, hts, hs⟩ := exists_first_arrival hmore hne hback
  obtain ⟨hself, hleads⟩ := hahead s ((h.feeds_iff hg hfresh).mp hs)
  exact hts.elim (fun heq => hself heq.symm) hleads

/-- Once the flows into a node are gone, the gateway may flow into it, if the node leads to none of those
that feed the gateway. -/
theorem canReachTarget (hgate : gate.isTask = false) (htarget : target ∈ g.ids)
    (hgone : ∀ a, (a, target) ∈ g.flows → (a, target) ∈ gone)
    (hahead : ∀ s ∈ fed, target ≠ s ∧ ¬ g.Leads target s) :
    g'.canAddFlow gate.id target = true := by
  have hne : target ≠ gate.id := fun heq => hfresh (heq ▸ htarget)
  have hnone : ∀ a, (a, target) ∉ g'.flows := fun a hflow => by
    rcases (h.mem_flows a target).mp hflow with hold | ⟨-, heq⟩
    · exact hold.2 (hgone a hold.1)
    · exact hne heq
  refine h.workable.canAddFlow_iff.mpr ⟨h.mem_ids.mpr (.inr rfl), h.mem_ids.mpr (.inl htarget), hne.symm,
    h.out_of_gate hg hfresh target, fun htask => ?_, fun _ => hnone,
    fun _ => h.target_not_leads hg hfresh htarget hahead⟩
  rw [h.isTask_gate hgate] at htask
  cases htask

omit hg hfresh in
/-- When the gateway reaches the node, the flows of those that feed it lead through the gateway. -/
theorem isDetour (hgone : ∀ a b, (a, b) ∈ g.flows → ((a, b) ∈ gone ↔ b = target))
    (hfed : ∀ a, (a, target) ∈ g.flows → a ∈ fed) :
    IsDetour g.flows (g'.insertFlow gate.id target).flows fed [target] gate.id := by
  intro a b
  rw [mem_flows_insertFlow, h.mem_flows a b, List.mem_singleton, or_assoc]
  refine or_congr (and_congr_right fun hflow => ?_) Iff.rfl
  rw [hgone a b hflow, not_iff_not]
  exact ⟨fun heq => ⟨hfed a (heq ▸ hflow), heq⟩, fun hboth => hboth.2⟩

end

/-! ### Moving all flows -/

variable (hg : g.Workable) (hfresh : gate.id ∉ g.ids)
include hg hfresh

/-- One more flow into the node is moved to the gateway. -/
theorem move (h : Gathering gate (fed.map (·, target)) fed g g') (hgate : gate.isTask = false)
    (hflow : (s, target) ∈ g.flows) (hnew : s ∉ fed) :
    (g'.deleteFlow s target).canAddFlow s gate.id = true ∧
      Gathering gate ((fed ++ [s]).map (·, target)) (fed ++ [s]) g
        ((g'.deleteFlow s target).insertFlow s gate.id) := by
  obtain ⟨hs, htarget, -⟩ := hg.guarded.joins hflow
  have hdeleted : Gathering gate ((fed ++ [s]).map (·, target)) fed g (g'.deleteFlow s target) := by
    rw [List.map_append]
    exact h.delete htarget hfresh
  have hadd : (g'.deleteFlow s target).canAddFlow s gate.id = true := by
    refine (hdeleted.canFeed hg hfresh hgate hs hnew).mpr fun htask b hb => ?_
    rw [hg.single_out htask hb hflow]
    exact List.mem_map_of_mem (by simp)
  exact ⟨hadd, hdeleted.feed hg hfresh hadd⟩

/-- When all flows are moved, the gateway may flow into the node. -/
theorem close (h : Gathering gate ((g.incoming target).map (·, target)) (g.incoming target) g g')
    (hgate : gate.isTask = false) (htarget : target ∈ g.ids) :
    g'.canAddFlow gate.id target = true ∧ (g'.insertFlow gate.id target).Workable ∧
      IsDetour g.flows (g'.insertFlow gate.id target).flows (g.incoming target) [target] gate.id := by
  have hbehind : ∀ s ∈ g.incoming target, target ≠ s ∧ ¬ g.Leads target s :=
    fun s hs => hg.ahead_of_mem (mem_incoming.mp hs)
  have hadd : g'.canAddFlow gate.id target = true :=
    h.canReachTarget hg hfresh hgate htarget
      (fun a ha => List.mem_map_of_mem (mem_incoming.mpr ha)) hbehind
  refine ⟨hadd, h.workable.insertFlow hadd (h.target_not_leads hg hfresh htarget hbehind), ?_⟩
  exact h.isDetour (fun _ _ => mem_map_incoming) fun a ha => mem_incoming.mpr ha

end Gathering

/-- A detour between turned flows is one between the flows. -/
theorem isDetour_of_turned {sources targets : List String} {via : String}
    (h : IsDetour g.turned.flows g'.turned.flows targets sources via) :
    IsDetour g.flows g'.flows sources targets via := by
  have hturned (g : ProcessGraph) : converse g.turned.flows = g.flows := congrArg flows (turned_turned g)
  exact hturned g ▸ hturned g' ▸ h.converse

end ActivityMatrix.ProcessGraph
