import ActivityMatrix.Proofs.Digraph.Order
import ActivityMatrix.Proofs.ProcessGraph.Guarded
import ActivityMatrix.Proofs.Sorting

/-!
# Graphs that can be worked on

A graph is `Workable` if it may be changed, keeps what the guards keep up, and has no cycle, whether or not
it refuses cycles. Every change leaves it so; a new flow must not close a cycle, which the guard sees to
only where cycles are refused (`Workable.canAddFlow_iff`).

What can be done to the flows into a node can be done to the flows out of it. With all its flows turned
round a graph is workable still (`Workable.turned`), and lets a flow pass if and only if it did so the other
way round (`canAddFlow_turned`).
-/

namespace ActivityMatrix.ProcessGraph

open ActivityMatrix.Digraph

variable {g g' : ProcessGraph} {node : Node} {a b s t via : String}

/-- A guarded graph without cycles that may be changed. -/
structure Workable (g : ProcessGraph) : Prop where
  guarded : g.Guarded
  acyclic : Acyclic g.flows
  unfrozen : g.frozen = false

namespace Workable

variable (h : Workable g)
include h

theorem canReach_iff : g.canReach a b = true ↔ g.Leads a b :=
  h.acyclic.canReach_iff

theorem isTask_iff : g.isTask a = true ↔ ∃ node ∈ g.nodes, node.id = a ∧ node.isTask = true :=
  any_node?_iff h.guarded.ids_nodup Node.isTask

/-- No flow touches a node that is not there. -/
theorem ends_ne_of_fresh (hfresh : via ∉ g.ids) (a b : String) (hab : (a, b) ∈ g.flows) :
    a ≠ via ∧ b ≠ via :=
  ⟨fun heq => hfresh (heq ▸ (h.guarded.joins hab).1), fun heq => hfresh (heq ▸ (h.guarded.joins hab).2.1)⟩

/-- A node stays what it is where nodes are only added. -/
theorem isTask_iff_of_subset (h' : Workable g') (hnodes : g.nodes ⊆ g'.nodes) (ha : a ∈ g.ids) :
    g'.isTask a = true ↔ g.isTask a = true := by
  rw [h.isTask_iff, h'.isTask_iff]
  constructor
  · rintro ⟨node, hnode, rfl, htask⟩
    obtain ⟨other, hother, hid⟩ := mem_ids.mp ha
    obtain rfl : other = node :=
      List.inj_on_of_nodup_map h'.guarded.ids_nodup (hnodes hother) hnode hid
    exact ⟨other, hother, rfl, htask⟩
  · rintro ⟨node, hnode, rfl, htask⟩
    exact ⟨node, hnodes hnode, rfl, htask⟩

theorem single_out (htask : g.isTask s = true) (ha : (s, a) ∈ g.flows) (hb : (s, b) ∈ g.flows) :
    a = b := by
  obtain ⟨node, hnode, rfl, hnode'⟩ := h.isTask_iff.mp htask
  exact eq_of_length_le_one (h.guarded.single_out node hnode hnode') (mem_outgoing.mpr ha)
    (mem_outgoing.mpr hb)

theorem single_in (htask : g.isTask t = true) (ha : (a, t) ∈ g.flows) (hb : (b, t) ∈ g.flows) :
    a = b := by
  obtain ⟨node, hnode, rfl, hnode'⟩ := h.isTask_iff.mp htask
  exact eq_of_length_le_one (h.guarded.single_in node hnode hnode') (mem_incoming.mpr ha)
    (mem_incoming.mpr hb)

/-- No path leads back along a flow. -/
theorem ahead_of_mem (hflow : (s, t) ∈ g.flows) : t ≠ s ∧ ¬ g.Leads t s :=
  ⟨(h.acyclic.ne (.single hflow)).symm, h.acyclic.asymm (.single hflow)⟩

/-- The guard of a new flow, in words about flows and paths. -/
theorem canAddFlow_iff : g.canAddFlow s t = true ↔
    s ∈ g.ids ∧ t ∈ g.ids ∧ s ≠ t ∧ (s, t) ∉ g.flows ∧
      (g.isTask s = true → ∀ b, (s, b) ∉ g.flows) ∧ (g.isTask t = true → ∀ a, (a, t) ∉ g.flows) ∧
      (g.acyclic = true → ¬ g.Leads t s) := by
  rw [canAddFlow_iff_guard, outgoing_eq_nil, incoming_eq_nil, h.canReach_iff]

/-! ### Changes -/

theorem insertNode (hfresh : node.id ∉ g.ids) : Workable (g.insertNode node) :=
  { h with guarded := h.guarded.insertNode hfresh }

theorem insertFlow (hadd : g.canAddFlow s t = true) (hback : ¬ g.Leads t s) :
    Workable (g.insertFlow s t) where
  guarded := h.guarded.insertFlow hadd
  acyclic := h.acyclic.append_singleton (h.canAddFlow_iff.mp hadd).2.2.1 hback
  unfrozen := h.unfrozen

theorem deleteFlow (s t : String) : Workable (g.deleteFlow s t) where
  guarded := h.guarded.deleteFlow s t
  acyclic := h.acyclic.mono List.filter_sublist.subset
  unfrozen := h.unfrozen

theorem deleteNode (id : String) : Workable (g.deleteNode id) where
  guarded := h.guarded.deleteNode id
  acyclic := h.acyclic.mono List.filter_sublist.subset
  unfrozen := h.unfrozen

/-- The flow that takes the place of a node with one flow in and one out is not refused. -/
theorem canAddFlow_deleteNode (ha : (a, via) ∈ g.flows) (hb : (via, b) ∈ g.flows)
    (hnew : (a, b) ∉ (g.deleteNode via).flows) : (g.deleteNode via).canAddFlow a b = true := by
  have hacross : g.Leads a b := .head ha (.single hb)
  obtain ⟨hamem, -, hane⟩ := h.guarded.joins ha
  obtain ⟨-, hbmem, hbne⟩ := h.guarded.joins hb
  have htask : ∀ {c}, (g.deleteNode via).isTask c = true → g.isTask c = true := by
    intro c hc
    obtain ⟨node, hnode, hrest⟩ := (h.deleteNode via).isTask_iff.mp hc
    exact h.isTask_iff.mpr ⟨node, List.mem_of_mem_filter hnode, hrest⟩
  refine (h.deleteNode via).canAddFlow_iff.mpr ⟨mem_ids_deleteNode.mpr ⟨hamem, hane⟩,
    mem_ids_deleteNode.mpr ⟨hbmem, hbne.symm⟩, h.acyclic.ne hacross, hnew, ?_, ?_, ?_⟩
  · intro hc c hac
    obtain ⟨hac, -, hne⟩ := mem_flows_deleteNode.mp hac
    exact hne (h.single_out (htask hc) hac ha)
  · intro hc c hcb
    obtain ⟨hcb, hne, -⟩ := mem_flows_deleteNode.mp hcb
    exact hne (h.single_in (htask hc) hcb hb)
  · intro _ hback
    exact h.acyclic.asymm hacross (hback.mono List.filter_sublist.subset)

/-- A workable graph is sound where its nodes and its events are as they should be. -/
theorem sound {names : List String} (hchecked : g.acyclic = true)
    (hfits : ∀ node ∈ g.nodes, node.Fits names)
    (hknown : ∀ id ∈ startEventId :: endEventId :: names, id ∈ g.ids)
    (hinto : ∀ a, (a, startEventId) ∉ g.flows) (hout : ∀ b, (endEventId, b) ∉ g.flows)
    (hstart : startEventId ∉ names) (hend : endEventId ∉ names) : g.Sound names := by
  have htask : ∀ {a}, a ∈ names → g.isTask a = true := by
    intro a ha
    obtain ⟨node, hnode, rfl⟩ := mem_ids.mp (hknown a (by simp [ha]))
    exact h.isTask_iff.mpr ⟨node, hnode, rfl, (hfits node hnode).isTask_iff.mpr ha⟩
  exact
    { checked := hchecked, unfrozen := h.unfrozen, ids_nodup := h.guarded.ids_nodup,
      flows_nodup := h.guarded.flows_nodup, source_mem := fun hab => (h.guarded.joins hab).1,
      target_mem := fun hab => (h.guarded.joins hab).2.1,
      single_out := fun ha hab hac => h.single_out (htask ha) hab hac,
      single_in := fun hc hac hbc => h.single_in (htask hc) hac hbc, acyclic := h.acyclic,
      into_start := hinto, out_of_end := hout, fits := hfits, known := hknown, start_notMem := hstart,
      end_notMem := hend }

end Workable

/-- A graph that may be changed is workable if all its flows lead on in some order of its nodes. -/
theorem workable_of_order (order : List String) (hopen : g.frozen = false) (hids : g.ids.Nodup)
    (hflows : g.flows.Nodup) (hjoins : ∀ flow ∈ g.flows, flow.1 ∈ g.ids ∧ flow.2 ∈ g.ids)
    (hout : ∀ node ∈ g.nodes, node.isTask = true → (g.outgoing node.id).length ≤ 1)
    (hin : ∀ node ∈ g.nodes, node.isTask = true → (g.incoming node.id).length ≤ 1)
    (hall : ∀ id ∈ g.ids, id ∈ order) (hpair : order.Pairwise fun a b => (b, a) ∉ g.flows)
    (hself : ∀ a ∈ order, (a, a) ∉ g.flows) : g.Workable := by
  have hacyclic : Acyclic g.flows := by
    refine acyclic_of_pairwise (fun a b hab => ?_) hpair hself
    exact ⟨hall a (hjoins (a, b) hab).1, hall b (hjoins (a, b) hab).2⟩
  refine ⟨⟨hids, hflows, fun {s t} hst => ?_, hout, hin, fun _ => hacyclic⟩, hacyclic, hopen⟩
  exact ⟨(hjoins (s, t) hst).1, (hjoins (s, t) hst).2, hacyclic.ne (.single hst)⟩

theorem Sound.workable {names : List String} (h : g.Sound names) : g.Workable where
  guarded :=
    { ids_nodup := h.ids_nodup
      flows_nodup := h.flows_nodup
      joins := fun hab => ⟨h.source_mem hab, h.target_mem hab, h.ne_of_mem hab⟩
      single_out := fun node hnode htask => length_le_one (nodup_successors h.flows_nodup node.id)
        fun _ _ hb hc => h.single_out ((h.fits node hnode).isTask_iff.mp htask) (mem_outgoing.mp hb)
          (mem_outgoing.mp hc)
      single_in := fun node hnode htask => length_le_one (nodup_predecessors h.flows_nodup node.id)
        fun _ _ ha hb => h.single_in ((h.fits node hnode).isTask_iff.mp htask) (mem_incoming.mp ha)
          (mem_incoming.mp hb)
      acyclic := fun _ => h.acyclic }
  acyclic := h.acyclic
  unfrozen := h.unfrozen

/-! ## Turned flows -/

/-- The graph with all its flows turned round. -/
def turned (g : ProcessGraph) : ProcessGraph :=
  { g with flows := converse g.flows }

@[simp] theorem mem_flows_turned : (a, b) ∈ g.turned.flows ↔ (b, a) ∈ g.flows :=
  mem_converse

theorem outgoing_turned (g : ProcessGraph) (a : String) : g.turned.outgoing a = g.incoming a :=
  (predecessors_eq_successors_converse g.flows a).symm

theorem turned_turned (g : ProcessGraph) : g.turned.turned = g := by
  simp [turned, converse]

theorem incoming_turned (g : ProcessGraph) (a : String) : g.turned.incoming a = g.outgoing a := by
  rw [← outgoing_turned, turned_turned]

theorem turned_insertFlow (g : ProcessGraph) (s t : String) :
    (g.insertFlow s t).turned = g.turned.insertFlow t s := by
  simp [turned, insertFlow, converse]

theorem turned_deleteFlow (g : ProcessGraph) (s t : String) :
    (g.deleteFlow s t).turned = g.turned.deleteFlow t s := by
  have hflows : (g.deleteFlow s t).turned.flows = (g.turned.deleteFlow t s).flows := by
    simp only [turned, deleteFlow, converse, List.filter_map]
    refine congrArg _ (List.filter_congr fun flow _ => ?_)
    rw [Bool.eq_iff_iff, Function.comp_apply, bne_iff_ne, bne_iff_ne, not_iff_not]
    exact ⟨congrArg Prod.swap, congrArg Prod.swap⟩
  exact congrArg (fun flows => { g with flows }) hflows

theorem leads_turned : g.turned.Leads a b ↔ g.Leads b a :=
  leads_converse

theorem canAddFlow_turned (g : ProcessGraph) (s t : String) :
    g.turned.canAddFlow t s = g.canAddFlow s t := by
  have hreach : g.turned.canReach s t = true ↔ g.canReach t s = true := by
    simp only [canReach, Digraph.canReach_iff, turned, leads_converse]
    exact and_congr_left' ne_comm
  rw [Bool.eq_iff_iff, canAddFlow_iff_guard, canAddFlow_iff_guard, outgoing_turned, incoming_turned,
    hreach, mem_flows_turned, ne_comm (a := t)]
  simp only [turned, ids, isTask, node?]
  tauto

theorem Guarded.turned (h : g.Guarded) : g.turned.Guarded where
  ids_nodup := h.ids_nodup
  flows_nodup := nodup_converse h.flows_nodup
  joins hflow := by
    obtain ⟨ht, hs, hne⟩ := h.joins (mem_flows_turned.mp hflow)
    exact ⟨hs, ht, hne.symm⟩
  single_out node hnode htask := (outgoing_turned g node.id).symm ▸ h.single_in node hnode htask
  single_in node hnode htask := (incoming_turned g node.id).symm ▸ h.single_out node hnode htask
  acyclic hchecked a ha := h.acyclic hchecked a (leads_turned.mp ha)

theorem Workable.turned (h : g.Workable) : g.turned.Workable where
  guarded := h.guarded.turned
  acyclic a ha := h.acyclic a (leads_turned.mp ha)
  unfrozen := h.unfrozen

theorem workable_turned_iff : g.turned.Workable ↔ g.Workable :=
  ⟨fun h => turned_turned g ▸ h.turned, Workable.turned⟩

end ActivityMatrix.ProcessGraph
