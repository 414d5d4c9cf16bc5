import ActivityMatrix.Proofs.ProcessGraph.Sound

/-!
# What the guards of a graph keep up

Whatever is added to a graph and removed from it, the guard of a new flow sees to it that flows join two
different nodes of the graph, that no task has two flows in or two flows out, and that no cycle is closed
where cycles are refused (`Guarded`). The guard is exact: it lets a flow pass if and only if the flow is
new and the graph with the flow is guarded again (`Guarded.canAddFlow_iff`).
-/

namespace ActivityMatrix.ProcessGraph

open ActivityMatrix.Digraph

variable {g : ProcessGraph} {a b s t id : String} {node : Node}

/-! ## Neighbours after a change -/

theorem outgoing_insertFlow (g : ProcessGraph) (s t a : String) :
    (g.insertFlow s t).outgoing a = g.outgoing a ++ if s = a then [t] else [] :=
  successors_append_singleton g.flows s t a

theorem incoming_insertFlow (g : ProcessGraph) (s t b : String) :
    (g.insertFlow s t).incoming b = g.incoming b ++ if t = b then [s] else [] :=
  predecessors_append_singleton g.flows s t b

theorem flows_deleteFlow (g : ProcessGraph) (s t : String) :
    (g.deleteFlow s t).flows = g.flows.filter (· ≠ (s, t)) :=
  List.filter_congr fun flow _ => by rw [Bool.eq_iff_iff, bne_iff_ne, decide_eq_true_iff]

theorem deleteFlow_of_notMem (h : (s, t) ∉ g.flows) : g.deleteFlow s t = g := by
  have hflows : (g.deleteFlow s t).flows = g.flows := by
    rw [flows_deleteFlow, List.filter_eq_self]
    exact fun flow hflow => decide_eq_true fun heq => h (heq ▸ hflow)
  exact congrArg (fun flows => { g with flows }) hflows

theorem outgoing_deleteFlow (h : g.flows.Nodup) (s t a : String) :
    (g.deleteFlow s t).outgoing a = if a = s then (g.outgoing s).erase t else g.outgoing a := by
  rw [outgoing, flows_deleteFlow, successors_filter_ne h]
  rfl

theorem incoming_deleteFlow (h : g.flows.Nodup) (s t b : String) :
    (g.deleteFlow s t).incoming b = if b = t then (g.incoming t).erase s else g.incoming b := by
  rw [incoming, flows_deleteFlow, predecessors_filter_ne h]
  rfl

/-- The graph without some flows. -/
def deleteFlows (g : ProcessGraph) (gone : List Flow) : ProcessGraph :=
  { g with flows := g.flows.filter (· ∉ gone) }

theorem deleteFlows_nil (g : ProcessGraph) : g.deleteFlows [] = g := by
  simp [deleteFlows]

theorem deleteFlows_deleteFlow (g : ProcessGraph) (s t : String) (gone : List Flow) :
    (g.deleteFlow s t).deleteFlows gone = g.deleteFlows ((s, t) :: gone) := by
  have hflows : ((g.deleteFlow s t).deleteFlows gone).flows = (g.deleteFlows ((s, t) :: gone)).flows := by
    rw [deleteFlows, flows_deleteFlow, deleteFlows, List.filter_filter]
    exact List.filter_congr fun flow _ => by simp [Bool.and_comm]
  exact congrArg (fun flows => { g with flows }) hflows

theorem mem_flows_deleteFlows {gone : List Flow} {flow : Flow} :
    flow ∈ (g.deleteFlows gone).flows ↔ flow ∈ g.flows ∧ flow ∉ gone := by
  rw [deleteFlows, List.mem_filter, decide_eq_true_iff]

/-- Flows that touch a node are removed with it. -/
theorem deleteNode_deleteFlows {gone : List Flow} (h : ∀ flow ∈ gone, flow.1 = id ∨ flow.2 = id) :
    (g.deleteFlows gone).deleteNode id = g.deleteNode id := by
  have hflows : ((g.deleteFlows gone).deleteNode id).flows = (g.deleteNode id).flows := by
    rw [deleteNode, deleteFlows, deleteNode, List.filter_filter]
    refine List.filter_congr fun flow _ => ?_
    by_cases hgone : flow ∈ gone
    · rcases h flow hgone with heq | heq <;> simp [heq]
    · simp [hgone]
  exact congrArg (fun flows => { g.deleteNode id with flows }) hflows

/-! ## Guarded graphs -/

/-- What the guards of a graph keep up: ids and flows are listed once, flows join two different nodes of
the graph, tasks have at most one flow in and one out, and a graph that is to stay acyclic is acyclic. -/
structure Guarded (g : ProcessGraph) : Prop where
  ids_nodup : g.ids.Nodup
  flows_nodup : g.flows.Nodup
  joins : ∀ {s t}, (s, t) ∈ g.flows → s ∈ g.ids ∧ t ∈ g.ids ∧ s ≠ t
  single_out : ∀ node ∈ g.nodes, node.isTask = true → (g.outgoing node.id).length ≤ 1
  single_in : ∀ node ∈ g.nodes, node.isTask = true → (g.incoming node.id).length ≤ 1
  acyclic : g.acyclic = true → Acyclic g.flows

theorem guarded_empty (acyclic : Bool) : Guarded { acyclic } where
  ids_nodup := List.nodup_nil
  flows_nodup := List.nodup_nil
  joins h := absurd h List.not_mem_nil
  single_out _ h := absurd h List.not_mem_nil
  single_in _ h := absurd h List.not_mem_nil
  acyclic _ := acyclic_nil

namespace Guarded

variable (h : Guarded g)
include h

theorem freeze : Guarded g.freeze :=
  { h with }

/-- A node without flows may be added, whatever it is. -/
theorem insertNode (hfresh : node.id ∉ g.ids) : Guarded (g.insertNode node) where
  ids_nodup := by
    rw [ids, ProcessGraph.insertNode, List.map_append]
    refine List.Nodup.append h.ids_nodup (List.nodup_singleton _) ?_
    simpa [ids] using hfresh
  flows_nodup := h.flows_nodup
  joins hflow := by
    obtain ⟨hs, ht, hne⟩ := h.joins hflow
    exact ⟨mem_ids_insertNode.mpr (.inl hs), mem_ids_insertNode.mpr (.inl ht), hne⟩
  single_out other hother htask := by
    rcases List.mem_append.mp hother with hother | hother
    · exact h.single_out other hother htask
    · obtain rfl := List.mem_singleton.mp hother
      have hnone : g.outgoing other.id = [] := outgoing_eq_nil.mpr fun b hflow =>
        hfresh (h.joins hflow).1
      change (g.outgoing other.id).length ≤ 1
      simp [hnone]
  single_in other hother htask := by
    rcases List.mem_append.mp hother with hother | hother
    · exact h.single_in other hother htask
    · obtain rfl := List.mem_singleton.mp hother
      have hnone : g.incoming other.id = [] := incoming_eq_nil.mpr fun a hflow =>
        hfresh (h.joins hflow).2.1
      change (g.incoming other.id).length ≤ 1
      simp [hnone]
  acyclic := h.acyclic

/-- Flows may be removed. -/
theorem of_sublist {flows : List Flow} (hsub : flows.Sublist g.flows) : Guarded { g with flows } where
  ids_nodup := h.ids_nodup
  flows_nodup := hsub.nodup h.flows_nodup
  joins hflow := h.joins (hsub.subset hflow)
  single_out other hother htask :=
    ((hsub.filter _).map Prod.snd).length_le.trans (h.single_out other hother htask)
  single_in other hother htask :=
    ((hsub.filter _).map Prod.fst).length_le.trans (h.single_in other hother htask)
  acyclic hacyclic := (h.acyclic hacyclic).mono hsub.subset

theorem deleteFlow (s t : String) : Guarded (g.deleteFlow s t) :=
  h.of_sublist List.filter_sublist

/-- A node may be removed with the flows that touch it. -/
theorem deleteNode (id : String) : Guarded (g.deleteNode id) := by
  have hsub : Guarded { g with flows := (g.deleteNode id).flows } := h.of_sublist List.filter_sublist
  exact
    { hsub with
      ids_nodup := (List.filter_sublist.map Node.id).nodup h.ids_nodup
      joins := fun hflow => by
        obtain ⟨hs, ht, hne⟩ := hsub.joins hflow
        obtain ⟨-, hs', ht'⟩ := mem_flows_deleteNode.mp hflow
        exact ⟨mem_ids_deleteNode.mpr ⟨hs, hs'⟩, mem_ids_deleteNode.mpr ⟨ht, ht'⟩, hne⟩
      single_out := fun node hnode => hsub.single_out node (List.mem_of_mem_filter hnode)
      single_in := fun node hnode => hsub.single_in node (List.mem_of_mem_filter hnode) }

/-! ## The guard of a new flow -/

/-- What the guard asks, in words about nodes, flows and paths. -/
theorem canAddFlow_iff_conditions : g.canAddFlow s t = true ↔
    s ∈ g.ids ∧ t ∈ g.ids ∧ s ≠ t ∧ (s, t) ∉ g.flows ∧
      (∀ node ∈ g.nodes, node.isTask = true → node.id = s → g.outgoing s = []) ∧
      (∀ node ∈ g.nodes, node.isTask = true → node.id = t → g.incoming t = []) ∧
      (g.acyclic = true → s ≠ t → ¬ g.Leads t s) := by
  have htask : ∀ a : String, ∀ l : List String, (g.isTask a = true → l = []) ↔
      ∀ node ∈ g.nodes, node.isTask = true → node.id = a → l = [] := by
    intro a l
    rw [isTask, any_node?_iff h.ids_nodup]
    constructor
    · exact fun himp node hnode htask hid => himp ⟨node, hnode, hid, htask⟩
    · rintro himp ⟨node, hnode, hid, htask⟩
      exact himp node hnode htask hid
  have hreach : (g.acyclic = true → ¬ g.canReach t s = true) ↔
      (g.acyclic = true → s ≠ t → ¬ g.Leads t s) := by
    rw [canReach, Digraph.canReach_iff]
    tauto
  rw [canAddFlow_iff_guard, htask, htask, hreach]

theorem insertFlow (hadd : g.canAddFlow s t = true) : Guarded (g.insertFlow s t) := by
  obtain ⟨hs, ht, hne, hnew, hout, hin, hback⟩ := h.canAddFlow_iff_conditions.mp hadd
  refine
    { ids_nodup := h.ids_nodup, flows_nodup := ?_, joins := ?_, single_out := ?_, single_in := ?_,
      acyclic := fun hacyclic => (h.acyclic hacyclic).append_singleton hne (hback hacyclic hne) }
  · exact List.Nodup.append h.flows_nodup (List.nodup_singleton _) (by simpa using hnew)
  · intro a b hflow
    rcases mem_flows_insertFlow.mp hflow with hflow | ⟨rfl, rfl⟩
    · exact h.joins hflow
    · exact ⟨hs, ht, hne⟩
  · intro node hnode htask
    rw [outgoing_insertFlow]
    split_ifs with heq
    · simp [heq ▸ hout node hnode htask heq.symm]
    · simpa using h.single_out node hnode htask
  · intro node hnode htask
    rw [incoming_insertFlow]
    split_ifs with heq
    · simp [heq ▸ hin node hnode htask heq.symm]
    · simpa using h.single_in node hnode htask

/-- **The guard is exact**: a flow may be added if and only if it is new and the graph with it is
guarded. -/
theorem canAddFlow_iff : g.canAddFlow s t = true ↔
    (s, t) ∉ g.flows ∧ Guarded (g.insertFlow s t) := by
  refine ⟨fun hadd => ⟨(h.canAddFlow_iff_conditions.mp hadd).2.2.2.1, h.insertFlow hadd⟩, ?_⟩
  rintro ⟨hnew, hguarded⟩
  have hflow : (s, t) ∈ (g.insertFlow s t).flows := mem_flows_insertFlow.mpr (.inr ⟨rfl, rfl⟩)
  obtain ⟨hs, ht, hne⟩ := hguarded.joins hflow
  refine h.canAddFlow_iff_conditions.mpr ⟨hs, ht, hne, hnew, ?_, ?_, fun hacyclic _ hback => ?_⟩
  · rintro node hnode htask rfl
    have hlength := hguarded.single_out node hnode htask
    rw [outgoing_insertFlow, if_pos rfl, List.length_append] at hlength
    exact List.eq_nil_of_length_eq_zero (by simpa using hlength)
  · rintro node hnode htask rfl
    have hlength := hguarded.single_in node hnode htask
    rw [incoming_insertFlow, if_pos rfl, List.length_append] at hlength
    exact List.eq_nil_of_length_eq_zero (by simpa using hlength)
  · -- the way back and the new flow close a cycle
    have hback : (g.insertFlow s t).Leads t s := hback.mono (List.subset_append_left _ _)
    exact hguarded.acyclic hacyclic t (hback.tail hflow)

end Guarded

end ActivityMatrix.ProcessGraph
