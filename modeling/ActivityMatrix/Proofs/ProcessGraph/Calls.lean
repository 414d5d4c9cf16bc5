import ActivityMatrix.Proofs.ProcessGraph.Indexed

/-!
# Calls on indexed graphs

No lookup fails on a coherent graph. So an operation does to all tables what the operation on plain graphs
does to nodes and flows, and is refused exactly where that one is refused (`Follows`, with one lemma for
each operation, and `Coherent.follows_perform` for every call). Removing a node is the long one: it takes
the flows out one by one while it walks copies of the two lists, and only then is there nothing left that
touches the node.
-/

namespace ActivityMatrix.IndexedGraph

open ProcessGraph ActivityMatrix.Digraph NeighbourIndex

variable {α : Type} {g g' : IndexedGraph} {s t id : String} {node : Node}

/-- On a coherent graph an operation does what one does on the plain graph: it leaves a coherent graph, or
stops and leaves everything as it is. -/
def Follows (step : Indexing α) (g : IndexedGraph) : Except GraphError (α × ProcessGraph) → Prop
  | .ok (answer, graph) => ∃ g', step.run g = .ok answer g' ∧ Coherent g' ∧ g'.toGraph = graph
  | .error _ => step.run g = .error .frozen g

/-! ## What the operations make of the tables -/

/-- The graph with one node more. -/
def withNode (g : IndexedGraph) (node : Node) : IndexedGraph :=
  { g with
    nodes := g.nodes.insert node.id node
    outgoing := g.outgoing.insert node.id []
    incoming := g.incoming.insert node.id [] }

/-- The graph with one flow more. -/
def withFlow (g : IndexedGraph) (source target : String) : IndexedGraph :=
  { g with
    flows := g.flows.insert (source, target) (source, target)
    outgoing := g.outgoing.insert source (g.outgoing.neighbours source ++ [target])
    incoming := g.incoming.insert target (g.incoming.neighbours target ++ [source]) }

/-- The graph without a flow. -/
def withoutFlow (g : IndexedGraph) (source target : String) : IndexedGraph :=
  { g with
    flows := g.flows.erase (source, target)
    outgoing := g.outgoing.insert source ((g.outgoing.neighbours source).erase target)
    incoming := g.incoming.insert target ((g.incoming.neighbours target).erase source) }

/-- The graph without a node, but with the flows that touch it. -/
def withoutNode (g : IndexedGraph) (id : String) : IndexedGraph :=
  { g with
    nodes := g.nodes.erase id
    outgoing := g.outgoing.erase id
    incoming := g.incoming.erase id }

theorem toGraph_withNode (h : node.id ∉ g.nodes.keys) :
    (g.withNode node).toGraph = g.toGraph.insertNode node := by
  rw [toGraph, withNode, Table.values_insert_of_notMem h]
  rfl

namespace Coherent

variable (h : Coherent g)
include h

theorem toGraph_withFlow (hnew : (s, t) ∉ g.toGraph.flows) :
    (g.withFlow s t).toGraph = g.toGraph.insertFlow s t := by
  rw [toGraph, withFlow, Table.values_insert_of_notMem (h.flow_keys_eq ▸ hnew)]
  rfl

theorem toGraph_withoutFlow (s t : String) :
    (g.withoutFlow s t).toGraph = g.toGraph.deleteFlow s t := by
  have hflows : (g.withoutFlow s t).toGraph.flows = (g.toGraph.deleteFlow s t).flows := by
    rw [flows_deleteFlow]
    exact h.flows_keyed.values_erase
  rw [toGraph, deleteFlow]
  exact congrArg _ hflows

theorem withNode (hfresh : node.id ∉ g.nodes.keys) : Coherent (g.withNode node) := by
  have hgraph := toGraph_withNode hfresh
  have hfresh' : node.id ∉ g.toGraph.ids := h.ids_eq ▸ hfresh
  refine
    { nodes_keyed := h.nodes_keyed.insert hfresh
      flows_keyed := h.flows_keyed
      outgoing_keys := ?_
      incoming_keys := ?_
      outgoing_eq := fun id => ?_
      incoming_eq := fun id => ?_
      guarded := hgraph ▸ h.guarded.insertNode hfresh' }
  · rw [IndexedGraph.withNode, Table.keys_insert_of_notMem (h.outgoing_keys ▸ hfresh),
      Table.keys_insert_of_notMem hfresh, h.outgoing_keys]
  · rw [IndexedGraph.withNode, Table.keys_insert_of_notMem (h.incoming_keys ▸ hfresh),
      Table.keys_insert_of_notMem hfresh, h.incoming_keys]
  · rw [hgraph, IndexedGraph.withNode, neighbours_insert, h.outgoing_eq]
    split_ifs with hid
    · exact (outgoing_eq_nil.mpr fun b hflow => hfresh' (hid ▸ (h.guarded.joins hflow).1)).symm
    · rfl
  · rw [hgraph, IndexedGraph.withNode, neighbours_insert, h.incoming_eq]
    split_ifs with hid
    · exact (incoming_eq_nil.mpr fun a hflow => hfresh' (hid ▸ (h.guarded.joins hflow).2.1)).symm
    · rfl

/-- The ends of a flow have lists. -/
theorem mem_keys (hs : s ∈ g.toGraph.ids) : s ∈ g.outgoing.keys ∧ s ∈ g.incoming.keys := by
  rw [h.outgoing_keys, h.incoming_keys, ← h.ids_eq]
  exact ⟨hs, hs⟩

theorem withFlow (hadd : g.toGraph.canAddFlow s t = true) : Coherent (g.withFlow s t) := by
  obtain ⟨hs, ht, -, hnew, -⟩ := h.guarded.canAddFlow_iff_conditions.mp hadd
  have hgraph := h.toGraph_withFlow hnew
  refine
    { nodes_keyed := h.nodes_keyed
      flows_keyed := h.flows_keyed.insert (h.flow_keys_eq ▸ hnew)
      outgoing_keys := ?_
      incoming_keys := ?_
      outgoing_eq := fun id => ?_
      incoming_eq := fun id => ?_
      guarded := hgraph ▸ h.guarded.insertFlow hadd }
  · exact (Table.keys_insert_of_mem (h.mem_keys hs).1).trans h.outgoing_keys
  · exact (Table.keys_insert_of_mem (h.mem_keys ht).2).trans h.incoming_keys
  · rw [hgraph, outgoing_insertFlow, IndexedGraph.withFlow, neighbours_insert, h.outgoing_eq,
      h.outgoing_eq]
    by_cases hid : id = s
    · simp [hid]
    · simp [hid, Ne.symm hid]
  · rw [hgraph, incoming_insertFlow, IndexedGraph.withFlow, neighbours_insert, h.incoming_eq,
      h.incoming_eq]
    by_cases hid : id = t
    · simp [hid]
    · simp [hid, Ne.symm hid]

theorem withoutFlow (hflow : (s, t) ∈ g.toGraph.flows) : Coherent (g.withoutFlow s t) := by
  obtain ⟨hs, ht, -⟩ := h.guarded.joins hflow
  have hgraph := h.toGraph_withoutFlow s t
  refine
    { nodes_keyed := h.nodes_keyed
      flows_keyed := h.flows_keyed.erase _
      outgoing_keys := ?_
      incoming_keys := ?_
      outgoing_eq := fun id => ?_
      incoming_eq := fun id => ?_
      guarded := hgraph ▸ h.guarded.deleteFlow s t }
  · exact (Table.keys_insert_of_mem (h.mem_keys hs).1).trans h.outgoing_keys
  · exact (Table.keys_insert_of_mem (h.mem_keys ht).2).trans h.incoming_keys
  · rw [hgraph, outgoing_deleteFlow h.guarded.flows_nodup, IndexedGraph.withoutFlow,
      neighbours_insert, h.outgoing_eq, h.outgoing_eq]
  · rw [hgraph, incoming_deleteFlow h.guarded.flows_nodup, IndexedGraph.withoutFlow,
      neighbours_insert, h.incoming_eq, h.incoming_eq]

/-- A node that no flow touches is taken out of all tables. -/
theorem withoutNode (hout : g.toGraph.outgoing id = []) (hin : g.toGraph.incoming id = []) :
    Coherent (g.withoutNode id) ∧ (g.withoutNode id).toGraph = g.toGraph.deleteNode id := by
  -- no flow goes with the node
  have hflows : g.toGraph.flows.filter (fun flow => flow.1 != id && flow.2 != id) = g.toGraph.flows := by
    refine List.filter_eq_self.mpr fun flow hflow => ?_
    have hs : flow.1 ≠ id := fun heq => outgoing_eq_nil.mp hout flow.2 (heq ▸ hflow)
    have ht : flow.2 ≠ id := fun heq => incoming_eq_nil.mp hin flow.1 (heq ▸ hflow)
    simp [hs, ht]
  have hgraph : (g.withoutNode id).toGraph = g.toGraph.deleteNode id := by
    rw [deleteNode, hflows, toGraph, IndexedGraph.withoutNode, h.nodes_keyed.values_erase]
    congr 1
    exact List.filter_congr fun node _ => by rw [Bool.eq_iff_iff, bne_iff_ne, decide_eq_true_iff]
  have hsuccessors : ∀ other, (g.toGraph.deleteNode id).outgoing other = g.toGraph.outgoing other :=
    fun other => congrArg (successors · other) hflows
  have hpredecessors : ∀ other, (g.toGraph.deleteNode id).incoming other = g.toGraph.incoming other :=
    fun other => congrArg (predecessors · other) hflows
  refine ⟨?_, hgraph⟩
  refine
    { nodes_keyed := h.nodes_keyed.erase id
      flows_keyed := h.flows_keyed
      outgoing_keys := ?_
      incoming_keys := ?_
      outgoing_eq := fun other => ?_
      incoming_eq := fun other => ?_
      guarded := hgraph ▸ h.guarded.deleteNode id }
  · rw [IndexedGraph.withoutNode, Table.keys_erase, Table.keys_erase, h.outgoing_keys]
  · rw [IndexedGraph.withoutNode, Table.keys_erase, Table.keys_erase, h.incoming_keys]
  · rw [hgraph, hsuccessors, IndexedGraph.withoutNode, neighbours_erase, h.outgoing_eq]
    split_ifs with hother
    · exact hother ▸ hout.symm
    · rfl
  · rw [hgraph, hpredecessors, IndexedGraph.withoutNode, neighbours_erase, h.incoming_eq]
    split_ifs with hother
    · exact hother ▸ hin.symm
    · rfl

end Coherent

/-! ## The operations -/

/-- A frozen graph refuses an operation, and an open one lets it do what a change of the plain graph
does. -/
theorem follows_unlessFrozen {rest : Indexing α} {change : α × ProcessGraph}
    (hopen : g.frozen = false →
      ∃ g', rest.run g = .ok change.1 g' ∧ Coherent g' ∧ g'.toGraph = change.2) :
    Follows (do checkMutable; rest) g (g.toGraph.unlessFrozen change) := by
  have hsame : g.toGraph.frozen = g.frozen := rfl
  cases hfrozen : g.frozen with
  | true => simp [Follows, unlessFrozen, checkMutable, hsame, hfrozen]
  | false => simpa [Follows, unlessFrozen, checkMutable, hsame, hfrozen] using hopen hfrozen

namespace Coherent

variable (h : Coherent g)
include h

theorem follows_addNode (node : Node) : Follows (addNode node) g (g.toGraph.addNode node) := by
  refine follows_unlessFrozen fun _ => ?_
  cases hnode : g.toGraph.node? node.id with
  | some present => exact ⟨g, by simp [h.node?_eq, hnode], h, rfl⟩
  | none =>
      have hfresh : node.id ∉ g.nodes.keys :=
        Table.find?_eq_none_iff.mp ((h.node?_eq node.id).trans hnode)
      refine ⟨g.withNode node, ?_, h.withNode hfresh, toGraph_withNode hfresh⟩
      simp [-bind_pure_comp, h.node?_eq, hnode, IndexedGraph.withNode]

theorem follows_addFlow (s t : String) : Follows (addFlow s t) g (g.toGraph.addFlow s t) := by
  refine follows_unlessFrozen fun _ => ?_
  cases hadd : g.toGraph.canAddFlow s t with
  | false => exact ⟨g, by simp [h.canAddFlow_eq, hadd], h, rfl⟩
  | true =>
      obtain ⟨hs, ht, -, hnew, -⟩ := h.guarded.canAddFlow_iff_conditions.mp hadd
      refine ⟨g.withFlow s t, ?_, h.withFlow hadd, h.toGraph_withFlow hnew⟩
      have hout : g.outgoing.enter s t = _ := enter_eq (h.mem_keys hs).1
      have hin : g.incoming.enter t s = _ := enter_eq (h.mem_keys ht).2
      simp [-bind_pure_comp, h.canAddFlow_eq, hadd, changeOutgoing, changeIncoming, hout, hin,
        IndexedGraph.withFlow]

theorem follows_removeFlow (s t : String) :
    Follows (removeFlow s t) g (g.toGraph.removeFlow s t) := by
  refine follows_unlessFrozen fun _ => ?_
  cases hflow : g.toGraph.hasFlow s t with
  | false =>
      have hnone : (s, t) ∉ g.toGraph.flows := by simpa [hasFlow] using hflow
      exact ⟨g, by simp [h.hasFlow_eq, hflow], h, (deleteFlow_of_notMem hnone).symm⟩
  | true =>
      have hmem := hasFlow_iff.mp hflow
      obtain ⟨hs, ht, -⟩ := h.guarded.joins hmem
      refine ⟨g.withoutFlow s t, ?_, h.withoutFlow hmem, h.toGraph_withoutFlow s t⟩
      have hout := withdraw_eq (h.mem_keys hs).1 (h.outgoing_eq s ▸ mem_outgoing.mpr hmem)
      have hin := withdraw_eq (h.mem_keys ht).2 (h.incoming_eq t ▸ mem_incoming.mpr hmem)
      simp [-bind_pure_comp, h.hasFlow_eq, hflow, changeOutgoing, changeIncoming, hout, hin,
        IndexedGraph.withoutFlow]

theorem exists_run_removeFlow (hopen : g.frozen = false) (s t : String) :
    ∃ answer g', (removeFlow s t).run g = .ok answer g' ∧ Coherent g' ∧
      g'.toGraph = g.toGraph.deleteFlow s t := by
  have hfollows := h.follows_removeFlow s t
  have hsame : g.toGraph.frozen = false := hopen
  simp only [ProcessGraph.removeFlow, unlessFrozen, hsame, Follows] at hfollows
  obtain ⟨g', hrun, h', hgraph⟩ := hfollows
  exact ⟨_, g', hrun, h', hgraph.trans (by rw [deleteFlow, hsame])⟩

/-- Flows are taken out one by one. -/
theorem exists_run_removeFlows (hopen : g.frozen = false) (members : List String)
    (ends : String → Flow) :
    ∃ g', (members.forM fun m => do let _ ← removeFlow (ends m).1 (ends m).2).run g = .ok () g' ∧
      Coherent g' ∧ g'.toGraph = g.toGraph.deleteFlows (members.map ends) := by
  induction members generalizing g with
  | nil => exact ⟨g, rfl, h, (deleteFlows_nil _).symm⟩
  | cons member rest ih =>
      obtain ⟨answer, g₁, hrun, h₁, hgraph₁⟩ :=
        h.exists_run_removeFlow hopen (ends member).1 (ends member).2
      have hopen₁ : g₁.frozen = false := (congrArg ProcessGraph.frozen hgraph₁).trans hopen
      obtain ⟨g', hrest, h', hgraph⟩ := ih h₁ hopen₁
      refine ⟨g', ?_, h', by rw [hgraph, hgraph₁, deleteFlows_deleteFlow, List.map_cons]⟩
      have hfirst : (do let _ ← removeFlow (ends member).1 (ends member).2 : Indexing Unit).run g =
          .ok () g₁ := by simp [-bind_pure_comp, hrun]
      rw [List.forM_eq_forM] at hrest ⊢
      rw [List.forM_cons, EStateM.run_bind, hfirst]
      exact hrest

theorem follows_removeNode (id : String) :
    Follows (removeNode id) g (g.toGraph.removeNode id) := by
  refine follows_unlessFrozen fun hopen => ?_
  obtain ⟨g₁, hrun₁, h₁, hgraph₁⟩ :=
    h.exists_run_removeFlows hopen (g.outgoing.neighbours id) fun target => (id, target)
  have hopen₁ : g₁.frozen = false := (congrArg ProcessGraph.frozen hgraph₁).trans hopen
  obtain ⟨g₂, hrun₂, h₂, hgraph₂⟩ :=
    h₁.exists_run_removeFlows hopen₁ (g₁.incoming.neighbours id) fun source => (source, id)
  rw [h.outgoing_eq] at hrun₁ hgraph₁
  rw [h₁.incoming_eq] at hrun₂ hgraph₂
  -- the flows were removed one by one, so none of them touches the node by now
  have hout : g₂.toGraph.outgoing id = [] := outgoing_eq_nil.mpr fun b hflow => by
    rw [hgraph₂, mem_flows_deleteFlows, hgraph₁, mem_flows_deleteFlows] at hflow
    exact hflow.1.2 (List.mem_map_of_mem (mem_outgoing.mpr hflow.1.1))
  have hin : g₂.toGraph.incoming id = [] := incoming_eq_nil.mpr fun a hflow => by
    rw [hgraph₂, mem_flows_deleteFlows] at hflow
    exact hflow.2 (List.mem_map_of_mem (mem_incoming.mpr hflow.1))
  obtain ⟨h', hgraph'⟩ := h₂.withoutNode hout hin
  refine ⟨g₂.withoutNode id, ?_, h', ?_⟩
  · simp only [EStateM.run_bind, EStateM.run_get, h.outgoing_eq, hrun₁, h₁.incoming_eq, hrun₂]
    rfl
  · rw [hgraph', hgraph₂, deleteNode_deleteFlows, hgraph₁, deleteNode_deleteFlows]
    · rfl
    · intro flow hflow
      obtain ⟨target, -, rfl⟩ := List.mem_map.mp hflow
      exact .inl rfl
    · intro flow hflow
      obtain ⟨source, -, rfl⟩ := List.mem_map.mp hflow
      exact .inr rfl

end Coherent

/-! ## The calls -/

theorem Follows.map {β : Type} {step : Indexing α} {plain : Except GraphError (α × ProcessGraph)}
    (h : Follows step g plain) (answer : α → β) :
    Follows (do return answer (← step)) g (plain.map fun (a, graph) => (answer a, graph)) := by
  cases plain with
  | error _ =>
      have hrun : step.run g = .error .frozen g := h
      simp [-bind_pure_comp, Follows, Except.map, EStateM.run_bind, hrun]
  | ok change =>
      obtain ⟨g', hrun, h', hgraph⟩ := h
      exact ⟨g', by simp [-bind_pure_comp, EStateM.run_bind, hrun], h', hgraph⟩

theorem Coherent.follows_freeze (h : Coherent g) : Follows freeze g (.ok ((), g.toGraph.freeze)) :=
  ⟨{ g with frozen := true }, rfl, { h with guarded := h.guarded.freeze }, rfl⟩

/-- **No lookup fails**: on a coherent graph every call does to all tables what it does to nodes and
flows, or is refused by a frozen graph. -/
theorem Coherent.follows_perform (h : Coherent g) (call : GraphCall) :
    Follows (perform call) g (call.on g.toGraph) := by
  cases call with
  | addNode node => exact (h.follows_addNode node).map CallAnswer.node
  | removeNode id => exact (h.follows_removeNode id).map fun _ => CallAnswer.done
  | addFlow source target => exact (h.follows_addFlow source target).map CallAnswer.changed
  | removeFlow source target => exact (h.follows_removeFlow source target).map CallAnswer.changed
  | freeze => exact h.follows_freeze.map fun _ => CallAnswer.done

namespace Coherent

variable {call : GraphCall} {answer : CallAnswer} {fault : IndexFault}

/-- A call succeeds on a coherent graph as it does on the plain graph, and makes a coherent graph of it. -/
theorem run_eq_ok_iff (h : Coherent g) : (perform call).run g = .ok answer g' ↔
    Coherent g' ∧ call.on g.toGraph = .ok (answer, g'.toGraph) := by
  have hfollows := h.follows_perform call
  cases hplain : call.on g.toGraph with
  | error _ =>
      rw [hplain] at hfollows
      have hrun : (perform call).run g = .error .frozen g := hfollows
      simp [hrun]
  | ok change =>
      obtain ⟨plain, graph⟩ := change
      rw [hplain] at hfollows
      obtain ⟨g₁, hrun, h₁, rfl⟩ := hfollows
      rw [hrun]
      constructor
      · rintro ⟨⟩
        exact ⟨h₁, rfl⟩
      · rintro ⟨h', hok⟩
        obtain ⟨rfl, hgraph⟩ := Prod.mk.inj (Except.ok.inj hok)
        rw [h'.toInStep.eq_of_toGraph_eq h₁.toInStep hgraph]

/-- A call stops on a coherent graph if it is refused on the plain graph, and leaves the graph as it is. -/
theorem run_eq_error_iff (h : Coherent g) : (perform call).run g = .error fault g' ↔
    fault = .frozen ∧ g' = g ∧ ∃ e, call.on g.toGraph = .error e := by
  have hfollows := h.follows_perform call
  cases hplain : call.on g.toGraph with
  | error e =>
      rw [hplain] at hfollows
      have hrun : (perform call).run g = .error .frozen g := hfollows
      simp [hrun, eq_comm]
  | ok change =>
      rw [hplain] at hfollows
      obtain ⟨g₁, hrun, -⟩ := hfollows
      simp [hrun]

end Coherent

end ActivityMatrix.IndexedGraph
