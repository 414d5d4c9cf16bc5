import ActivityMatrix.Proofs.ProcessGraph.Guarded
import ActivityMatrix.Proofs.ProcessGraph.NeighbourIndex

/-!
# The index stays in step

An indexed graph says everything about its flows three times: in the table of flows, in the lists of
targets and in the lists of sources. `InStep` says that these agree, and `Coherent` that the graph is
guarded besides. Tables in step are determined by nodes and flows alone (`InStep.eq_of_toGraph_eq`), and the
guard that looks neighbours up answers what the guard on plain graphs answers (`InStep.canAddFlow_eq`).
-/

namespace ActivityMatrix

open ProcessGraph ActivityMatrix.Digraph NeighbourIndex

/-! ## Tables that agree -/

namespace IndexedGraph

variable {g g' : IndexedGraph} {s t id : String} {node : Node}

/-- The tables of an indexed graph agree: nodes and flows are entered under what they are referred to by,
exactly the nodes have a list of targets and one of sources, and the lists hold what the flows say, in the
order of the flows. -/
structure InStep (g : IndexedGraph) : Prop where
  nodes_keyed : g.nodes.KeyedBy Node.id
  flows_keyed : g.flows.KeyedBy fun flow => flow
  outgoing_keys : g.outgoing.keys = g.nodes.keys
  incoming_keys : g.incoming.keys = g.nodes.keys
  outgoing_eq : ∀ id, g.outgoing.neighbours id = g.toGraph.outgoing id
  incoming_eq : ∀ id, g.incoming.neighbours id = g.toGraph.incoming id

/-- The tables agree, and the graph is guarded. -/
structure Coherent (g : IndexedGraph) : Prop extends InStep g where
  guarded : g.toGraph.Guarded

theorem coherent_empty (acyclic : Bool) : Coherent { acyclic } where
  nodes_keyed _ h := absurd h List.not_mem_nil
  flows_keyed _ h := absurd h List.not_mem_nil
  outgoing_keys := rfl
  incoming_keys := rfl
  outgoing_eq _ := rfl
  incoming_eq _ := rfl
  guarded := guarded_empty acyclic

namespace InStep

variable (h : InStep g)
include h

theorem ids_eq : g.toGraph.ids = g.nodes.keys :=
  h.nodes_keyed.keys_eq.symm

theorem node?_eq (id : String) : g.nodes.find? id = g.toGraph.node? id :=
  h.nodes_keyed.find?_eq

theorem flow_keys_eq : g.flows.keys = g.toGraph.flows := by
  rw [h.flows_keyed.keys_eq, List.map_id']
  rfl

theorem hasFlow_eq (s t : String) : g.flows.contains (s, t) = g.toGraph.hasFlow s t := by
  rw [Bool.eq_iff_iff, Table.contains_iff, h.flow_keys_eq, hasFlow_iff]

/-- Where the tables agree, nodes and flows determine them all. -/
theorem eq_of_toGraph_eq (h' : InStep g') (heq : g'.toGraph = g.toGraph) : g' = g := by
  have hkeys : g'.nodes.keys = g.nodes.keys := by rw [← h'.ids_eq, ← h.ids_eq, heq]
  have hnodes : g'.nodes = g.nodes :=
    h'.nodes_keyed.eq_of_values_eq h.nodes_keyed (congrArg ProcessGraph.nodes heq)
  have hflows : g'.flows = g.flows :=
    h'.flows_keyed.eq_of_values_eq h.flows_keyed (congrArg ProcessGraph.flows heq)
  have houtgoing : g'.outgoing = g.outgoing :=
    eq_of_neighbours_eq (by rw [h'.outgoing_keys, h.outgoing_keys, hkeys]) fun id => by
      rw [h'.outgoing_eq, h.outgoing_eq, heq]
  have hincoming : g'.incoming = g.incoming :=
    eq_of_neighbours_eq (by rw [h'.incoming_keys, h.incoming_keys, hkeys]) fun id => by
      rw [h'.incoming_eq, h.incoming_eq, heq]
  have hacyclic : g'.acyclic = g.acyclic := congrArg ProcessGraph.acyclic heq
  have hfrozen : g'.frozen = g.frozen := congrArg ProcessGraph.frozen heq
  cases g
  cases g'
  simp_all

/-- The targets that are listed are those of the flows. -/
theorem lists_outgoing : g.outgoing.Lists g.toGraph.flows := by
  intro a b
  rw [h.outgoing_eq, mem_outgoing]

/-- The search along the index decides what the search along the flows decides. -/
theorem canReach_eq (s t : String) : g.canReach s t = g.toGraph.canReach s t := by
  have hreach : t ∈ g.reachableFrom s ↔ t ∈ g.toGraph.reachableFrom s := by
    rw [reachableFrom, List.mem_filter, mem_search_iff, h.lists_outgoing.leads_iff, ProcessGraph.reachableFrom,
      mem_reachable, decide_eq_true_iff, and_comm]
  rw [canReach, ProcessGraph.canReach, Digraph.canReach, Bool.eq_iff_iff, List.contains_iff_mem,
    List.contains_iff_mem]
  exact hreach

theorem isTaken_eq {index : NeighbourIndex} (hkeys : index.keys = g.nodes.keys)
    (hnode : g.toGraph.node? id = some node) :
    isTaken index node id = .ok (g.toGraph.isTask id && !(index.neighbours id).isEmpty) := by
  have hkey : id ∈ index.keys := by
    rw [hkeys, Table.mem_keys_iff]
    exact ⟨node, (h.node?_eq id).trans hnode⟩
  rw [isTaken, list_eq hkey, ProcessGraph.isTask, hnode, Option.any_some]
  cases node.isTask <;> rfl

/-- The guard along the index is the guard of the plain graph, and no lookup fails. -/
theorem canAddFlow_eq (s t : String) : g.canAddFlow s t = .ok (g.toGraph.canAddFlow s t) := by
  rw [canAddFlow, h.node?_eq, h.node?_eq, ProcessGraph.canAddFlow, contains_eq_isSome_node?,
    contains_eq_isSome_node?]
  cases hs : g.toGraph.node? s with
  | none => rfl
  | some before =>
      cases ht : g.toGraph.node? t with
      | none => rfl
      | some behind =>
          simp only [h.isTaken_eq h.outgoing_keys hs, h.isTaken_eq h.incoming_keys ht, h.hasFlow_eq,
            h.canReach_eq, h.outgoing_eq, h.incoming_eq]
          generalize (g.toGraph.isTask s && !(g.toGraph.outgoing s).isEmpty) = sourceTaken
          generalize (g.toGraph.isTask t && !(g.toGraph.incoming t).isEmpty) = targetTaken
          by_cases hsame : s = t
          · simp [hsame, pure, Except.pure]
          · have hne : (s != t) = true := bne_iff_ne.mpr hsame
            cases g.toGraph.hasFlow s t <;> cases sourceTaken <;> cases targetTaken <;>
              simp [hsame, hne, toGraph, pure, Except.pure, bind, Except.bind]

end InStep

end IndexedGraph

end ActivityMatrix
