import ActivityMatrix.Proofs.ProcessGraph.CallAfterCall
import ActivityMatrix.Proofs.RelationSets.Neighbours

/-!
# What the searches reach

A stored process graph and stored relation sets are searched along their indexes of neighbours, each in a
way of its own, and the same questions are answered from flows and precedences where no index is at hand.
All of these searches end on every graph, cyclic ones included, and reach exactly the nodes other than the
start that a path of at least one step leads to (`searches_reach`).

What is left to say here is that the indexes list what they stand for: after any calls the targets of a
stored graph are those of its flows, and the indexes of relation sets list the stated precedences, forwards
and backwards (`lists_successorIndex`, `lists_predecessorIndex`).
-/

namespace ActivityMatrix

open ActivityMatrix.Digraph

/-! ## Searches along edges -/

theorem isReach_reachable {α : Type} [DecidableEq α] (edges : List (α × α)) (a : α) :
    IsReach (Edge edges) a (reachable edges a) :=
  ⟨(nodup_explore _ _ List.nodup_nil).filter _, fun _ => mem_reachable⟩

/-! ## Stored process graphs -/

namespace IndexedGraph

theorem isReach_reachableFrom (g : IndexedGraph) (id : String) :
    IsReach g.outgoing.Step id (g.reachableFrom id) := by
  refine ⟨(NeighbourIndex.nodup_search List.nodup_nil).filter _, fun b => ?_⟩
  rw [reachableFrom, List.mem_filter, NeighbourIndex.mem_search_iff, decide_eq_true_iff, and_comm,
    NeighbourIndex.Leads]

end IndexedGraph

/-! ## Stored relation sets -/

namespace RelationSets

variable {r : RelationSets} {ends : List String} {neighbours : String → List String}

theorem neighbours_neighbourIndex (hends : ∀ a, neighbours a ≠ [] → a ∈ ends) (a : String) :
    (r.neighbourIndex ends neighbours).neighbours a = neighbours a := by
  by_cases hkey : a ∈ r.activities ++ ends
  · refine NeighbourIndex.neighbours_of_find? (Table.find?_eq_some_iff.mpr ?_)
    exact List.mem_map.mpr ⟨a, mem_distinct.mpr hkey, rfl⟩
  · have hnone : neighbours a = [] := by
      by_contra hsome
      exact hkey (List.mem_append_right _ (hends a hsome))
    rw [hnone]
    refine NeighbourIndex.neighbours_of_notMem_keys fun hmem => hkey ?_
    simpa [Table.keys, neighbourIndex] using hmem

/-- The index of successors lists the stated precedences. -/
theorem lists_successorIndex (r : RelationSets) : r.successorIndex.Lists r.edges := by
  intro a b
  rw [successorIndex, neighbours_neighbourIndex (fun c hc => ?_), mem_successors]
  obtain ⟨d, hd⟩ := List.exists_mem_of_ne_nil _ hc
  exact List.mem_map_of_mem (f := Prod.fst) (mem_successors.mp hd)

/-- The index of predecessors lists the stated precedences, turned round. -/
theorem lists_predecessorIndex (r : RelationSets) : r.predecessorIndex.Lists (converse r.edges) := by
  intro a b
  rw [predecessorIndex, neighbours_neighbourIndex (fun c hc => ?_), mem_predecessors, mem_converse]
  obtain ⟨d, hd⟩ := List.exists_mem_of_ne_nil _ hc
  exact List.mem_map_of_mem (f := Prod.snd) (mem_predecessors.mp hd)

end RelationSets

/-! ## All searches -/

/-- **The searches reach what paths lead to.** On every stored graph, whatever its tables hold, and on
every index of neighbours the searches end, and they list, each once, exactly the nodes other than the
start that a path of at least one step leads to from there. So after any calls the search of a stored graph
reaches what its flows lead to, the walks along the indexes of relation sets reach what the precedences
lead to, forwards and backwards, and the searches along flows and precedences themselves find the same. -/
theorem searches_reach :
    (∀ (g : IndexedGraph) (id : String), IsReach g.outgoing.Step id (g.reachableFrom id)) ∧
      (∀ (index : NeighbourIndex) (id : String), IsReach index.Step id (index.walk id)) ∧
      (∀ (acyclic : Bool) (calls : List GraphCall) (id : String),
        let g := IndexedGraph.afterAll { acyclic } calls
        IsReach (Edge g.toGraph.flows) id (g.reachableFrom id)) ∧
      (∀ (g : ProcessGraph) (id : String), IsReach (Edge g.flows) id (g.reachableFrom id)) ∧
      ∀ (r : RelationSets) (a : String),
        IsReach (Edge r.edges) a (r.successorIndex.walk a) ∧
          IsReach (Edge (converse r.edges)) a (r.predecessorIndex.walk a) ∧
          IsReach (Edge r.edges) a (r.reachable a) ∧
          IsReach (Edge (converse r.edges)) a (r.ancestors a) := by
  refine ⟨IndexedGraph.isReach_reachableFrom, NeighbourIndex.isReach_walk, fun acyclic calls id => ?_,
    fun g id => isReach_reachable g.flows id, fun r a => ⟨?_, ?_, isReach_reachable _ a,
      isReach_reachable _ a⟩⟩
  · intro g
    have hstored : IndexedGraph.Coherent g := ((IndexedGraph.coherent_empty acyclic).afterAll calls).1
    exact hstored.toInStep.lists_outgoing.step_eq ▸ g.isReach_reachableFrom id
  · exact r.lists_successorIndex.step_eq ▸ NeighbourIndex.isReach_walk _ a
  · exact r.lists_predecessorIndex.step_eq ▸ NeighbourIndex.isReach_walk _ a

/-- A cycle with a way out of it leads back to its start, which is left out. -/
example : NeighbourIndex.walk (.ofList [("a", ["b"]), ("b", ["c", "b"]), ("c", ["a", "d"])]) "a" =
    ["d", "c", "b"] := by
  cbv

end ActivityMatrix
