import ActivityMatrix.Digraph.Levels
import ActivityMatrix.ProcessGraph
import ActivityMatrix.RelationSets.Classification
import ActivityMatrix.Proofs.Digraph.Levels
import ActivityMatrix.Proofs.Digraph.Order
import ActivityMatrix.Proofs.Matrix.Cells
import ActivityMatrix.Proofs.RelationSets.Neighbours

/-!
# Relation sets of validated matrices

A validated matrix is classified without a further check: classification reads the same precedences
off its cells as validation did (`statedEdges_properCells`), so it finds the same order
(`ofMatrix_of_validate`). What the later stages rely on is collected in `Drawable`, and a validated
matrix that names no activity like one of the two events has drawable relation sets
(`drawable_of_validate`).
-/

namespace ActivityMatrix.RelationSets

open ActivityMatrix.Digraph

variable {m : Matrix} {allowed : Option (List String)} {order : List String}

/-- Relations that a process can be drawn from: the order holds every activity that a precedence
mentions, each once, the precedences form no cycle, and no activity is called like an event. -/
structure Drawable (r : RelationSets) : Prop where
  nodup : r.order.Nodup
  source_mem : ∀ {a b}, (a, b) ∈ r.edges → a ∈ r.order
  target_mem : ∀ {a b}, (a, b) ∈ r.edges → b ∈ r.order
  acyclic : Acyclic r.edges
  start_notMem : startEventId ∉ r.order
  end_notMem : endEventId ∉ r.order

/-- The order holds every activity that a precedence mentions, and each activity once. -/
structure Listed (r : RelationSets) : Prop where
  nodup : r.order.Nodup
  source_mem : ∀ {a b}, (a, b) ∈ r.edges → a ∈ r.order
  target_mem : ∀ {a b}, (a, b) ∈ r.edges → b ∈ r.order

namespace Listed

variable {r : RelationSets} (h : r.Listed) {a b : String}
include h

theorem mem_of_mem_reachable (hb : b ∈ r.reachable a) : b ∈ r.order := by
  obtain ⟨c, -, hcb⟩ := (mem_reachable.mp hb).2.exists_last
  exact h.target_mem hcb

theorem mem_of_mem_directSuccessors (hb : b ∈ r.directSuccessors a) : b ∈ r.order :=
  h.target_mem (mem_successors.mp (List.mem_of_mem_filter hb))

/-- What precedes given activities in common is in the order, too. -/
theorem mem_of_latestCommonPredecessor {activities : List String}
    (ha : r.latestCommonPredecessor activities = some a) : a ∈ r.order := by
  have hcommon := mem_sortByOrder.mp (List.mem_of_getLast? ha)
  obtain ⟨hne, hall⟩ := mem_common.mp hcommon
  obtain ⟨found, hfound⟩ := List.exists_mem_of_ne_nil _ hne
  obtain ⟨b, -, rfl⟩ := List.mem_map.mp hfound
  have hleads := (Digraph.mem_reachable.mp (hall _ hfound)).2
  obtain ⟨c, -, hca⟩ := hleads.exists_last
  exact h.source_mem (mem_converse.mp hca)

end Listed

/-- Cells between an activity and itself state no precedence, so leaving them out changes none. -/
theorem statedEdges_properCells (m : Matrix) : statedEdges (properCells m) = m.precedenceEdges := by
  have hcells : ∀ cells : List (String × String × Relation),
      (cells.filter fun cell => cell.1 ≠ cell.2.1).filterMap
          (fun cell => Matrix.precedence? cell.1 cell.2.1 cell.2.2) =
        cells.filterMap fun cell => Matrix.precedence? cell.1 cell.2.1 cell.2.2 := by
    intro cells
    induction cells with
    | nil => rfl
    | cons cell rest ih =>
        by_cases h : cell.1 = cell.2.1
        · have hnone : Matrix.precedence? cell.1 cell.2.1 cell.2.2 = none := if_pos h
          rw [List.filter_cons_of_neg (by simpa using h), ih, List.filterMap_cons, hnone]
        · rw [List.filter_cons_of_pos (by simpa using h), List.filterMap_cons, List.filterMap_cons,
            ih]
  rw [statedEdges, properCells, hcells, Matrix.precedenceEdges]

/-- The order that validation answers is the topological order of the precedences. -/
theorem topologicalOrder_of_validate (h : m.validate allowed = .ok order) :
    topologicalOrder m.activities m.precedenceEdges = .ok order := by
  unfold Matrix.validate at h
  split at h
  · simp at h
  · cases horder : topologicalOrder m.activities m.precedenceEdges with
    | error cycle => simp [horder, Except.mapError] at h
    | ok found => simpa [horder, Except.mapError] using h

/-- Classification finds the order that validation found. -/
theorem ofMatrix_of_validate (h : m.validate allowed = .ok order) :
    ofMatrix m none = .ok (ofMatrixWithOrder m order) := by
  have horder := topologicalOrder_of_validate h
  simp [ofMatrix, statedEdges_properCells, horder, Except.mapError, Except.map]

theorem chains_ofMatrixWithOrder (m : Matrix) (order : List String) :
    (ofMatrixWithOrder m order).chains = m.precedenceEdges :=
  statedEdges_properCells m

/-- The immediate precedences are stated precedences already. -/
theorem mem_edges_ofMatrixWithOrder {a b : String} :
    (a, b) ∈ (ofMatrixWithOrder m order).edges ↔ (a, b) ∈ m.precedenceEdges := by
  rw [edges, chains_ofMatrixWithOrder, List.mem_append, or_iff_left_iff_imp]
  intro h
  rw [← statedEdges_properCells m]
  simp only [ofMatrixWithOrder, statedEdges, mem_sortPairs, mem_distinct, List.mem_filterMap,
    List.mem_filter] at h ⊢
  obtain ⟨cell, ⟨hcell, -⟩, hedge⟩ := h
  exact ⟨cell, hcell, hedge⟩

/-- Whatever the activities of a validated matrix are called, the order lists them. -/
theorem listed_of_validate (h : m.validate allowed = .ok order) :
    (ofMatrixWithOrder m order).Listed := by
  have horder := topologicalOrder_of_validate h
  refine ⟨nodup_of_topologicalOrder_ok horder, fun hab => ?_, fun hab => ?_⟩
  · exact (mem_of_topologicalOrder_ok horder).mpr
      (.inr ⟨_, mem_edges_ofMatrixWithOrder.mp hab, .inl rfl⟩)
  · exact (mem_of_topologicalOrder_ok horder).mpr
      (.inr ⟨_, mem_edges_ofMatrixWithOrder.mp hab, .inr rfl⟩)

/-- A validated matrix that names no activity like an event has drawable relations. -/
theorem drawable_of_validate (h : m.validate allowed = .ok order)
    (hstart : startEventId ∉ order) (hend : endEventId ∉ order) :
    (ofMatrixWithOrder m order).Drawable :=
  { listed_of_validate h with
    acyclic := (topologicalOrder_ok (topologicalOrder_of_validate h)).2.mono
      fun _ => mem_edges_ofMatrixWithOrder.mp
    start_notMem := hstart
    end_notMem := hend }

/-- The chains of a valid matrix form no cycle. -/
theorem acyclic_chains_of_validate (h : m.validate allowed = .ok order) :
    Acyclic (ofMatrixWithOrder m order).chains := by
  rw [chains_ofMatrixWithOrder]
  exact (topologicalOrder_ok (topologicalOrder_of_validate h)).2

/-- Levels are assigned to the activities of a validated matrix without a fault. -/
theorem exists_levels_of_validate (h : m.validate allowed = .ok order) (strategy : LevelStrategy) :
    ∃ levels, Levels.compute strategy (ofMatrixWithOrder m order).activities
      (ofMatrixWithOrder m order).chains = .ok levels := by
  obtain ⟨levels, hok, -⟩ := Levels.exists_compute_rising strategy _ (acyclic_chains_of_validate h)
  exact ⟨levels, hok⟩

end ActivityMatrix.RelationSets
