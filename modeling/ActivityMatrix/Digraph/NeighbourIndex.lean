import ActivityMatrix.Table

/-!
# Indexes of neighbours

A directed graph as it is stored: for each node, the list of its neighbours, so that they are looked up
and not searched for among the edges. Two searches go along an index, breadth first, and both put the
neighbours of a node at the end of the queue when they meet it for the first time: one from a queue that is
given, and one from a node that it passes over wherever it meets it again. They end on every graph, since
the neighbours of the nodes that were not seen yet together with the queue get fewer at every step.
-/

namespace ActivityMatrix

abbrev NeighbourIndex := Table String (List String)

namespace NeighbourIndex

/-- The listed neighbours of a node; none for a node without a list. -/
def neighbours (index : NeighbourIndex) (id : String) : List String :=
  (index.find? id).getD []

/-- How many neighbours the nodes that were not seen have in all. -/
def unseenDegree (index : NeighbourIndex) (seen : List String) : Nat :=
  ((index.entries.filter (·.1 ∉ seen)).flatMap (·.2)).length

theorem length_unseen_cons {entries : List (String × List String)} {seen : List String} {id : String}
    (h : id ∉ seen) : ((entries.filter (·.1 ∉ id :: seen)).flatMap (·.2)).length +
      ((entries.lookup id).getD []).length ≤ ((entries.filter (·.1 ∉ seen)).flatMap (·.2)).length := by
  induction entries with
  | nil => simp
  | cons entry rest ih =>
      obtain ⟨key, listed⟩ := entry
      by_cases hid : id = key
      · -- the list that is found counts no more, and neither do further lists of the same node
        subst hid
        have hrest := Nat.le_trans (Nat.le_add_right _ _) ih
        rw [List.lookup_cons_self, Option.getD_some, List.filter_cons_of_neg (by simp),
          List.filter_cons_of_pos (by simpa using h), List.flatMap_cons, List.length_append, Nat.add_comm]
        exact Nat.add_le_add_left hrest _
      · rw [List.lookup_cons, beq_eq_false_iff_ne.mpr hid]
        by_cases hseen : key ∈ seen
        · rwa [List.filter_cons_of_neg (by simp [hseen]), List.filter_cons_of_neg (by simp [hseen])]
        · rw [List.filter_cons_of_pos (by simp [hseen, Ne.symm hid]),
            List.filter_cons_of_pos (by simpa using hseen), List.flatMap_cons, List.flatMap_cons,
            List.length_append, List.length_append, Nat.add_assoc]
          exact Nat.add_le_add_left ih _

/-- The neighbours of a node that is seen for the first time do not count any more. -/
theorem unseenDegree_cons {index : NeighbourIndex} {seen : List String} {id : String} (h : id ∉ seen) :
    index.unseenDegree (id :: seen) + (index.neighbours id).length ≤ index.unseenDegree seen :=
  length_unseen_cons h

/-- The nodes met by a search along the index, breadth first, added to those seen before. -/
def search (index : NeighbourIndex) (seen : List String) : List String → List String
  | [] => seen
  | current :: queue =>
      -- a node may wait in the queue several times, once for each way to it
      if current ∈ seen then index.search seen queue
      else index.search (current :: seen) (queue ++ index.neighbours current)
termination_by queue => index.unseenDegree seen + queue.length
decreasing_by
  · simp
  · rename_i hnew
    have : index.unseenDegree (_ :: seen) + _ ≤ index.unseenDegree seen := unseenDegree_cons hnew
    simp only [List.length_append, List.length_cons]
    omega

/-- The nodes other than `start` met by a search along the index, breadth first, added to those seen
before. -/
def walkFrom (index : NeighbourIndex) (start : String) (seen : List String) : List String → List String
  | [] => seen
  | node :: queue =>
      if node ∈ seen ∨ node = start then index.walkFrom start seen queue
      else index.walkFrom start (node :: seen) (queue ++ index.neighbours node)
termination_by queue => index.unseenDegree seen + queue.length
decreasing_by
  · simp
  · rename_i hnew
    have : index.unseenDegree (_ :: seen) + _ ≤ index.unseenDegree seen :=
      unseenDegree_cons (not_or.mp hnew).1
    simp only [List.length_append, List.length_cons]
    omega

/-- The nodes other than `start` that the index leads to from there. -/
def walk (index : NeighbourIndex) (start : String) : List String :=
  index.walkFrom start [] (index.neighbours start)

end NeighbourIndex

end ActivityMatrix
