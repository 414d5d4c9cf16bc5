import ActivityMatrix.ProcessGraph.Indexed
import ActivityMatrix.Proofs.Digraph.NeighbourSearch

/-!
# Looking neighbours up and entering them

What is looked up in an index after a list was entered in it or taken out of it, and that neighbours can be
entered for the nodes that have a list, and withdrawn where they are listed. The keys of an index and the
neighbours that are looked up determine it (`eq_of_neighbours_eq`).
-/

namespace ActivityMatrix.NeighbourIndex

variable {index : NeighbourIndex} {id other neighbour : String} {listed : List String}

/-! ## Lists of neighbours -/

theorem neighbours_insert : NeighbourIndex.neighbours (index.insert id listed) other =
    if other = id then listed else index.neighbours other := by
  rw [neighbours, Table.find?_insert]
  split_ifs <;> rfl

theorem neighbours_erase : NeighbourIndex.neighbours (index.erase id) other =
    if other = id then [] else index.neighbours other := by
  split_ifs with hother
  · subst hother
    exact neighbours_of_notMem_keys (by simp [Table.keys_erase])
  · rw [neighbours, Table.find?_erase_of_ne hother, neighbours]

/-- The keys and the neighbours that are looked up determine an index. -/
theorem eq_of_neighbours_eq {more : NeighbourIndex} (hkeys : more.keys = index.keys)
    (h : ∀ id, more.neighbours id = index.neighbours id) : more = index := by
  have hentries : ∀ index : NeighbourIndex,
      index.entries = index.keys.map fun id => (id, index.neighbours id) := by
    intro index
    rw [Table.keys, List.map_map]
    refine (List.map_id index.entries).symm.trans (List.map_congr_left fun entry hentry => ?_)
    exact Prod.ext rfl (neighbours_of_find? (Table.find?_eq_some_iff.mpr hentry)).symm
  refine Table.ext_entries ?_
  rw [hentries more, hentries index, hkeys]
  exact List.map_congr_left fun id _ => by rw [h]

theorem list_eq (h : id ∈ index.keys) : index.list id = .ok (index.neighbours id) := by
  rw [list, find?_of_mem_keys h]

/-- Where a node has a list, a neighbour can be entered. -/
theorem enter_eq (h : id ∈ index.keys) :
    index.enter id neighbour = .ok (index.insert id (index.neighbours id ++ [neighbour])) := by
  rw [enter, list_eq h]
  rfl

/-- Where a neighbour is listed, it can be withdrawn. -/
theorem withdraw_eq (h : id ∈ index.keys) (hlisted : neighbour ∈ index.neighbours id) :
    index.withdraw id neighbour =
      .ok (index.insert id ((index.neighbours id).erase neighbour)) := by
  rw [withdraw, list_eq h]
  change (if neighbour ∈ index.neighbours id then _ else _) = _
  rw [if_pos hlisted]
  rfl

end ActivityMatrix.NeighbourIndex
