import ActivityMatrix.Digraph.NeighbourIndex
import ActivityMatrix.Proofs.Digraph.Reachability
import ActivityMatrix.Proofs.Table

/-!
# Searches along an index

Two searches go along an index of neighbours, on every graph, and find the same: the nodes that a path
along the index leads to (`Leads`). The search from a queue meets its start again where a cycle leads back
to it (`mem_search_iff`), the walk from a node passes over it wherever it comes up, and what lies behind it
is in the queue from the beginning (`mem_walk_iff`). Both meet no node twice, what they meet lies on a path
from the queue, and the nodes that they have seen hand on their neighbours.

An index lists edges (`Lists`) if the neighbours that are looked up for a node are the targets of the edges
that leave it; then its paths are those along the edges.
-/

namespace ActivityMatrix

/-- Nodes that are listed once each are exactly the nodes other than `start` that a path of at least one
step leads to from there. -/
def IsReach {α : Type} (step : α → α → Prop) (start : α) (found : List α) : Prop :=
  found.Nodup ∧ ∀ b, b ∈ found ↔ b ≠ start ∧ Relation.TransGen step start b

namespace NeighbourIndex

open ActivityMatrix.Digraph

variable {index : NeighbourIndex} {edges : List (String × String)} {a b id start : String}
  {listed seen queue : List String}

/-- A node is a listed neighbour of another one. -/
def Step (index : NeighbourIndex) (a b : String) : Prop :=
  b ∈ index.neighbours a

/-- A path of at least one step along an index leads from a node to a node. -/
def Leads (index : NeighbourIndex) : String → String → Prop :=
  Relation.TransGen index.Step

/-! ## Looking neighbours up -/

theorem neighbours_of_find? (h : index.find? id = some listed) : index.neighbours id = listed := by
  rw [neighbours, h, Option.getD_some]

theorem find?_of_mem_keys (h : id ∈ index.keys) : index.find? id = some (index.neighbours id) := by
  obtain ⟨listed, hlisted⟩ := Table.mem_keys_iff.mp h
  rw [hlisted, neighbours_of_find? hlisted]

theorem neighbours_of_notMem_keys (h : id ∉ index.keys) : index.neighbours id = [] := by
  rw [neighbours, Table.find?_eq_none_iff.mpr h, Option.getD_none]

/-! ## The search from a queue -/

/-- The search keeps what is seen and meets the queue. -/
theorem mem_search_of_mem (h : b ∈ seen ∨ b ∈ queue) : b ∈ index.search seen queue := by
  induction seen, queue using search.induct index with
  | case1 seen => simpa [search] using h
  | case2 seen current queue hseen ih =>
      rw [search, if_pos hseen]
      refine ih (h.elim .inl fun h => ?_)
      rcases List.mem_cons.mp h with rfl | h
      · exact .inl hseen
      · exact .inr h
  | case3 seen current queue hseen ih =>
      rw [search, if_neg hseen]
      refine ih (h.elim (fun h => .inl (.tail _ h)) fun h => ?_)
      rcases List.mem_cons.mp h with rfl | h
      · exact .inl (.head _)
      · exact .inr (List.mem_append_left _ h)

/-- What is looked up for a newly met node is met. -/
theorem mem_search_of_step (ha : a ∈ index.search seen queue) (hab : index.Step a b) :
    a ∈ seen ∨ b ∈ index.search seen queue := by
  induction seen, queue using search.induct index with
  | case1 seen => exact .inl (by simpa [search] using ha)
  | case2 seen current queue hseen ih =>
      rw [search, if_pos hseen] at ha ⊢
      exact ih ha
  | case3 seen current queue hseen ih =>
      rw [search, if_neg hseen] at ha ⊢
      rcases ih ha with h | h
      · rcases List.mem_cons.mp h with rfl | h
        · exact .inr (mem_search_of_mem (.inr (List.mem_append_right _ hab)))
        · exact .inl h
      · exact .inr h

/-- What lies on a path from what was put behind a queue lies on a path from the queue with the node that
it was put there for. -/
theorem exists_path_of_append
    (h : ∃ a ∈ queue ++ index.neighbours id, b = a ∨ index.Leads a b) :
    ∃ a ∈ id :: queue, b = a ∨ index.Leads a b := by
  obtain ⟨a, ha, hab⟩ := h
  rcases List.mem_append.mp ha with ha | ha
  · exact ⟨a, .tail _ ha, hab⟩
  · refine ⟨id, .head _, .inr ?_⟩
    rcases hab with rfl | hab
    · exact .single ha
    · exact .head ha hab

/-- What the search meets is seen already or lies on a path from the queue. -/
theorem exists_path_of_mem_search (hb : b ∈ index.search seen queue) :
    b ∈ seen ∨ ∃ a ∈ queue, b = a ∨ index.Leads a b := by
  induction seen, queue using search.induct index with
  | case1 seen => exact .inl (by simpa [search] using hb)
  | case2 seen current queue hseen ih =>
      rw [search, if_pos hseen] at hb
      refine (ih hb).imp_right fun ⟨a, ha, hab⟩ => ⟨a, .tail _ ha, hab⟩
  | case3 seen current queue hseen ih =>
      rw [search, if_neg hseen] at hb
      rcases ih hb with hb | hpath
      · rcases List.mem_cons.mp hb with rfl | hb
        · exact .inr ⟨b, .head _, .inl rfl⟩
        · exact .inl hb
      · exact .inr (exists_path_of_append hpath)

/-- What lies on a path from the neighbours of a node lies on a path from the node. -/
theorem leads_of_neighbours (h : ∃ c ∈ index.neighbours a, b = c ∨ index.Leads c b) :
    index.Leads a b := by
  obtain ⟨c, hc, hcb⟩ := h
  rcases hcb with rfl | hcb
  · exact .single hc
  · exact .head hc hcb

/-- The search from the neighbours of a node meets exactly the nodes that a path leads to. -/
theorem mem_search_iff : b ∈ index.search [] (index.neighbours a) ↔ index.Leads a b := by
  constructor
  · intro hb
    exact leads_of_neighbours ((exists_path_of_mem_search hb).resolve_left List.not_mem_nil)
  · intro hab
    induction hab with
    | single hab => exact mem_search_of_mem (.inr hab)
    | tail _ hlast ih => exact (mem_search_of_step ih hlast).resolve_left List.not_mem_nil

theorem nodup_search (h : seen.Nodup) : (index.search seen queue).Nodup := by
  induction seen, queue using search.induct index with
  | case1 seen => simpa [search] using h
  | case2 seen current queue hseen ih =>
      rw [search, if_pos hseen]
      exact ih h
  | case3 seen current queue hseen ih =>
      rw [search, if_neg hseen]
      exact ih (List.nodup_cons.mpr ⟨hseen, h⟩)

/-! ## The walk from a node -/

/-- The walk keeps what is seen and meets the queue, its start left out. -/
theorem mem_walkFrom_of_mem (h : b ∈ seen ∨ b ∈ queue) :
    b = start ∨ b ∈ index.walkFrom start seen queue := by
  induction seen, queue using walkFrom.induct index start with
  | case1 seen => exact .inr (by simpa [walkFrom] using h)
  | case2 seen node queue hpast ih =>
      rw [walkFrom, if_pos hpast]
      rcases h with h | h
      · exact ih (.inl h)
      · rcases List.mem_cons.mp h with rfl | h
        · rcases hpast with hseen | hstart
          · exact ih (.inl hseen)
          · exact .inl hstart
        · exact ih (.inr h)
  | case3 seen node queue hnew ih =>
      rw [walkFrom, if_neg hnew]
      refine ih (h.elim (fun h => .inl (.tail _ h)) fun h => ?_)
      rcases List.mem_cons.mp h with rfl | h
      · exact .inl (.head _)
      · exact .inr (List.mem_append_left _ h)

/-- What is looked up for a newly met node is met, its start left out. -/
theorem mem_walkFrom_of_step (ha : a ∈ index.walkFrom start seen queue) (hab : index.Step a b) :
    a ∈ seen ∨ b = start ∨ b ∈ index.walkFrom start seen queue := by
  induction seen, queue using walkFrom.induct index start with
  | case1 seen => exact .inl (by simpa [walkFrom] using ha)
  | case2 seen node queue hpast ih =>
      rw [walkFrom, if_pos hpast] at ha ⊢
      exact ih ha
  | case3 seen node queue hnew ih =>
      rw [walkFrom, if_neg hnew] at ha ⊢
      rcases ih ha with h | h
      · rcases List.mem_cons.mp h with rfl | h
        · exact .inr (mem_walkFrom_of_mem (.inr (List.mem_append_right _ hab)))
        · exact .inl h
      · exact .inr h

/-- What the walk meets is seen already, or is not its start and lies on a path from the queue. -/
theorem exists_path_of_mem_walkFrom (hb : b ∈ index.walkFrom start seen queue) :
    b ∈ seen ∨ b ≠ start ∧ ∃ a ∈ queue, b = a ∨ index.Leads a b := by
  induction seen, queue using walkFrom.induct index start with
  | case1 seen => exact .inl (by simpa [walkFrom] using hb)
  | case2 seen node queue hpast ih =>
      rw [walkFrom, if_pos hpast] at hb
      exact (ih hb).imp_right fun ⟨hne, a, ha, hab⟩ => ⟨hne, a, .tail _ ha, hab⟩
  | case3 seen node queue hnew ih =>
      rw [walkFrom, if_neg hnew] at hb
      rcases ih hb with hb | ⟨hne, hpath⟩
      · rcases List.mem_cons.mp hb with rfl | hb
        · exact .inr ⟨(not_or.mp hnew).2, b, .head _, .inl rfl⟩
        · exact .inl hb
      · exact .inr ⟨hne, exists_path_of_append hpath⟩

/-- The walk from a node meets exactly the other nodes that a path leads to. -/
theorem mem_walk_iff : b ∈ index.walk a ↔ b ≠ a ∧ index.Leads a b := by
  constructor
  · intro hb
    obtain ⟨hne, hpath⟩ := (exists_path_of_mem_walkFrom hb).resolve_left List.not_mem_nil
    exact ⟨hne, leads_of_neighbours hpath⟩
  · rintro ⟨hne, hab⟩
    refine Or.resolve_left ?_ hne
    clear hne
    induction hab with
    | single hab => exact mem_walkFrom_of_mem (.inr hab)
    | tail _ hlast ih =>
        rcases ih with rfl | ih
        · -- the path came back to the start, whose neighbours are in the queue from the beginning
          exact mem_walkFrom_of_mem (.inr hlast)
        · exact (mem_walkFrom_of_step ih hlast).resolve_left List.not_mem_nil

theorem nodup_walkFrom (h : seen.Nodup) : (index.walkFrom start seen queue).Nodup := by
  induction seen, queue using walkFrom.induct index start with
  | case1 seen => simpa [walkFrom] using h
  | case2 seen node queue hpast ih =>
      rw [walkFrom, if_pos hpast]
      exact ih h
  | case3 seen node queue hnew ih =>
      rw [walkFrom, if_neg hnew]
      exact ih (List.nodup_cons.mpr ⟨(not_or.mp hnew).1, h⟩)

theorem isReach_walk (index : NeighbourIndex) (a : String) : IsReach index.Step a (index.walk a) :=
  ⟨nodup_walkFrom List.nodup_nil, fun _ => mem_walk_iff⟩

/-! ## Indexes of edges -/

/-- The neighbours that are looked up are the targets of edges. -/
def Lists (index : NeighbourIndex) (edges : List (String × String)) : Prop :=
  ∀ a b, b ∈ index.neighbours a ↔ (a, b) ∈ edges

theorem Lists.step_eq (h : index.Lists edges) : index.Step = Edge edges :=
  funext fun a => funext fun b => propext (h a b)

theorem Lists.leads_iff (h : index.Lists edges) : index.Leads a b ↔ Digraph.Leads edges a b := by
  rw [Leads, h.step_eq, Digraph.Leads]

end NeighbourIndex

end ActivityMatrix
