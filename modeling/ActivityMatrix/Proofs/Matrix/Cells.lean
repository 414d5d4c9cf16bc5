import ActivityMatrix.Matrix.Reading
import ActivityMatrix.Validation
import ActivityMatrix.Proofs.Relation
import ActivityMatrix.Proofs.Sorting
import ActivityMatrix.Proofs.Table

/-!
# Cells and places

What the lists that the checks of a matrix go through hold: its cells, the places that name an
activity, the pairs of activities, and the strict precedences. The activities of a matrix that is read
from a document are those that its cells mention.
-/

namespace ActivityMatrix

theorem eq_ok_of_toOption {ε α : Type} {answer : Except ε α} {a : α}
    (h : answer.toOption = some a) : answer = .ok a := by
  cases answer with
  | ok b => exact congrArg _ (Option.some.inj h)
  | error e => exact absurd h (by simp [Except.toOption])

namespace Matrix

variable {document : Document} {m : Matrix} {a : String}

theorem get?_eq_some_iff {row column : String} {r : Relation} :
    m.get? row column = some r ↔ (row, column, r) ∈ m.cellList := by
  simp only [get?, Option.bind_eq_some_iff, Table.find?_eq_some_iff, cellList, List.mem_flatMap,
    List.mem_map, Prod.mk.injEq]
  constructor
  · rintro ⟨columns, hrow, hcell⟩
    exact ⟨_, hrow, _, hcell, rfl, rfl, rfl⟩
  · rintro ⟨⟨_, columns⟩, hrow, ⟨_, _⟩, hcell, rfl, rfl, rfl⟩
    exact ⟨columns, hrow, hcell⟩

theorem mem_places {row column : String} : (row, column) ∈ m.places ↔
    (row ∈ m.rows ∧ column = row) ∨ ∃ r, (row, column, r) ∈ m.cellList := by
  simp only [places, rows, Table.keys, cellList, List.mem_flatMap, List.mem_cons, List.mem_map,
    Prod.mk.injEq]
  constructor
  · rintro ⟨entry, hentry, ⟨rfl, rfl⟩ | ⟨_, ⟨cell, hcell, rfl⟩, rfl, rfl⟩⟩
    · exact .inl ⟨⟨entry, hentry, rfl⟩, rfl⟩
    · exact .inr ⟨cell.2, entry, hentry, cell, hcell, rfl, rfl, rfl⟩
  · rintro (⟨⟨entry, hentry, rfl⟩, rfl⟩ | ⟨_, entry, hentry, cell, hcell, rfl, rfl, rfl⟩)
    · exact ⟨entry, hentry, .inl ⟨rfl, rfl⟩⟩
    · exact ⟨entry, hentry, .inr ⟨cell.1, ⟨cell, hcell, rfl⟩, rfl, rfl⟩⟩

theorem mem_differentPairs {pair : String × String} : pair ∈ m.differentPairs ↔
    pair.1 ∈ m.activities ∧ pair.2 ∈ m.activities ∧ pair.1 ≠ pair.2 := by
  obtain ⟨a, b⟩ := pair
  simp [differentPairs]

/-- A cell states the precedence of its row or of its column activity. -/
theorem precedence?_eq_some_iff {row column : String} {r : Relation} {edge : String × String} :
    precedence? row column r = some edge ↔ row ≠ column ∧
      (r.precedes ∧ edge = (row, column) ∨ r.follows ∧ edge = (column, row)) := by
  unfold precedence?
  split_ifs with hsame hprecedes hfollows
  · simp [hsame]
  · have hnot : ¬ r.follows := fun h => by simp [r.precedes_eq_false_of_follows h] at hprecedes
    simp [hsame, hprecedes, hnot, eq_comm]
  · simp [hsame, hprecedes, hfollows, eq_comm]
  · simp [hprecedes, hfollows]

/-! ## Clashes -/

/-- Whether the two cells of a pair state the same strict direction. -/
def clashes (m : Matrix) (a b : String) : Bool :=
  (m.relation a b).precedes && (m.relation b a).precedes ||
    (m.relation a b).follows && (m.relation b a).follows

theorem clashes_comm (m : Matrix) (a b : String) : m.clashes a b = m.clashes b a := by
  rw [clashes, clashes, Bool.and_comm, Bool.and_comm (m.relation a b).follows]

theorem checkClash_eq_none_iff :
    m.checkClash = none ↔ m.activities.Pairwise fun a b => m.clashes a b = false := by
  rw [checkClash, List.findSome?_eq_none_iff, pairs, ← forall_mem_orderedPairs]
  refine forall₂_congr fun pair _ => ?_
  change (if m.clashes pair.1 pair.2 then some _ else none) = none ↔ _
  cases m.clashes pair.1 pair.2 <;> simp

/-! ## Activities -/

/-- The activities of a matrix that is read are those that its cells mention. -/
theorem activities_of_ofDocument (h : ofDocument document = .ok m) :
    m.activities = mentioned m.cells := by
  unfold ofDocument at h
  split at h
  · rename_i rows
    cases hrows : readRows rows with
    | error fault => simp [hrows, Except.map] at h
    | ok cells =>
        obtain rfl : ofCells cells [] = m := by simpa [hrows, Except.map] using h
        rfl
  · simp at h

theorem mem_mentioned {cells : Cells} : a ∈ mentioned cells ↔
    ∃ row ∈ cells.entries, a = row.1 ∨ a ∈ row.2.keys := by
  simp [mentioned]

/-- A precedence is one between the row and the column of a cell. -/
theorem ends_of_mem_precedenceEdges {edge : String × String} (h : edge ∈ m.precedenceEdges) :
    ∃ cell ∈ m.cellList, edge = (cell.1, cell.2.1) ∨ edge = (cell.2.1, cell.1) := by
  simp only [precedenceEdges, mem_sortPairs, mem_distinct, List.mem_filterMap] at h
  obtain ⟨cell, hcell, hedge⟩ := h
  exact ⟨cell, hcell, (precedence?_eq_some_iff.mp hedge).2.imp And.right And.right⟩

/-- The cells mention their rows and columns. -/
theorem mem_mentioned_of_mem_cellList {cell : String × String × Relation} (h : cell ∈ m.cellList) :
    cell.1 ∈ mentioned m.cells ∧ cell.2.1 ∈ mentioned m.cells := by
  obtain ⟨row, hrow, hcell⟩ := List.mem_flatMap.mp h
  obtain ⟨entry, hentry, rfl⟩ := List.mem_map.mp hcell
  exact ⟨mem_mentioned.mpr ⟨row, hrow, .inl rfl⟩,
    mem_mentioned.mpr ⟨row, hrow, .inr (List.mem_map_of_mem hentry)⟩⟩

end Matrix

end ActivityMatrix
