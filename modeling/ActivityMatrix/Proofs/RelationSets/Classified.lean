import ActivityMatrix.RelationSets.Classification
import ActivityMatrix.Proofs.Matrix.Cells

/-!
# What is classified

A cell between different activities is classified by its own symbols: by the precedence that it states,
and as exclusive or inclusive by its existential symbol. So membership in a relation set is a statement
about one cell, except that joint occurrence asks the other cell of the pair for its order, too, and that
exclusion outweighs the other two.
-/

namespace ActivityMatrix

theorem eq_or_swap_of_canonicalPair_eq {a b a' b' : String}
    (h : canonicalPair a' b' = canonicalPair a b) : a' = a ∧ b' = b ∨ a' = b ∧ b' = a := by
  unfold canonicalPair at h
  split_ifs at h <;> simp only [Prod.mk.injEq] at h <;> tauto

theorem canonicalPair_comm (a b : String) : canonicalPair a b = canonicalPair b a := by
  unfold canonicalPair
  split_ifs with hab hba hba
  · rw [isOrder_nameLE.antisymm hab hba]
  · rfl
  · rfl
  · exact absurd ((isOrder_nameLE.total a b).resolve_left hab) hba

theorem canonicalPair_idem (a b : String) :
    canonicalPair (canonicalPair a b).1 (canonicalPair a b).2 = canonicalPair a b := by
  by_cases hab : nameLE a b
  · simp [canonicalPair, hab]
  · have hba := (isOrder_nameLE.total a b).resolve_left hab
    simp [canonicalPair, hab, hba]

namespace RelationSets

theorem holdsPair_comm (pairs : List (String × String)) (a b : String) :
    holdsPair pairs a b = holdsPair pairs b a := by
  rw [holdsPair, holdsPair, canonicalPair_comm a b]

/-- What is stated of a pair does not depend on which activity is named first. -/
theorem pairKind_comm (r : RelationSets) (a b : String) : r.pairKind a b = r.pairKind b a := by
  rw [pairKind, pairKind, holdsPair_comm r.exclusive a b, holdsPair_comm r.inclusive a b,
    holdsPair_comm r.parallel a b]

variable {m : Matrix} {order : List String} {cells : List (String × String × Relation)}
  {edge pair : String × String} {test : String → String → Relation → Bool}

theorem mem_properCells {cell : String × String × Relation} : cell ∈ properCells m ↔
    m.get? cell.1 cell.2.1 = some cell.2.2 ∧ cell.1 ≠ cell.2.1 := by
  rw [properCells, List.mem_filter, Matrix.get?_eq_some_iff, decide_eq_true_iff]

theorem mem_statedEdges : edge ∈ statedEdges cells ↔
    ∃ cell ∈ cells, Matrix.precedence? cell.1 cell.2.1 cell.2.2 = some edge := by
  simp only [statedEdges, mem_sortPairs, mem_distinct, List.mem_filterMap]

theorem mem_statedPairs : pair ∈ statedPairs test cells ↔
    ∃ cell ∈ cells, test cell.1 cell.2.1 cell.2.2 ∧ canonicalPair cell.1 cell.2.1 = pair := by
  simp only [statedPairs, mem_sortPairs, mem_distinct, List.mem_map, List.mem_filter, and_assoc]

theorem mem_chains_iff : edge ∈ (ofMatrixWithOrder m order).chains ↔
    ∃ a b r, m.get? a b = some r ∧ Matrix.precedence? a b r = some edge := by
  change edge ∈ statedEdges (properCells m) ↔ _
  simp only [mem_statedEdges, mem_properCells]
  constructor
  · rintro ⟨⟨a, b, r⟩, ⟨hcell, -⟩, hedge⟩
    exact ⟨a, b, r, hcell, hedge⟩
  · rintro ⟨a, b, r, hcell, hedge⟩
    exact ⟨(a, b, r), ⟨hcell, (Matrix.precedence?_eq_some_iff.mp hedge).1⟩, hedge⟩

theorem mem_direct_iff : edge ∈ (ofMatrixWithOrder m order).direct ↔
    ∃ a b r, m.get? a b = some r ∧ r.isDirect ∧ Matrix.precedence? a b r = some edge := by
  change edge ∈ statedEdges ((properCells m).filter (·.2.2.isDirect)) ↔ _
  simp only [mem_statedEdges, List.mem_filter, mem_properCells]
  constructor
  · rintro ⟨⟨a, b, r⟩, ⟨⟨hcell, -⟩, hdirect⟩, hedge⟩
    exact ⟨a, b, r, hcell, hdirect, hedge⟩
  · rintro ⟨a, b, r, hcell, hdirect, hedge⟩
    exact ⟨(a, b, r), ⟨⟨hcell, (Matrix.precedence?_eq_some_iff.mp hedge).1⟩, hdirect⟩, hedge⟩

theorem mem_exclusive_iff : pair ∈ (ofMatrixWithOrder m order).exclusive ↔
    ∃ a b r, m.get? a b = some r ∧ a ≠ b ∧ r.existential = Existential.exclusive ∧
      canonicalPair a b = pair := by
  simp only [ofMatrixWithOrder, mem_statedPairs, mem_properCells, beq_iff_eq]
  constructor
  · rintro ⟨⟨a, b, r⟩, ⟨hcell, hne⟩, hr, hpair⟩
    exact ⟨a, b, r, hcell, hne, hr, hpair⟩
  · rintro ⟨a, b, r, hcell, hne, hr, hpair⟩
    exact ⟨(a, b, r), ⟨hcell, hne⟩, hr, hpair⟩

theorem mem_inclusive_iff : pair ∈ (ofMatrixWithOrder m order).inclusive ↔
    (∃ a b r, m.get? a b = some r ∧ a ≠ b ∧ r.existential = Existential.inclusive ∧
      canonicalPair a b = pair) ∧ pair ∉ (ofMatrixWithOrder m order).exclusive := by
  simp only [ofMatrixWithOrder, List.mem_filter, mem_statedPairs, mem_properCells, beq_iff_eq,
    Bool.not_eq_true', List.contains_eq_mem, decide_eq_false_iff_not]
  refine and_congr_left fun _ => ⟨?_, ?_⟩
  · rintro ⟨⟨a, b, r⟩, ⟨hcell, hne⟩, hr, hpair⟩
    exact ⟨a, b, r, hcell, hne, hr, hpair⟩
  · rintro ⟨a, b, r, hcell, hne, hr, hpair⟩
    exact ⟨(a, b, r), ⟨hcell, hne⟩, hr, hpair⟩

theorem mem_parallel_iff : pair ∈ (ofMatrixWithOrder m order).parallel ↔
    (∃ a b r, m.get? a b = some r ∧ a ≠ b ∧ r.existential = Existential.equivalent ∧ r.isUnordered ∧
      (m.relation b a).isUnordered ∧ canonicalPair a b = pair) ∧
        pair ∉ (ofMatrixWithOrder m order).exclusive := by
  simp only [ofMatrixWithOrder, List.mem_filter, mem_statedPairs, mem_properCells, beq_iff_eq,
    Bool.not_eq_true', List.contains_eq_mem, decide_eq_false_iff_not, Bool.and_eq_true]
  refine and_congr_left fun _ => ⟨?_, ?_⟩
  · rintro ⟨⟨a, b, r⟩, ⟨hcell, hne⟩, ⟨⟨hr, hunordered⟩, hother⟩, hpair⟩
    exact ⟨a, b, r, hcell, hne, hr, hunordered, hother, hpair⟩
  · rintro ⟨a, b, r, hcell, hne, hr, hunordered, hother, hpair⟩
    exact ⟨(a, b, r), ⟨hcell, hne⟩, ⟨⟨hr, hunordered⟩, hother⟩, hpair⟩

end RelationSets

end ActivityMatrix
