import ActivityMatrix.Proofs.Matrix.Requirements
import ActivityMatrix.Proofs.RelationSets.Validated

/-!
# The mirror of a matrix

Every cell of a matrix can be written down on the other side: what a row says of a column activity, the
row of that activity says as the converse. Doing so with all cells at once gives the mirror of the matrix
(`Mirrors`, `mirrors_mirror`). Validation treats both alike. Each requirement on a cell or a pair is
broken at a place of the mirror exactly if the matrix breaks it at the place across
(`Mirrors.breaks_iff`), the two state the same precedences, and so one of them is accepted if and only if
the other one is, with the same order (`Mirrors.validate_iff`).

That a missing cell is read as a default does no harm: the defaults are their own converses. So nothing
is asked of the matrix, complete or not, but that the mirror mentions the same names. The cells alone
do not say so, since a row may be empty.
-/

namespace ActivityMatrix.Matrix

open ActivityMatrix.Digraph

variable {m m' : Matrix} {allowed : Option (List String)} {order : List String} {a b : String}
  {r : Relation}

/-- The second matrix is the mirror of the first one: the activities are the same, and the cell of a row
and a column is the converse of the cell of the column and the row. -/
structure Mirrors (m m' : Matrix) : Prop where
  activities : m'.activities = m.activities
  mentioned : ∀ a, a ∈ mentioned m'.cells ↔ a ∈ mentioned m.cells
  cell : ∀ a b, m'.get? a b = (m.get? b a).map Relation.converse

/-! ## Every matrix has a mirror -/

theorem mem_mentioned_iff_place :
    b ∈ mentioned m.cells ↔ ∃ a, (a ∈ m.rows ∧ b = a) ∨ ∃ r, m.get? a b = some r := by
  simp only [mem_mentioned, ← mem_places, get?_eq_some_iff, places, List.mem_flatMap, List.mem_cons,
    List.mem_map, Prod.mk.injEq]
  constructor
  · rintro ⟨row, hrow, rfl | hb⟩
    · exact ⟨row.1, row, hrow, .inl ⟨rfl, rfl⟩⟩
    · exact ⟨row.1, row, hrow, .inr ⟨b, hb, rfl, rfl⟩⟩
  · rintro ⟨a, row, hrow, ⟨rfl, rfl⟩ | ⟨_, hb, rfl, rfl⟩⟩
    · exact ⟨row, hrow, .inl rfl⟩
    · exact ⟨row, hrow, .inr hb⟩

theorem mem_mentioned_of_get? (h : m.get? a b = some r) :
    a ∈ mentioned m.cells ∧ b ∈ mentioned m.cells :=
  mem_mentioned_of_mem_cellList (get?_eq_some_iff.mp h)

/-- The mirror of a matrix, with a row for every activity that the matrix mentions. -/
def mirror (m : Matrix) : Matrix where
  cells := .tabulate (mentioned m.cells) fun a =>
    .tabulate ((mentioned m.cells).filter fun b => (m.get? b a).isSome) fun b =>
      (m.relation b a).converse
  activities := m.activities

theorem get?_mirror (m : Matrix) (a b : String) :
    m.mirror.get? a b = (m.get? b a).map Relation.converse := by
  have hnames : (mentioned m.cells).Nodup := nodup_distinct _
  refine Option.ext fun r => ?_
  simp only [get?, mirror, Option.bind_eq_some_iff, Table.find?_tabulate_eq_some_iff hnames]
  constructor
  · rintro ⟨_, ⟨-, rfl⟩, hcell⟩
    obtain ⟨hb, rfl⟩ := (Table.find?_tabulate_eq_some_iff (hnames.filter _)).mp hcell
    obtain ⟨s, hs⟩ := Option.isSome_iff_exists.mp (List.mem_filter.mp hb).2
    rw [relation_eq_of_get? hs, hs, Option.map_some]
  · intro hr
    obtain ⟨s, hs, rfl⟩ := Option.map_eq_some_iff.mp hr
    obtain ⟨hb, ha⟩ := mem_mentioned_of_get? hs
    refine ⟨_, ⟨ha, rfl⟩, (Table.find?_tabulate_eq_some_iff (hnames.filter _)).mpr ⟨?_, ?_⟩⟩
    · exact List.mem_filter.mpr ⟨hb, Option.isSome_iff_exists.mpr ⟨s, hs⟩⟩
    · rw [relation_eq_of_get? hs]

theorem mirrors_mirror (m : Matrix) : Mirrors m m.mirror where
  activities := rfl
  mentioned a := by
    have hrows : m.mirror.rows = mentioned m.cells := Table.keys_tabulate (nodup_distinct _)
    rw [mem_mentioned_iff_place, hrows]
    constructor
    · rintro ⟨row, ⟨hrow, rfl⟩ | ⟨r, hr⟩⟩
      · exact hrow
      · rw [get?_mirror] at hr
        obtain ⟨s, hs, -⟩ := Option.map_eq_some_iff.mp hr
        exact (mem_mentioned_of_get? hs).1
    · exact fun ha => ⟨a, .inl ⟨ha, rfl⟩⟩
  cell := get?_mirror m

namespace Mirrors

variable (h : Mirrors m m')
include h

/-! ## What validation asks -/

theorem get?_eq_some_iff : m'.get? a b = some r ↔ m.get? b a = some r.converse := by
  rw [h.cell, Option.map_eq_some_iff]
  constructor
  · rintro ⟨s, hs, rfl⟩
    rw [hs, Relation.converse_converse]
  · exact fun hr => ⟨_, hr, r.converse_converse⟩

/-- What is said of a cell of the mirror is said of the converse of the cell across. -/
theorem exists_get?_iff {p : Relation → Prop} :
    (∃ r, m'.get? a b = some r ∧ p r) ↔ ∃ r, m.get? b a = some r ∧ p r.converse := by
  constructor
  · rintro ⟨r, hr, hp⟩
    exact ⟨r.converse, h.get?_eq_some_iff.mp hr, r.converse_converse.symm ▸ hp⟩
  · rintro ⟨r, hr, hp⟩
    exact ⟨r.converse, h.get?_eq_some_iff.mpr (r.converse_converse.symm ▸ hr), hp⟩

theorem forall_get?_iff {p : Relation → Prop} :
    (∀ r, m'.get? a b = some r → p r) ↔ ∀ r, m.get? b a = some r → p r.converse := by
  constructor
  · exact fun hall r hr => hall _ (h.get?_eq_some_iff.mpr (r.converse_converse.symm ▸ hr))
  · exact fun hall r hr => r.converse_converse ▸ hall _ (h.get?_eq_some_iff.mp hr)

/-- The defaults are their own converses, so a missing cell reads like the missing one across. -/
theorem relation_eq (a b : String) : m'.relation a b = (m.relation b a).converse := by
  have hdefault : defaultRelation a b = (defaultRelation b a).converse := by
    unfold defaultRelation
    split_ifs with hab hba hba
    · rfl
    · exact absurd hab.symm hba
    · exact absurd hba.symm hab
    · rfl
  rw [relation, relation, h.cell, hdefault, Option.getD_map]

theorem precedes_iff : m'.Precedes a b ↔ m.Precedes a b := by
  simp only [Precedes, h.exists_get?_iff, Relation.precedes_converse, Relation.follows_converse]
  exact and_congr_right fun _ => or_comm

/-- What is asked of a cell or of a pair is broken in the mirror exactly where it is broken across. -/
theorem breaks_iff {requirement : Requirement} (hcells : requirement ∉
      [Requirement.allowedActivities, Requirement.acyclicity]) :
    requirement.Breaks allowed m' a b ↔ requirement.Breaks allowed m b a := by
  -- the symbols that the requirements name read alike from both sides
  have hincompatible : ∀ e ∈ Existential.orderIncompatible, Existential.converse e = e := by decide
  have hreciprocal : ∀ e ∈ Existential.reciprocal, Existential.converse e = e := by decide
  cases requirement with
  | allowedActivities => exact absurd (.head _) hcells
  | acyclicity => exact absurd (.tail _ (.head _)) hcells
  | identityDiagonal =>
      simp only [Requirement.Breaks, h.activities, h.get?_eq_some_iff, ne_eq]
      constructor
      · rintro ⟨ha, rfl, hne⟩
        exact ⟨ha, rfl, hne⟩
      · rintro ⟨hb, rfl, hne⟩
        exact ⟨hb, rfl, hne⟩
  | legalSymbols =>
      simp only [Requirement.Breaks, h.activities, h.forall_get?_iff,
        Relation.hasLegalSymbols_converse_iff]
      tauto
  | legalCombinations =>
      simp only [Requirement.Breaks, h.activities, h.exists_get?_iff, Relation.precedes_converse,
        Relation.follows_converse, Relation.existential_converse_mem_iff hincompatible,
        or_comm (a := Relation.follows _ = true)]
      exact and_left_comm
  | reciprocity =>
      have hinjective : ∀ r s : Relation, s.converse.existential = r.converse.existential ↔
          s.existential = r.existential := fun r s => ⟨fun heq => by
            rw [← Relation.existential_converse_converse s.existential,
              ← Relation.existential_converse_converse r.existential]
            exact congrArg Existential.converse heq, congrArg Existential.converse⟩
      simp only [Requirement.Breaks, h.activities, h.exists_get?_iff, h.forall_get?_iff, ne_eq,
        Relation.existential_converse_mem_iff hreciprocal, hinjective]
      exact and_left_comm
  | oneDirection =>
      simp only [Requirement.Breaks, h.activities, exists_and_left, h.exists_get?_iff,
        Relation.precedes_converse, Relation.follows_converse, ne_comm (a := a),
        or_comm (a := Relation.follows _ = true ∧ Relation.follows _ = true)]
      exact and_left_comm

theorem holds_allowedActivities_iff : Requirement.allowedActivities.Holds allowed m' ↔
    Requirement.allowedActivities.Holds allowed m := by
  have hnames : ∀ m : Matrix, Requirement.allowedActivities.Holds allowed m ↔
      ∀ b ∈ Matrix.mentioned m.cells, ¬ ∃ names, allowed = some names ∧ b ∉ names := by
    intro m
    simp only [Requirement.Holds, Requirement.Breaks, mem_mentioned_iff_place]
    exact ⟨fun hall b ⟨a, hplace⟩ hnames => hall a b ⟨hplace, hnames⟩,
      fun hall a b hbreaks => hall b ⟨a, hbreaks.1⟩ hbreaks.2⟩
  simp only [hnames, h.mentioned]

/-- The mirror meets the same requirements. -/
theorem holds_iff (requirement : Requirement) :
    requirement.Holds allowed m' ↔ requirement.Holds allowed m := by
  by_cases hcells : requirement ∈ [Requirement.allowedActivities, Requirement.acyclicity]
  · rcases List.mem_pair.mp hcells with rfl | rfl
    · exact h.holds_allowedActivities_iff
    · have hprecedes : m'.Precedes = m.Precedes := by
        funext a b
        exact propext h.precedes_iff
      rw [Requirement.holds_acyclicity_iff, Requirement.holds_acyclicity_iff, hprecedes]
  · simp only [Requirement.Holds, h.breaks_iff hcells]
    exact forall_comm

/-! ## What validation answers -/

/-- The precedences are sorted, so they are the same list. -/
theorem precedenceEdges_eq : m'.precedenceEdges = m.precedenceEdges := by
  refine sortBy_distinct_eq isOrder_pairLE fun edge => ?_
  have hedge : edge ∈ m'.precedenceEdges ↔ edge ∈ m.precedenceEdges := by
    rw [mem_precedenceEdges, mem_precedenceEdges, h.precedes_iff]
  simpa only [precedenceEdges, mem_sortPairs, mem_distinct] using hedge

omit h in
theorem validate_eq_ok_iff_holds : m.validate allowed = .ok order ↔
    (∀ requirement : Requirement, requirement.Holds allowed m) ∧
      topologicalOrder m.activities m.precedenceEdges = .ok order := by
  constructor
  · exact fun hvalid => ⟨holds_of_validate hvalid, RelationSets.topologicalOrder_of_validate hvalid⟩
  · rintro ⟨hholds, horder⟩
    obtain ⟨found, hfound⟩ := isValid_iff_exists_order.mp (isValid_iff_holds.mpr hholds)
    rw [RelationSets.topologicalOrder_of_validate hfound] at horder
    rw [hfound, Except.ok.inj horder]

/-- **Validation does not see on which side a relation is written.** -/
theorem validate_iff : m'.validate allowed = .ok order ↔ m.validate allowed = .ok order := by
  rw [validate_eq_ok_iff_holds, validate_eq_ok_iff_holds, h.activities, h.precedenceEdges_eq]
  simp only [h.holds_iff]

end Mirrors

end ActivityMatrix.Matrix
