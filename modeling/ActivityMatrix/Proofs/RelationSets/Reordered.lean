import ActivityMatrix.Proofs.RelationSets.Validated

/-!
# Matrices that differ in order only

Two matrices may list the same cells and the same activities in different orders. Such matrices pass
the same checks and have the same order of activities (`Reordered.validate_iff`), their relation sets
differ in the list of activities only (`ofMatrixWithOrder_reordered`), and every activity has the same
level (`lookup_compute_congr`). The reason is the same everywhere: a check asks about the members of a
list, and what is kept of a list is sorted.
-/

namespace ActivityMatrix

/-- The topological order depends on which names are listed only. -/
theorem Digraph.topologicalOrder_congr {listed listed' : List String}
    {edges : List (String × String)} (hmem : ∀ a, a ∈ listed ↔ a ∈ listed') :
    topologicalOrder listed edges = topologicalOrder listed' edges := by
  have hnodes : sortNames (mentionedNodes listed edges) = sortNames (mentionedNodes listed' edges) :=
    sortBy_distinct_eq isOrder_nameLE fun a => by simp only [List.mem_append, hmem]
  rw [topologicalOrder_eq, topologicalOrder_eq, hnodes]

namespace Matrix

variable {m m' : Matrix} {allowed : Option (List String)} {order : List String} {a b : String}

/-- A matrix is valid if no check finds a fault and the precedences have an order. -/
theorem validate_eq_ok_iff : m.validate allowed = .ok order ↔
    m.firstFault allowed = none ∧
      Digraph.topologicalOrder m.activities m.precedenceEdges = .ok order := by
  constructor
  · intro h
    refine ⟨?_, RelationSets.topologicalOrder_of_validate h⟩
    unfold validate at h
    split at h
    · cases h
    · assumption
  · rintro ⟨hfault, horder⟩
    simp only [validate, hfault, horder]
    rfl

/-- Two matrices have the same rows and cells and list the same activities, each once: they differ at
most in the order of rows, columns, and activities. -/
structure Reordered (m m' : Matrix) : Prop where
  nodup : m.activities.Nodup
  nodup' : m'.activities.Nodup
  mem_activities : ∀ a, a ∈ m.activities ↔ a ∈ m'.activities
  mem_rows : ∀ a, a ∈ m.rows ↔ a ∈ m'.rows
  mem_cells : ∀ cell, cell ∈ m.cellList ↔ cell ∈ m'.cellList

namespace Reordered

variable (h : Reordered m m')
include h

theorem perm_activities : m.activities.Perm m'.activities :=
  (List.perm_ext_iff_of_nodup h.nodup h.nodup').mpr h.mem_activities

theorem get?_eq (row column : String) : m.get? row column = m'.get? row column := by
  refine Option.ext fun r => ?_
  rw [get?_eq_some_iff, get?_eq_some_iff, h.mem_cells]

theorem relation_eq (row column : String) : m.relation row column = m'.relation row column := by
  rw [relation, relation, h.get?_eq]

theorem mem_differentPairs_iff (pair : String × String) :
    pair ∈ m.differentPairs ↔ pair ∈ m'.differentPairs := by
  rw [mem_differentPairs, mem_differentPairs, h.mem_activities, h.mem_activities]

/-! ## The checks -/

theorem checkMembership_iff (allowed : Option (List String)) :
    m.checkMembership allowed = none ↔ m'.checkMembership allowed = none := by
  have hplaces : ∀ place, place ∈ m.places ↔ place ∈ m'.places := by
    rintro ⟨row, column⟩
    simp only [mem_places, h.mem_rows, h.mem_cells]
  cases allowed with
  | none => exact Iff.rfl
  | some names => simp only [checkMembership, Option.bind_some, List.findSome?_eq_none_iff, hplaces]

theorem checkDiagonal_iff : m.checkDiagonal = none ↔ m'.checkDiagonal = none := by
  simp only [checkDiagonal, List.findSome?_eq_none_iff, h.mem_activities, h.get?_eq]

theorem checkSymbols_iff : m.checkSymbols = none ↔ m'.checkSymbols = none := by
  simp only [checkSymbols, List.findSome?_eq_none_iff, h.mem_differentPairs_iff, h.get?_eq]

theorem checkCombinations_iff : m.checkCombinations = none ↔ m'.checkCombinations = none := by
  simp only [checkCombinations, List.findSome?_eq_none_iff, h.mem_differentPairs_iff, h.relation_eq]

theorem checkReciprocity_iff : m.checkReciprocity = none ↔ m'.checkReciprocity = none := by
  simp only [checkReciprocity, List.findSome?_eq_none_iff, h.mem_differentPairs_iff, h.relation_eq]

/-- A clash is one in either order of the two activities. -/
theorem checkClash_iff : m.checkClash = none ↔ m'.checkClash = none := by
  have hclashes : m.clashes = m'.clashes := by
    funext a b
    simp only [clashes, h.relation_eq]
  rw [checkClash_eq_none_iff, checkClash_eq_none_iff, hclashes]
  refine h.perm_activities.pairwise_iff fun {a b} hab => ?_
  rwa [clashes_comm]

theorem firstFault_iff (allowed : Option (List String)) :
    m.firstFault allowed = none ↔ m'.firstFault allowed = none := by
  simp only [firstFault, Option.or_eq_none_iff, h.checkMembership_iff, h.checkDiagonal_iff,
    h.checkSymbols_iff, h.checkCombinations_iff, h.checkReciprocity_iff, h.checkClash_iff]

/-! ## The order of the activities -/

/-- The precedences are sorted, so they are the same. -/
theorem precedenceEdges_eq : m.precedenceEdges = m'.precedenceEdges := by
  refine sortBy_distinct_eq isOrder_pairLE fun edge => ?_
  simp only [List.mem_filterMap, h.mem_cells]

/-- **Validation does not see the order of a matrix.** -/
theorem validate_iff (allowed : Option (List String)) (order : List String) :
    m.validate allowed = .ok order ↔ m'.validate allowed = .ok order := by
  rw [validate_eq_ok_iff, validate_eq_ok_iff, h.firstFault_iff, h.precedenceEdges_eq,
    Digraph.topologicalOrder_congr h.mem_activities]

end Reordered

end Matrix

theorem OptionalSide.name_injective : Function.Injective OptionalSide.name := by
  intro a b h
  cases a <;> cases b <;> first | rfl | exact absurd h (by decide)

namespace RelationSets

open ActivityMatrix.Matrix

variable {m m' : Matrix} {cells cells' : List (String × String × Relation)}

/-! ## Relation sets -/

theorem isOrder_optionalLE : IsOrder optionalLE := by
  refine isOrder_tripleLE.comap (f := fun a : String × String × OptionalSide =>
    (a.1, a.2.1, a.2.2.name)) ?_
  rintro ⟨a, b, side⟩ ⟨a', b', side'⟩ h
  simp only [Prod.mk.injEq] at h ⊢
  exact ⟨h.1, h.2.1, OptionalSide.name_injective h.2.2⟩

section Cells

variable (hmem : ∀ cell, cell ∈ cells ↔ cell ∈ cells')
include hmem

theorem statedEdges_congr : statedEdges cells = statedEdges cells' :=
  sortBy_distinct_eq isOrder_pairLE fun edge => by simp only [List.mem_filterMap, hmem]

theorem statedPairs_congr (test : String → String → Relation → Bool) :
    statedPairs test cells = statedPairs test cells' :=
  sortBy_distinct_eq isOrder_pairLE fun pair => by simp only [List.mem_map, List.mem_filter, hmem]

theorem statedOptional_congr : statedOptional cells = statedOptional cells' :=
  sortBy_distinct_eq isOrder_optionalLE fun implication => by simp only [List.mem_filterMap, hmem]

end Cells

/-- **Classification does not see the order of a matrix**, but for the list of activities that it
takes over. -/
theorem ofMatrixWithOrder_reordered (h : Reordered m m') (order : List String) :
    ofMatrixWithOrder m' order =
      { ofMatrixWithOrder m order with activities := m'.activities } := by
  have hproper : ∀ cell, cell ∈ properCells m ↔ cell ∈ properCells m' := fun cell => by
    simp only [properCells, List.mem_filter, h.mem_cells]
  have hdirect : ∀ cell, cell ∈ (properCells m).filter (·.2.2.isDirect) ↔
      cell ∈ (properCells m').filter (·.2.2.isDirect) := fun cell => by
    simp only [List.mem_filter, hproper]
  simp only [ofMatrixWithOrder, statedEdges_congr hproper, statedEdges_congr hdirect,
    statedPairs_congr hproper, statedOptional_congr hproper, h.relation_eq]

end RelationSets

namespace Levels

variable {listed listed' : List String} {edges : List (String × String)} {levels levels' : Levels}

/-! ## Levels -/

/-- A function that is tabulated over the same names is looked up alike. -/
theorem lookup_graph_congr {f : String → Nat} (hmem : ∀ a, a ∈ listed ↔ a ∈ listed') (a : String) :
    (listed.map fun b => (b, f b)).lookup a = (listed'.map fun b => (b, f b)).lookup a := by
  by_cases ha : a ∈ listed
  · rw [List.lookup_graph f ha, List.lookup_graph f ((hmem a).mp ha)]
  · have hnone : ∀ names : List String, a ∉ names → (names.map fun b => (b, f b)).lookup a = none := by
      intro names hnames
      rw [List.lookup_eq_none_iff]
      intro entry hentry
      obtain ⟨b, hb, rfl⟩ := List.mem_map.mp hentry
      exact bne_iff_ne.mpr fun heq => hnames (heq ▸ hb)
    rw [hnone listed ha, hnone listed' fun ha' => ha ((hmem a).mpr ha')]

/-- **Levels do not depend on the order in which activities are listed.** -/
theorem lookup_compute_congr (hmem : ∀ a, a ∈ listed ↔ a ∈ listed') (h : Digraph.Acyclic edges)
    (strategy : LevelStrategy) (hlevels : compute strategy listed edges = .ok levels)
    (hlevels' : compute strategy listed' edges = .ok levels') (a : String) :
    levels.lookup a = levels'.lookup a := by
  cases strategy with
  | longestPath =>
      obtain ⟨f, hok, hf⟩ := exists_longestPaths listed h
      obtain ⟨f', hok', hf'⟩ := exists_longestPaths listed' h
      obtain rfl := Except.ok.inj (hok.symm.trans hlevels)
      obtain rfl := Except.ok.inj (hok'.symm.trans hlevels')
      rw [hf.unique hf']
      refine lookup_graph_congr (fun b => ?_) a
      rw [Digraph.mem_mentionedNodes, Digraph.mem_mentionedNodes, hmem]
  | topologicalIndex =>
      rw [compute, positions, Digraph.topologicalOrder_congr hmem] at hlevels
      rw [compute, positions, hlevels] at hlevels'
      rw [Except.ok.inj hlevels']

end Levels

end ActivityMatrix
