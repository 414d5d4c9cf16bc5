import ActivityMatrix.Proofs.Matrix.Mirror
import ActivityMatrix.Proofs.RelationSets.Classified
import ActivityMatrix.Proofs.RelationSets.Reordered

/-!
# Relation sets of the mirror

Classification goes through the cells one by one, and each cell of the mirror is a cell of the matrix
turned around: row and column exchanged, the relation its converse (`mem_properCells_mirror_iff`). A
turned cell states the same precedence and the same unordered pair as before. Only the one-directional
implications name a row and a column, and so they are the one set that tells a matrix from its mirror:
each of them is read from the other side (`mirror_alike`).
-/

namespace ActivityMatrix

/-- The side from which the other activity reads an implication. -/
def OptionalSide.other : OptionalSide → OptionalSide
  | optionalTo => optionalFrom
  | optionalFrom => optionalTo

namespace RelationSets

open ActivityMatrix.Matrix

variable {m m' : Matrix} {cells : List (String × String × Relation)}

/-- An implication read from the other activity. -/
def turnImplication (implication : String × String × OptionalSide) : String × String × OptionalSide :=
  (implication.2.1, implication.1, implication.2.2.other)

/-- The relation sets in which every one-directional implication is read from the other activity. -/
def turnOptional (r : RelationSets) : RelationSets :=
  { r with optional := sortBy optionalLE (r.optional.map turnImplication) }

theorem turnImplication_involutive : Function.Involutive turnImplication := by
  rintro ⟨a, b, side⟩
  cases side <;> rfl

/-! ## Turned cells -/

/-- The cell across, as it stands in the mirror. -/
def turnCell (cell : String × String × Relation) : String × String × Relation :=
  (cell.2.1, cell.1, cell.2.2.converse)

theorem turnCell_involutive : Function.Involutive turnCell :=
  fun cell => Prod.ext rfl (Prod.ext rfl cell.2.2.converse_converse)

/-- The cells of the mirror are the turned cells of the matrix. -/
theorem mem_properCells_mirror_iff (h : Mirrors m m') (cell : String × String × Relation) :
    cell ∈ properCells m' ↔ cell ∈ (properCells m).map turnCell := by
  rw [List.mem_map_of_involutive turnCell_involutive, mem_properCells, mem_properCells, h.get?_eq_some_iff]
  exact and_congr_right fun _ => ne_comm

theorem precedence?_turned (a b : String) (r : Relation) :
    precedence? b a r.converse = precedence? a b r := by
  refine Option.ext fun edge => ?_
  rw [precedence?_eq_some_iff, precedence?_eq_some_iff, r.precedes_converse, r.follows_converse,
    ne_comm, or_comm]

theorem optionalSide?_converse (r : Relation) :
    optionalSide? r.converse = (optionalSide? r).map OptionalSide.other := by
  obtain ⟨temporal, existential⟩ := r
  by_cases himplies : existential = Existential.implies
  · subst himplies
    rfl
  · by_cases himplied : existential = Existential.impliedBy
    · subst himplied
      rfl
    · simp [optionalSide?, Relation.converse, Existential.converse, himplies, himplied]

theorem statedEdges_turned (cells : List (String × String × Relation)) :
    statedEdges (cells.map turnCell) = statedEdges cells := by
  simp only [statedEdges, List.filterMap_map, Function.comp_def, turnCell, precedence?_turned]

/-- A pair is stated in either order, so it is stated by the turned cell if the test holds of it. -/
theorem statedPairs_turned {test test' : String → String → Relation → Bool}
    (htest : ∀ a b r, test' b a r.converse = test a b r) :
    statedPairs test' (cells.map turnCell) = statedPairs test cells := by
  have hpair : (fun cell : String × String × Relation => canonicalPair cell.2.1 cell.1) =
      fun cell => canonicalPair cell.1 cell.2.1 := funext fun _ => canonicalPair_comm _ _
  simp only [statedPairs, List.filter_map, List.map_map, Function.comp_def, turnCell, htest, hpair]

theorem statedOptional_turned (cells : List (String × String × Relation)) :
    statedOptional (cells.map turnCell) =
      sortBy optionalLE ((statedOptional cells).map turnImplication) := by
  have hstated : ∀ cell : String × String × Relation,
      (optionalSide? (turnCell cell).2.2).map (fun side => ((turnCell cell).1, (turnCell cell).2.1, side)) =
        ((optionalSide? cell.2.2).map fun side => (cell.1, cell.2.1, side)).map turnImplication := by
    intro cell
    rw [turnCell, optionalSide?_converse, Option.map_map, Option.map_map]
    rfl
  have hinjective := turnImplication_involutive.injective
  refine sortBy_eq_of_perm isOrder_optionalLE ?_
  rw [List.filterMap_map]
  simp only [Function.comp_def, hstated]
  rw [← List.map_filterMap]
  refine (List.perm_ext_iff_of_nodup (nodup_distinct _) ?_).mpr fun implication => ?_
  · exact ((perm_sortBy _).nodup_iff.mpr (nodup_distinct _)).map hinjective
  · simp only [statedOptional, mem_distinct, List.mem_map, mem_sortBy]

/-- The relation sets of the mirror, whatever the order. -/
theorem ofMatrixWithOrder_mirror (h : Mirrors m m') (order : List String) :
    ofMatrixWithOrder m' order = (ofMatrixWithOrder m order).turnOptional := by
  have hcells := mem_properCells_mirror_iff h
  have hdirect : ∀ cell, cell ∈ (properCells m').filter (·.2.2.isDirect) ↔
      cell ∈ ((properCells m).filter (·.2.2.isDirect)).map turnCell := by
    intro cell
    have hturned : ((properCells m).filter (·.2.2.isDirect)).map turnCell =
        ((properCells m).map turnCell).filter (·.2.2.isDirect) := by
      simp only [List.filter_map, Function.comp_def, turnCell, Relation.isDirect_converse]
    rw [hturned, List.mem_filter, List.mem_filter, hcells]
  -- a set of unordered pairs does not tell a cell from the one across
  have hpairs : ∀ {symbol : String}, Existential.converse symbol = symbol →
      statedPairs (fun _ _ r => r.existential == symbol) (properCells m') =
        statedPairs (fun _ _ r => r.existential == symbol) (properCells m) := fun hsymbol =>
    (statedPairs_congr hcells _).trans
      (statedPairs_turned fun _ _ _ => Relation.existential_converse_beq hsymbol)
  have hparallel : statedPairs (fun a b r => r.existential == Existential.equivalent && r.isUnordered &&
        (m'.relation b a).isUnordered) (properCells m') =
      statedPairs (fun a b r => r.existential == Existential.equivalent && r.isUnordered &&
        (m.relation b a).isUnordered) (properCells m) := by
    refine (statedPairs_congr hcells _).trans (statedPairs_turned fun a b r => ?_)
    rw [Relation.existential_converse_beq (by decide), r.isUnordered_converse, h.relation_eq,
      Relation.isUnordered_converse]
  simp only [ofMatrixWithOrder, turnOptional, h.activities, hparallel, hpairs (show
      Existential.converse Existential.exclusive = Existential.exclusive by decide), hpairs (show
      Existential.converse Existential.inclusive = Existential.inclusive by decide),
    (statedEdges_congr hcells).trans (statedEdges_turned _),
    (statedEdges_congr hdirect).trans (statedEdges_turned _),
    (statedOptional_congr hcells).trans (statedOptional_turned _)]

/-- **A matrix and its mirror say the same.** Validation accepts the mirror exactly if it accepts the
matrix, and with the same order; classification, with a known order or without one, answers the same for
both, but that each one-directional implication is read from the other side. -/
theorem mirror_alike (h : Mirrors m m') :
    (∀ allowed order, m'.validate allowed = .ok order ↔ m.validate allowed = .ok order) ∧
      ∀ known, ofMatrix m' known = (ofMatrix m known).map turnOptional := by
  refine ⟨fun allowed order => h.validate_iff, fun known => ?_⟩
  cases known with
  | some order => exact congrArg Except.ok (ofMatrixWithOrder_mirror h order)
  | none =>
      rw [ofMatrix, ofMatrix, h.activities, statedEdges_properCells, statedEdges_properCells,
        h.precedenceEdges_eq]
      cases Digraph.topologicalOrder m.activities m.precedenceEdges with
      | ok order => exact congrArg Except.ok (ofMatrixWithOrder_mirror h order)
      | error cycle => rfl

/-- Three activities that are ordered two by two, each time by one of the two cells only. -/
def lopsidedTriple : Matrix :=
  .ofCells (.ofList [
    ("a", .ofList [("a", .identity), ("b", ⟨"<d", "⇐"⟩), ("c", ⟨"-", "∨"⟩)]),
    ("b", .ofList [("a", ⟨"-", "⇒"⟩), ("b", .identity), ("c", ⟨">", "⇔"⟩)]),
    ("c", .ofList [("a", ⟨"<", "⇒"⟩), ("b", ⟨"-", "⇔"⟩), ("c", .identity)])]) ["a", "b", "c"]

theorem mirror_alike_lopsidedTriple :
    Mirrors lopsidedTriple lopsidedTriple.mirror ∧
      ((∀ allowed order, lopsidedTriple.mirror.validate allowed = .ok order ↔
          lopsidedTriple.validate allowed = .ok order) ∧
        ∀ known, ofMatrix lopsidedTriple.mirror known =
          (ofMatrix lopsidedTriple known).map turnOptional) ∧
      lopsidedTriple.validate none = .ok ["c", "a", "b"] ∧
      (ofMatrixWithOrder lopsidedTriple ["c", "a", "b"]).optional =
        [("a", "b", .optionalFrom), ("b", "a", .optionalTo), ("c", "a", .optionalTo)] ∧
      (ofMatrixWithOrder lopsidedTriple.mirror ["c", "a", "b"]).optional =
        [("a", "b", .optionalFrom), ("a", "c", .optionalFrom), ("b", "a", .optionalTo)] := by
  have hmirrors := mirrors_mirror lopsidedTriple
  have horder : lopsidedTriple.validate none = .ok ["c", "a", "b"] :=
    eq_ok_of_toOption (by decide +kernel)
  exact ⟨hmirrors, mirror_alike hmirrors, horder, by decide +kernel, by decide +kernel⟩

end RelationSets

end ActivityMatrix
