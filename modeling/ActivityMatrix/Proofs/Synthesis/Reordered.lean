import ActivityMatrix.Proofs.RelationSets.Reordered
import ActivityMatrix.Proofs.Synthesis.Shown

/-!
# Diagrams do not see the order of a matrix

A synthesis reads its plan only through the relations other than the list of activities, through the
level of each activity, and through the options. Plans that agree on these are *alike*, and every step
of a synthesis is the same under alike plans: one equation for each function that takes a plan, up to
`Alike.phases_eq`. Matrices that differ in order only have alike plans, so one run serves both, and
they have the same diagram (`diagram_of_reordered`).
-/

namespace ActivityMatrix

namespace SynthesisPlan

variable {plan plan' : SynthesisPlan}

/-- Two plans that may differ in the list of activities, and in the order in which levels are listed,
but not in anything else. -/
structure Alike (plan plan' : SynthesisPlan) : Prop where
  relations : plan'.relations = { plan.relations with activities := plan'.relations.activities }
  level : plan'.level = plan.level
  options : plan'.options = plan.options

namespace Alike

open Drafting

variable (h : Alike plan plan')
include h

/-! ## Expansion -/

theorem collectExits_eq : collectExits plan' = collectExits plan := by
  unfold collectExits
  rw [h.relations]
  rfl

theorem joinAt_eq : joinAt plan' = joinAt plan := by
  unfold joinAt
  rw [h.collectExits_eq]

theorem converge_eq : converge plan' = converge plan := by
  unfold converge
  rw [h.joinAt_eq, h.relations, h.options]
  rfl

theorem splitJoin_eq : splitJoin plan' = splitJoin plan := by
  unfold splitJoin
  rw [h.converge_eq]

theorem splitGroup_eq : splitGroup plan' = splitGroup plan := by
  unfold splitGroup
  rw [h.splitJoin_eq]

theorem split_eq : split plan' = split plan := by
  unfold split
  rw [h.splitJoin_eq, h.splitGroup_eq, h.converge_eq, h.relations]
  rfl

theorem buildAfter_eq : buildAfter plan' = buildAfter plan := by
  unfold buildAfter
  rw [h.split_eq, h.level, h.relations]
  rfl

theorem expandWithin_eq : expandWithin plan' = expandWithin plan := by
  funext fuel
  induction fuel with
  | zero => rfl
  | succ fuel ih =>
      funext activity
      simp only [expandWithin]
      rw [h.buildAfter_eq, ih, h.options, h.relations]
      rfl

theorem expand_eq : expand plan' = expand plan := by
  unfold expand
  rw [h.expandWithin_eq, h.relations]
  rfl

theorem expandAll_eq : expandAll plan' = expandAll plan := by
  unfold expandAll
  rw [h.expand_eq, h.relations]

theorem addNodes_eq : addNodes plan' = addNodes plan := by
  unfold addNodes
  rw [h.relations]

theorem synthesizeStart_eq : synthesizeStart plan' = synthesizeStart plan := by
  unfold synthesizeStart
  rw [h.buildAfter_eq, h.expand_eq, h.options, h.relations]
  rfl

/-! ## Stitching -/

theorem attachToOpen_eq : attachToOpen plan' = attachToOpen plan := by
  unfold attachToOpen
  rw [h.expand_eq, h.splitJoin_eq, h.relations]
  rfl

theorem branchOff_eq : branchOff plan' = branchOff plan := by
  unfold branchOff
  rw [h.expand_eq, h.relations]
  rfl

theorem attachGroup_eq : attachGroup plan' = attachGroup plan := by
  unfold attachGroup
  rw [h.attachToOpen_eq, h.branchOff_eq]

theorem attachOrphans_eq : attachOrphans plan' = attachOrphans plan := by
  unfold attachOrphans
  rw [h.attachGroup_eq, h.relations]
  rfl

theorem mergeInto_eq : mergeInto plan' = mergeInto plan := by
  unfold mergeInto
  rw [h.relations]
  rfl

theorem resolvePending_eq : resolvePending plan' = resolvePending plan := by
  unfold resolvePending
  rw [h.mergeInto_eq]

/-! ## The ends and the whole run -/

theorem attachHeads_eq : attachHeads plan' = attachHeads plan := by
  unfold attachHeads
  rw [h.relations]
  rfl

theorem synthesizeEnd_eq : synthesizeEnd plan' = synthesizeEnd plan := by
  unfold synthesizeEnd
  rw [h.relations]
  rfl

theorem phases_eq : Synthesis.phases plan' = Synthesis.phases plan := by
  unfold Synthesis.phases
  rw [h.addNodes_eq, h.synthesizeStart_eq, h.expandAll_eq, h.attachOrphans_eq, h.resolvePending_eq,
    h.attachHeads_eq, h.synthesizeEnd_eq]

end Alike

end SynthesisPlan

/-! ## Diagrams -/

namespace Synthesis

open Drafting

variable {m m' : Matrix} {allowed : Option (List String)} {order : List String}
  {options : SynthesisOptions} {levels levels' : Levels}

/-- Matrices that differ in order only have alike plans. -/
theorem alike_of_reordered (h : m.Reordered m')
    (hlevels : ∀ a, levels.lookup a = levels'.lookup a) :
    SynthesisPlan.Alike ⟨RelationSets.ofMatrixWithOrder m order, levels, options⟩
      ⟨RelationSets.ofMatrixWithOrder m' order, levels', options⟩ where
  relations := RelationSets.ofMatrixWithOrder_reordered h order
  level := by
    funext a
    simp only [SynthesisPlan.level, Levels.level, hlevels]
  options := rfl

/-- **Diagrams do not see the order of a matrix.** Of two matrices that hold the same cells and list
the same activities, each once, one is valid exactly if the other one is, with the same order of the
activities. Then their relation sets differ in the list of activities only, and under all options both
become diagrams, with the same text, the same graph, the same diagnostics, the same steps, and the
same level for each activity. -/
theorem diagram_of_reordered (h : m.Reordered m') (allowed : Option (List String))
    (order : List String) :
    (m.validate allowed = .ok order ↔ m'.validate allowed = .ok order) ∧
      (m.validate allowed = .ok order → ∀ (options : SynthesisOptions) (pretty : Bool),
        RelationSets.ofMatrixWithOrder m' order =
            { RelationSets.ofMatrixWithOrder m order with activities := m'.activities } ∧
          ∃ xml result result', m.toBpmn allowed options pretty = .ok (xml, result) ∧
            m'.toBpmn allowed options pretty = .ok (xml, result') ∧
            result'.graph = result.graph ∧ result'.diagnostics = result.diagnostics ∧
            result'.log = result.log ∧ ∀ a, result'.levels.lookup a = result.levels.lookup a) := by
  refine ⟨h.validate_iff allowed order, fun hvalid options pretty =>
    ⟨RelationSets.ofMatrixWithOrder_reordered h order, ?_⟩⟩
  have hvalid' : m'.validate allowed = .ok order := (h.validate_iff allowed order).mp hvalid
  obtain ⟨levels, hlevels⟩ := RelationSets.exists_levels_of_validate hvalid options.levelStrategy
  obtain ⟨levels', hlevels'⟩ := RelationSets.exists_levels_of_validate hvalid' options.levelStrategy
  have hsame : ∀ a, levels.lookup a = levels'.lookup a := by
    have hchains : (RelationSets.ofMatrixWithOrder m' order).chains =
        (RelationSets.ofMatrixWithOrder m order).chains := by
      rw [RelationSets.ofMatrixWithOrder_reordered h]
    rw [hchains] at hlevels'
    exact Levels.lookup_compute_congr h.mem_activities
      (RelationSets.acyclic_chains_of_validate hvalid) _ hlevels hlevels'
  -- one run of the phases serves both matrices
  obtain ⟨d, hrun, -⟩ := exists_draft hvalid options levels
  have hrun' : (phases ⟨RelationSets.ofMatrixWithOrder m' order, levels', options⟩).run blankDraft =
      .ok () d := by
    rw [(alike_of_reordered h hsame).phases_eq]
    exact hrun
  exact ⟨d.graph.freeze.serialize pretty, ⟨d.graph.freeze, d.diagnostics, levels, d.log⟩,
    ⟨d.graph.freeze, d.diagnostics, levels', d.log⟩, toBpmn_of_run hvalid hlevels hrun pretty,
    toBpmn_of_run hvalid' hlevels' hrun' pretty, rfl, rfl, rfl, fun a => (hsame a).symm⟩

/-- Four activities, two of them between the first and the last. -/
def diamond : Matrix :=
  .ofPrecedences ["a", "b", "c", "d"] [("a", "b"), ("a", "c"), ("b", "d"), ("c", "d")]

/-- The same activities, listed from the last to the first in all places. -/
def turnedDiamond : Matrix :=
  .ofPrecedences ["d", "c", "b", "a"] [("a", "b"), ("a", "c"), ("b", "d"), ("c", "d")]

theorem reordered_diamond : diamond.Reordered turnedDiamond where
  nodup := by decide +kernel
  nodup' := by decide +kernel
  mem_activities _ :=
    (show diamond.activities.Perm turnedDiamond.activities by decide +kernel).mem_iff
  mem_rows _ := (show diamond.rows.Perm turnedDiamond.rows by decide +kernel).mem_iff
  mem_cells _ := (show diamond.cellList.Perm turnedDiamond.cellList by decide +kernel).mem_iff

theorem diagram_of_reordered_diamond :
    diamond.Reordered turnedDiamond ∧ diamond.validate none = .ok ["a", "b", "c", "d"] ∧
      turnedDiamond.validate none = .ok ["a", "b", "c", "d"] ∧
      ∃ xml result result', diamond.toBpmn none {} true = .ok (xml, result) ∧
        turnedDiamond.toBpmn none {} true = .ok (xml, result') ∧
        result'.graph = result.graph ∧ result'.diagnostics = result.diagnostics ∧
        result'.log = result.log ∧ ∀ a, result'.levels.lookup a = result.levels.lookup a := by
  have hvalid : diamond.validate none = .ok ["a", "b", "c", "d"] :=
    eq_ok_of_toOption (by decide +kernel)
  obtain ⟨hiff, hsame⟩ := diagram_of_reordered reordered_diamond none ["a", "b", "c", "d"]
  exact ⟨reordered_diamond, hvalid, hiff.mp hvalid, (hsame hvalid {} true).2⟩

end Synthesis

end ActivityMatrix
