import ActivityMatrix.Proofs.Synthesis.Run

/-!
# The outcome of a run

Every valid matrix that names no activity like an event is drawn, whatever the options, and the
graph is frozen, has no structural problem and shows the activities as its tasks
(`exists_structured_result`). Whatever rearrangements a run makes, no path between events and
activities is ever lost: each graph in the log leads to no more than the last graph does
(`logged_paths_persist`).
-/

namespace ActivityMatrix

open ProcessGraph ActivityMatrix.Digraph

/-! ## Matrices of precedences -/

/-- The matrix that states the given precedences between the given activities and nothing else. -/
def Matrix.ofPrecedences (names : List String) (edges : List (String × String)) : Matrix :=
  let cell (a b : String) : Relation :=
    if a = b then .identity
    else if edges.contains (a, b) then ⟨Temporal.before, Existential.implies⟩
    else if edges.contains (b, a) then ⟨Temporal.after, Existential.impliedBy⟩
    else .unrelated
  .ofCells (.ofList (names.map fun a => (a, .ofList (names.map fun b => (b, cell a b))))) names

/-- Eight activities, several of which have more than one predecessor. -/
def crossing : Matrix :=
  .ofPrecedences ["b", "c", "d", "f", "g", "h", "i", "j"]
    [("b", "g"), ("c", "h"), ("c", "j"), ("d", "b"), ("d", "i"), ("f", "g"), ("g", "j"),
      ("i", "f"), ("i", "h")]

/-- The order that validation finds. -/
def crossingOrder : List String := ["c", "d", "b", "i", "f", "g", "h", "j"]

theorem validate_crossing : crossing.validate none = .ok crossingOrder :=
  eq_ok_of_toOption (by decide +kernel)

namespace Synthesis

open Drafting

variable {m : Matrix} {allowed : Option (List String)} {order : List String}
  {options : SynthesisOptions} {relations : RelationSets} {result : SynthesisResult}

/-! ## Every run ends with a well-structured graph -/

theorem Run.wellStructured (run : Run m allowed order options relations result) :
    result.graph.frozen = true ∧ result.graph.structuralProblems = [] ∧
      WellStructured result.graph ∧ ∀ a, result.graph.isTask a = true ↔ a ∈ order := by
  obtain ⟨d, hd, hgraph, -, -⟩ := run.exists_finished
  have hsound := hd.drawn.sound
  have hstructured := hsound.wellStructured hd.connected hd.repaired
  rw [hgraph, ← run.order_eq]
  refine ⟨rfl, ?_, { hstructured with }, fun a => ?_⟩
  · show d.graph.structuralProblems = []
    exact hsound.structuralProblems_eq_nil hd.connected hd.repaired
  · show d.graph.isTask a = true ↔ _
    exact hsound.isTask_iff

/-- **Every valid matrix is drawn.** Under all options the synthesis has a result, and its graph is
frozen, has no structural problem and shows the activities as its tasks. -/
theorem exists_structured_result (hvalid : m.validate allowed = .ok order)
    (hstart : startEventId ∉ order) (hend : endEventId ∉ order) (options : SynthesisOptions) :
    ∃ relations result, RelationSets.ofMatrix m none = .ok relations ∧
      synthesize options relations = .ok result ∧ result.graph.frozen = true ∧
      result.graph.structuralProblems = [] ∧ WellStructured result.graph ∧
      ∀ a, result.graph.isTask a = true ↔ a ∈ order := by
  obtain ⟨relations, result, run⟩ := exists_run hvalid hstart hend options
  exact ⟨relations, result, run.classified, run.synthesized, run.wellStructured⟩

theorem exists_structured_result_crossing :
    crossing.validate none = .ok crossingOrder ∧ startEventId ∉ crossingOrder ∧
      endEventId ∉ crossingOrder ∧
      ∃ relations result, RelationSets.ofMatrix crossing none = .ok relations ∧
        synthesize { grouping := .layerAware, allowFallbackJoin := false } relations = .ok result ∧
        result.graph.frozen = true ∧ result.graph.structuralProblems = [] ∧
        WellStructured result.graph ∧
        ∀ a, result.graph.isTask a = true ↔ a ∈ crossingOrder :=
  ⟨validate_crossing, by decide, by decide,
    exists_structured_result validate_crossing (by decide) (by decide) _⟩

/-! ## Paths only grow -/

/-- **No path is ever lost.** What leads from one event or activity to another after any step does so
in the result, and every step is in the log. -/
theorem logged_paths_persist (run : Run m allowed order options relations result) :
    (∀ entry ∈ result.log, ∀ u ∈ startEventId :: endEventId :: order,
        ∀ v ∈ startEventId :: endEventId :: order,
          entry.graph.Leads u v → result.graph.Leads u v) ∧
      ∀ step ∈ steps order, ∃ g, ⟨step, g⟩ ∈ result.log := by
  obtain ⟨d, hd, hgraph, -, hlog⟩ := run.exists_finished
  rw [hgraph, hlog, ← run.order_eq]
  exact ⟨hd.drawn.paths, hd.logged⟩

theorem logged_paths_persist_crossing :
    ∃ relations result, Run crossing none crossingOrder {} relations result ∧
      (∀ entry ∈ result.log, ∀ u ∈ startEventId :: endEventId :: crossingOrder,
        ∀ v ∈ startEventId :: endEventId :: crossingOrder,
          entry.graph.Leads u v → result.graph.Leads u v) ∧
      ∀ step ∈ steps crossingOrder, ∃ g, ⟨step, g⟩ ∈ result.log := by
  obtain ⟨relations, result, run⟩ := exists_run validate_crossing (by decide) (by decide) {}
  exact ⟨relations, result, run, logged_paths_persist run⟩

end Synthesis

end ActivityMatrix
