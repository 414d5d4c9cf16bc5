import ActivityMatrix.Artifacts
import ActivityMatrix.Proofs.Matrix.Listing
import ActivityMatrix.Proofs.Synthesis.Outcome
import ActivityMatrix.Proofs.Synthesis.Tidy

/-!
# What a diagram shows

Every valid matrix becomes a diagram, whatever its activities are called, and the nodes of the
diagram that are no gateways are known exactly (`exists_diagram`). Gateways get ids that are free, but
the two events have fixed ones: an activity that is called like the start event finds a node there and
gets no task, and the end event is not added when an activity is called like it. So a diagram shows
its activities and both events if and only if no activity is called like one of the events
(`shows_activities_iff`).
-/

namespace ActivityMatrix

open Drafting ProcessGraph

/-! ## Matrices that are read -/

namespace Matrix

variable {document : Document} {m : Matrix} {allowed : Option (List String)} {order : List String}
  {a : String}

/-- The order of a matrix that is read lists its activities. -/
theorem mem_order_iff (hread : ofDocument document = .ok m)
    (hvalid : m.validate allowed = .ok order) : a ∈ order ↔ a ∈ m.activities :=
  (covers_of_ofDocument hread).endsListed.mem_order_iff hvalid

end Matrix

/-! ## The nodes of a diagram -/

namespace Synthesis

variable {document : Document} {m : Matrix} {allowed : Option (List String)} {order : List String}
  {names : List String} {g : ProcessGraph} {node : Node} {a : String}

/-- The diagram of a valid matrix is what is left of the draft after all phases. -/
theorem toBpmn_of_run {options : SynthesisOptions} {levels : Levels} {d : Draft}
    (hvalid : m.validate allowed = .ok order)
    (hlevels : Levels.compute options.levelStrategy (RelationSets.ofMatrixWithOrder m order).activities
      (RelationSets.ofMatrixWithOrder m order).chains = .ok levels)
    (hrun : (phases ⟨RelationSets.ofMatrixWithOrder m order, levels, options⟩).run blankDraft =
      .ok () d) (pretty : Bool) :
    m.toBpmn allowed options pretty =
      .ok (d.graph.freeze.serialize pretty, ⟨d.graph.freeze, d.diagnostics, levels, d.log⟩) := by
  simp only [Matrix.toBpmn, Matrix.validOrder, hvalid, Except.mapError, bind, Except.bind]
  rw [synthesize_of_run hlevels hrun]
  rfl

/-- The phases do not stop on a valid matrix, whatever its activities are called. -/
theorem exists_draft (hvalid : m.validate allowed = .ok order) (options : SynthesisOptions)
    (levels : Levels) :
    ∃ d, (phases ⟨RelationSets.ofMatrixWithOrder m order, levels, options⟩).run blankDraft =
      .ok () d ∧ Tidy order d.graph := by
  have hyields : Yields (phases ⟨RelationSets.ofMatrixWithOrder m order, levels, options⟩) blankDraft
    fun _ d => Tidy order d.graph := yields_phases_tidy (RelationSets.listed_of_validate hvalid)
  obtain ⟨_, d, hrun, htidy⟩ := hyields.exists_result
  exact ⟨d, hrun, htidy⟩

/-- Every valid matrix becomes a diagram of a tidy graph, whatever its activities are called. -/
theorem exists_diagram (hvalid : m.validate allowed = .ok order) (options : SynthesisOptions)
    (pretty : Bool) :
    ∃ (g : ProcessGraph) (result : SynthesisResult), Tidy order g ∧ result.graph = g.freeze ∧
      m.toBpmn allowed options pretty = .ok (result.graph.serialize pretty, result) := by
  obtain ⟨levels, hlevels⟩ := RelationSets.exists_levels_of_validate hvalid options.levelStrategy
  obtain ⟨d, hrun, htidy⟩ := exists_draft hvalid options levels
  exact ⟨d.graph, ⟨d.graph.freeze, d.diagnostics, levels, d.log⟩, htidy, rfl,
    toBpmn_of_run hvalid hlevels hrun pretty⟩

/-- A node that is listed is the only one with its id. -/
theorem filter_id_eq (hnodup : g.ids.Nodup) (hnode : node ∈ g.nodes) :
    g.nodes.filter (·.id = node.id) = [node] := by
  refine filter_eq_singleton (List.Nodup.of_map Node.id hnodup) hnode fun other hother => ?_
  rw [decide_eq_true_eq]
  exact ⟨fun heq => List.inj_on_of_nodup_map hnodup hother hnode heq, congrArg Node.id⟩

/-- The nodes of a kind that is no gateway are among those that are no gateways. -/
theorem filter_kind_eq (htidy : Tidy names g) (kind : NodeKind) (hkind : kind.isGateway = false) :
    g.nodes.filter (·.kind = kind) = (fixedNodes names).filter (·.kind = kind) := by
  rw [← htidy.fixed, List.filter_filter]
  refine List.filter_congr fun node _ => ?_
  by_cases hnode : node.kind = kind <;> simp [hnode, Node.isGateway, hkind]

theorem filter_kind_tasks {kind : NodeKind} (hkind : kind ≠ .task) :
    (names.map taskNode).filter (·.kind = kind) = [] := by
  refine List.filter_eq_nil_iff.mpr fun node hnode => ?_
  obtain ⟨a, -, rfl⟩ := List.mem_map.mp hnode
  simp [taskNode, hkind.symm]

/-- What a graph shows of its activities and events whatever they are called. -/
structure Shown (names : List String) (g : ProcessGraph) : Prop where
  node_of_mem : ∀ a ∈ names, a ≠ startEventId → g.nodes.filter (·.id = a) = [taskNode a]
  mem_of_isTask : ∀ node ∈ g.nodes, node.isTask = true → node.id ∈ names ∧ node.id ≠ startEventId
  starts : g.nodes.filter (·.kind = .startEvent) = [startNode]
  ends : g.nodes.filter (·.kind = .endEvent) = if endEventId ∈ names then [] else [endNode]

theorem shown_of_tidy (htidy : Tidy names g) : Shown names g where
  node_of_mem a ha hstart :=
    filter_id_eq htidy.ids_nodup
      (htidy.mem_nodes_of_mem (mem_fixedNodes.mpr (.inr (.inl ⟨a, ha, hstart, rfl⟩))))
  mem_of_isTask node hnode htask := by
    have hkind : node.kind = .task := by simpa [Node.isTask] using htask
    have hgateway : node.isGateway = false := by simp [Node.isGateway, hkind, NodeKind.isGateway]
    rcases mem_fixedNodes.mp (htidy.mem_fixedNodes_of_mem hnode hgateway) with
      rfl | ⟨a, ha, hstart, rfl⟩ | ⟨-, rfl⟩
    · cases hkind
    · exact ⟨ha, hstart⟩
    · cases hkind
  starts := by
    rw [filter_kind_eq htidy _ rfl, fixedNodes, List.filter_cons_of_pos (by decide),
      List.filter_append, filter_kind_tasks (by decide)]
    split <;> rfl
  ends := by
    rw [filter_kind_eq htidy _ rfl, fixedNodes, List.filter_cons_of_neg (by decide),
      List.filter_append, filter_kind_tasks (by decide)]
    split <;> rfl

/-- A graph shows each activity by exactly one task and has no further task, one start event, and one
end event. -/
structure ShowsActivities (names : List String) (g : ProcessGraph) : Prop where
  task_of_mem : ∀ a ∈ names, (g.nodes.filter fun node => node.isTask ∧ node.id = a).length = 1
  mem_of_isTask : ∀ node ∈ g.nodes, node.isTask = true → node.id ∈ names
  starts : (g.nodes.filter (·.kind = .startEvent)).length = 1
  ends : (g.nodes.filter (·.kind = .endEvent)).length = 1

/-- All activities are shown exactly if none of them is called like an event. -/
theorem Shown.showsActivities_iff (h : Shown names g) :
    ShowsActivities names g ↔ startEventId ∉ names ∧ endEventId ∉ names := by
  constructor
  · intro hall
    constructor
    · intro hstart
      -- the only candidate for a task of that name is the event
      obtain ⟨node, hnode⟩ := List.exists_mem_of_length_pos
        (Nat.lt_of_lt_of_eq Nat.one_pos (hall.task_of_mem _ hstart).symm)
      obtain ⟨hmem, htask⟩ := List.mem_filter.mp hnode
      obtain ⟨htask, hid⟩ : node.isTask = true ∧ node.id = startEventId := by simpa using htask
      exact (h.mem_of_isTask node hmem htask).2 hid
    · intro hend
      have hone := hall.ends
      rw [h.ends, if_pos hend] at hone
      exact absurd hone (by decide)
  · rintro ⟨hstart, hend⟩
    refine ⟨fun a ha => ?_, fun node hnode htask => (h.mem_of_isTask node hnode htask).1, ?_, ?_⟩
    · have hne : a ≠ startEventId := fun heq => hstart (heq ▸ ha)
      have hboth : (g.nodes.filter fun node => node.isTask ∧ node.id = a) =
          (g.nodes.filter (·.id = a)).filter (·.isTask) := by
        rw [List.filter_filter]
        refine List.filter_congr fun node _ => ?_
        simp
      rw [hboth, h.node_of_mem a ha hne]
      rfl
    · rw [h.starts]
      rfl
    · rw [h.ends, if_neg hend]
      rfl

/-- **Activities are shown unless they are called like an event.** Every matrix that is read and
valid becomes a diagram. In it each activity but one that is called like the start event has a single
node, which is a task, and there is no further task; there is one start event; and there is one end
event, or none if an activity is called like it. -/
theorem shows_activities_iff (hread : Matrix.ofDocument document = .ok m)
    (hvalid : m.validate allowed = .ok order) (options : SynthesisOptions) (pretty : Bool) :
    ∃ xml result, m.toBpmn allowed options pretty = .ok (xml, result) ∧
      Shown m.activities result.graph ∧
      (ShowsActivities m.activities result.graph ↔
        startEventId ∉ m.activities ∧ endEventId ∉ m.activities) := by
  obtain ⟨g, result, htidy, hgraph, hbpmn⟩ := exists_diagram hvalid options pretty
  have hshown : Shown m.activities result.graph := by
    rw [hgraph]
    obtain ⟨hnode, htask, hstarts, hends⟩ := shown_of_tidy htidy
    simp only [Matrix.mem_order_iff hread hvalid] at hnode htask hends
    exact ⟨hnode, htask, hstarts, hends⟩
  exact ⟨_, result, hbpmn, hshown, hshown.showsActivities_iff⟩

/-- A matrix of one activity, which is called like the start event. -/
def lonelyStart : Matrix :=
  .ofCells (.ofList [(startEventId, .ofList [(startEventId, .identity)])]) []

theorem shows_activities_iff_lonelyStart :
    Matrix.ofDocument lonelyStart.toDocument = .ok lonelyStart ∧
      lonelyStart.validate none = .ok [startEventId] ∧
      ∃ xml result, lonelyStart.toBpmn none {} true = .ok (xml, result) ∧
        Shown lonelyStart.activities result.graph ∧
        (ShowsActivities lonelyStart.activities result.graph ↔
          startEventId ∉ lonelyStart.activities ∧ endEventId ∉ lonelyStart.activities) :=
  have hread : Matrix.ofDocument lonelyStart.toDocument = .ok lonelyStart :=
    eq_ok_of_toOption (by decide +kernel)
  have hvalid : lonelyStart.validate none = .ok [startEventId] :=
    eq_ok_of_toOption (by decide +kernel)
  ⟨hread, hvalid, shows_activities_iff hread hvalid {} true⟩

end Synthesis

end ActivityMatrix
