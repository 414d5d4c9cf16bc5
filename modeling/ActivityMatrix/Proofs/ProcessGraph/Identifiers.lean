import Mathlib.Data.List.Nodup
import Mathlib.Data.Set.Function
import ActivityMatrix.ProcessGraph.Bpmn
import ActivityMatrix.Proofs.Digraph.Reachability
import ActivityMatrix.Proofs.Sorting
import ActivityMatrix.Proofs.Xml

/-!
# The ids of a BPMN document

The frame, the process, the nodes, and the flows of a document have an id each, and a node refers to
its flows by theirs. Flows have the ids that their ends make up, so two flows may share one. The ids
of a document are distinct exactly if no two flows share one and no node is called like the frame, the
process, or a flow (`hasDistinctIds_iff`). Every reference of a node meets a flow that enters or
leaves it (`meetsReferences`), and every reference names one flow alone exactly if no two flows share
an id (`resolvesReferences_iff`).
-/

namespace ActivityMatrix

/-! ## Reading a document -/

namespace Xml

/-- The value of an attribute. -/
def attribute? (key : String) : Xml → Option String
  | leaf _ attributes _ => attributes.lookup key
  | branch _ attributes _ => attributes.lookup key

/-- The text of an element with a tag. -/
def textOf? (tag : String) : Xml → Option String
  | leaf own _ text => if own = tag then some text else none
  | branch _ _ _ => none

/-- The texts of the elements with a tag right inside an element. -/
def texts (tag : String) : Xml → List String
  | leaf _ _ _ => []
  | branch _ _ children => children.filterMap (textOf? tag)

/-- The ids that the elements of a document have. -/
def ids (root : Xml) : List String :=
  root.elements.filterMap (attribute? "id")

/-- Whether an element is a flow with an id. -/
def isFlowWithId (id : String) (element : Xml) : Bool :=
  element.tag == ProcessGraph.bpmnTag "sequenceFlow" && element.attribute? "id" == some id

/-- The flows with an id. -/
def flowsWithId (root : Xml) (id : String) : List Xml :=
  root.elements.filter (isFlowWithId id)

/-- An element refers by an id to a flow for which it should be the target or the source. -/
inductive Refers (root element : Xml) : (key id : String) → Prop
  | incoming {id : String} (helement : element ∈ root.elements)
      (hid : id ∈ element.texts (ProcessGraph.bpmnTag "incoming")) : Refers root element "targetRef" id
  | outgoing {id : String} (helement : element ∈ root.elements)
      (hid : id ∈ element.texts (ProcessGraph.bpmnTag "outgoing")) : Refers root element "sourceRef" id

/-- No two elements have the same id. -/
def HasDistinctIds (root : Xml) : Prop :=
  root.ids.Nodup

/-- Every reference meets a flow with the right end. -/
def MeetsReferences (root : Xml) : Prop :=
  ∀ {element : Xml} {key id : String}, Refers root element key id →
    ∃ flow ∈ root.flowsWithId id, flow.attribute? key = element.attribute? "id"

/-- Every reference names one flow alone, and that has the right end. -/
def ResolvesReferences (root : Xml) : Prop :=
  ∀ {element : Xml} {key id : String}, Refers root element key id →
    ∃ flow, root.flowsWithId id = [flow] ∧ flow.attribute? key = element.attribute? "id"

end Xml

/-! ## The document of a graph -/

namespace ProcessGraph

open Xml

variable {g : ProcessGraph} {node : Node} {flow : Flow} {element : Xml} {key id : String}

/-- The process of a document. -/
def processElement (g : ProcessGraph) : Xml :=
  .branch (bpmnTag "process") [("id", processId), ("isExecutable", "false")]
    (g.nodes.map g.nodeElement ++ g.flows.map flowElement)

/-- The references of a node. -/
def references (g : ProcessGraph) (node : Node) : List Xml :=
  (g.incomingFlows node.id).map (fun flow => .leaf (bpmnTag "incoming") [] (flowId flow))
    ++ (g.outgoingFlows node.id).map fun flow => .leaf (bpmnTag "outgoing") [] (flowId flow)

theorem elements_nodeElement :
    (g.nodeElement node).elements = g.nodeElement node :: g.references node := by
  have hreferences : elementsOf (g.references node) = g.references node := by
    rw [references, elementsOf_append, elementsOf_map_of_elements fun _ => rfl,
      elementsOf_map_of_elements fun _ => rfl]
  exact congrArg (g.nodeElement node :: ·) hreferences

/-- The elements of a document. -/
theorem elements_toXml : g.toXml.elements = g.toXml :: g.processElement ::
    (g.nodes.flatMap (fun node => g.nodeElement node :: g.references node)
      ++ g.flows.map flowElement) := by
  have hchildren : elementsOf (g.nodes.map g.nodeElement ++ g.flows.map flowElement) =
      g.nodes.flatMap (fun node => g.nodeElement node :: g.references node)
        ++ g.flows.map flowElement := by
    rw [elementsOf_append, elementsOf_map, elementsOf_map_of_elements fun _ => rfl]
    simp only [elements_nodeElement]
  have hprocess : elementsOf [g.processElement] = g.processElement ::
      (g.nodes.flatMap (fun node => g.nodeElement node :: g.references node)
        ++ g.flows.map flowElement) := by
    rw [elementsOf, elementsOf, List.append_nil, processElement, elements, hchildren]
  exact congrArg (g.toXml :: ·) hprocess

theorem attribute?_nodeElement : (g.nodeElement node).attribute? "id" = some node.id := rfl

theorem attribute?_of_mem_references (h : element ∈ g.references node) :
    element.attribute? key = none := by
  rcases List.mem_append.mp h with h | h <;> obtain ⟨_, -, rfl⟩ := List.mem_map.mp h <;> rfl

/-- The ids of a document are those of its frame and process, of its nodes, and of its flows. -/
theorem ids_toXml :
    g.toXml.ids = definitionsId :: processId :: (g.ids ++ g.flows.map flowId) := by
  have hnode : ∀ node : Node,
      (g.nodeElement node :: g.references node).filterMap (attribute? "id") = [node.id] := by
    intro node
    rw [List.filterMap_cons_some attribute?_nodeElement,
      List.filterMap_eq_nil_iff.mpr fun _ h => attribute?_of_mem_references h]
  have hnodes : (g.nodes.flatMap fun node => g.nodeElement node :: g.references node).filterMap
      (attribute? "id") = g.ids := by
    rw [List.filterMap_flatMap, ids]
    simp only [hnode]
    exact List.flatMap_pure_eq_map Node.id g.nodes
  have hflows : (g.flows.map flowElement).filterMap (attribute? "id") = g.flows.map flowId := by
    rw [List.filterMap_map]
    exact congrFun List.filterMap_eq_map' g.flows
  rw [Xml.ids, elements_toXml]
  rw [List.filterMap_cons_some (show g.toXml.attribute? "id" = some definitionsId from rfl),
    List.filterMap_cons_some (show g.processElement.attribute? "id" = some processId from rfl),
    List.filterMap_append, hnodes, hflows]

/-- What is not written as a flow is not a flow with an id. -/
theorem isFlowWithId_of_tag_ne (h : element.tag ≠ bpmnTag "sequenceFlow") :
    isFlowWithId id element = false := by
  simp [isFlowWithId, h]

theorem isFlowWithId_nodeElement : isFlowWithId id (g.nodeElement node) = false := by
  refine isFlowWithId_of_tag_ne ?_
  change bpmnTag node.kind.tag ≠ bpmnTag "sequenceFlow"
  match node.kind with
  | .task | .startEvent | .endEvent => decide
  | .gateway .exclusive | .gateway .parallel | .gateway .inclusive => decide

theorem isFlowWithId_flowElement : isFlowWithId id (flowElement flow) = (flowId flow == id) := by
  simp [isFlowWithId, flowElement, tag, attribute?]

/-- The flows with an id in a document are those of the graph that have it. -/
theorem flowsWithId_toXml :
    g.toXml.flowsWithId id = (g.flows.filter (flowId · == id)).map flowElement := by
  have hframe : isFlowWithId id g.toXml = false :=
    isFlowWithId_of_tag_ne (show bpmnTag "definitions" ≠ bpmnTag "sequenceFlow" by decide)
  have hprocess : isFlowWithId id g.processElement = false :=
    isFlowWithId_of_tag_ne (show bpmnTag "process" ≠ bpmnTag "sequenceFlow" by decide)
  have hnodes : (g.nodes.flatMap fun node => g.nodeElement node :: g.references node).filter
      (isFlowWithId id) = [] := by
    refine List.filter_eq_nil_iff.mpr fun element helement => ?_
    obtain ⟨node, -, helement⟩ := List.mem_flatMap.mp helement
    rcases List.mem_cons.mp helement with rfl | helement
    · simp [isFlowWithId_nodeElement]
    · simp [isFlowWithId, attribute?_of_mem_references helement]
  have hflows : (g.flows.map flowElement).filter (isFlowWithId id) =
      (g.flows.filter (flowId · == id)).map flowElement := by
    rw [List.filter_map]
    simp only [Function.comp_def, isFlowWithId_flowElement]
  rw [flowsWithId, elements_toXml, List.filter_cons_of_neg (by simp [hframe]),
    List.filter_cons_of_neg (by simp [hprocess]), List.filter_append, hnodes, hflows,
    List.nil_append]

theorem flowElement_injective : Function.Injective flowElement := by
  rintro ⟨a, b⟩ ⟨a', b'⟩ h
  simp only [flowElement, Xml.branch.injEq, List.cons.injEq, Prod.mk.injEq] at h
  obtain ⟨-, ⟨-, ⟨-, rfl⟩, ⟨-, rfl⟩, -⟩, -⟩ := h
  rfl

/-! ## References -/

/-- The texts of references with a tag. -/
theorem texts_nodeElement (g : ProcessGraph) (node : Node) (tag : String) :
    (g.nodeElement node).texts tag = (g.references node).filterMap (textOf? tag) := rfl

theorem mem_texts_incoming : id ∈ (g.nodeElement node).texts (bpmnTag "incoming") ↔
    ∃ flow ∈ g.flows, flow.2 = node.id ∧ flowId flow = id := by
  have hne : bpmnTag "outgoing" ≠ bpmnTag "incoming" := by decide
  simp [texts_nodeElement, references, textOf?, hne, incomingFlows, incoming]

theorem mem_texts_outgoing : id ∈ (g.nodeElement node).texts (bpmnTag "outgoing") ↔
    ∃ flow ∈ g.flows, flow.1 = node.id ∧ flowId flow = id := by
  have hne : bpmnTag "incoming" ≠ bpmnTag "outgoing" := by decide
  simp [texts_nodeElement, references, textOf?, hne, outgoingFlows, outgoing]

/-- Texts stand in the elements of nodes alone. -/
theorem exists_node_of_mem_texts (helement : element ∈ g.toXml.elements)
    (hid : id ∈ element.texts key) : ∃ node ∈ g.nodes, element = g.nodeElement node := by
  have hprocess : g.processElement.texts key = [] := by
    refine List.filterMap_eq_nil_iff.mpr fun child hchild => ?_
    rcases List.mem_append.mp hchild with hchild | hchild <;>
      obtain ⟨_, -, rfl⟩ := List.mem_map.mp hchild <;> rfl
  rw [elements_toXml, List.mem_cons, List.mem_cons, List.mem_append] at helement
  rcases helement with rfl | rfl | hin | hflow
  · cases hid
  · rw [hprocess] at hid
    cases hid
  · obtain ⟨node, hnode, helement⟩ := List.mem_flatMap.mp hin
    rcases List.mem_cons.mp helement with rfl | helement
    · exact ⟨node, hnode, rfl⟩
    · rcases List.mem_append.mp helement with h | h <;> obtain ⟨_, -, rfl⟩ := List.mem_map.mp h <;>
        cases hid
  · obtain ⟨_, -, rfl⟩ := List.mem_map.mp hflow
    cases hid

theorem nodeElement_mem_elements (h : node ∈ g.nodes) : g.nodeElement node ∈ g.toXml.elements := by
  rw [elements_toXml]
  refine .tail _ (.tail _ (List.mem_append_left _ ?_))
  exact List.mem_flatMap.mpr ⟨node, h, .head _⟩

/-- The references of a document are those of its nodes to the flows that touch them. -/
theorem refers_toXml : Refers g.toXml element key id ↔
    ∃ node ∈ g.nodes, element = g.nodeElement node ∧ ∃ flow ∈ g.flows, flowId flow = id ∧
      (key = "targetRef" ∧ flow.2 = node.id ∨ key = "sourceRef" ∧ flow.1 = node.id) := by
  constructor
  · rintro (⟨helement, hid⟩ | ⟨helement, hid⟩)
    · obtain ⟨node, hnode, rfl⟩ := exists_node_of_mem_texts helement hid
      obtain ⟨flow, hflow, hend, rfl⟩ := mem_texts_incoming.mp hid
      exact ⟨node, hnode, rfl, flow, hflow, rfl, .inl ⟨rfl, hend⟩⟩
    · obtain ⟨node, hnode, rfl⟩ := exists_node_of_mem_texts helement hid
      obtain ⟨flow, hflow, hend, rfl⟩ := mem_texts_outgoing.mp hid
      exact ⟨node, hnode, rfl, flow, hflow, rfl, .inr ⟨rfl, hend⟩⟩
  · rintro ⟨node, hnode, rfl, flow, hflow, rfl, ⟨rfl, hend⟩ | ⟨rfl, hend⟩⟩
    · exact .incoming (nodeElement_mem_elements hnode)
        (mem_texts_incoming.mpr ⟨flow, hflow, hend, rfl⟩)
    · exact .outgoing (nodeElement_mem_elements hnode)
        (mem_texts_outgoing.mpr ⟨flow, hflow, hend, rfl⟩)

/-- The flow that a reference means has the right end. -/
theorem attribute?_flowElement
    (h : key = "targetRef" ∧ flow.2 = node.id ∨ key = "sourceRef" ∧ flow.1 = node.id) :
    (flowElement flow).attribute? key = (g.nodeElement node).attribute? "id" := by
  rw [attribute?_nodeElement]
  rcases h with ⟨rfl, hend⟩ | ⟨rfl, hend⟩
  · exact congrArg some hend
  · exact congrArg some hend

/-- Every reference of a document meets a flow with the right end. -/
theorem meetsReferences (g : ProcessGraph) : g.toXml.MeetsReferences := by
  intro element key id h
  obtain ⟨node, -, rfl, flow, hflow, hid, hend⟩ := refers_toXml.mp h
  refine ⟨flowElement flow, ?_, attribute?_flowElement hend⟩
  rw [flowsWithId_toXml]
  exact List.mem_map_of_mem (List.mem_filter.mpr ⟨hflow, by simpa using hid⟩)

/-- Every reference names one flow alone exactly if no two flows share an id. -/
theorem resolvesReferences_iff (hnodup : g.flows.Nodup)
    (hsource : ∀ {a b}, (a, b) ∈ g.flows → a ∈ g.ids) :
    g.toXml.ResolvesReferences ↔ Set.InjOn flowId {flow | flow ∈ g.flows} := by
  constructor
  · intro hresolves flow hflow other hother hid
    obtain ⟨node, hnode, hsource⟩ := List.mem_map.mp (hsource hflow)
    obtain ⟨element, hone, -⟩ := hresolves
      (refers_toXml.mpr ⟨node, hnode, rfl, flow, hflow, rfl, .inr ⟨rfl, hsource.symm⟩⟩)
    have hmem : ∀ {found : Flow}, found ∈ g.flows → flowId found = flowId flow →
        flowElement found = element := by
      intro found hfound heq
      rw [← List.mem_singleton, ← hone, flowsWithId_toXml]
      exact List.mem_map_of_mem (List.mem_filter.mpr ⟨hfound, by simpa using heq⟩)
    exact flowElement_injective ((hmem hflow rfl).trans (hmem hother hid.symm).symm)
  · intro hinj element key id h
    obtain ⟨node, -, rfl, flow, hflow, rfl, hend⟩ := refers_toXml.mp h
    refine ⟨flowElement flow, ?_, attribute?_flowElement hend⟩
    have hone : g.flows.filter (flowId · == flowId flow) = [flow] := by
      refine filter_eq_singleton hnodup hflow fun other hother => ?_
      rw [beq_iff_eq]
      exact ⟨fun heq => hinj hother hflow heq, congrArg flowId⟩
    rw [flowsWithId_toXml, hone]
    rfl

/-- A flow is called neither like the frame nor like the process. -/
theorem flowId_ne_of_head {text : String} (h : text.toList.head? ≠ some 'F') :
    flowId flow ≠ text := by
  rintro rfl
  refine h ?_
  simp [flowId, String.toList_append]

/-- The ids of a document are distinct exactly if no two flows share one and no node is called like
the frame, the process, or a flow. -/
theorem hasDistinctIds_iff (hids : g.ids.Nodup) (hflows : g.flows.Nodup) :
    g.toXml.HasDistinctIds ↔ Set.InjOn flowId {flow | flow ∈ g.flows} ∧
      ∀ id ∈ g.ids, id ∉ definitionsId :: processId :: g.flows.map flowId := by
  have hinj : (g.flows.map flowId).Nodup ↔ Set.InjOn flowId {flow | flow ∈ g.flows} :=
    List.nodup_map_iff_inj_on hflows
  have hframe : (definitionsId :: processId :: g.flows.map flowId).Nodup ↔
      (g.flows.map flowId).Nodup := by
    have hdefinitions : definitionsId ∉ processId :: g.flows.map flowId := by
      simpa using ⟨by decide, fun _ _ _ => flowId_ne_of_head (by decide)⟩
    have hprocess : processId ∉ g.flows.map flowId := by
      simpa using fun _ _ _ => flowId_ne_of_head (by decide)
    simp only [List.nodup_cons, hdefinitions, hprocess, not_false_iff, true_and]
  have hperm : (definitionsId :: processId :: (g.ids ++ g.flows.map flowId)).Perm
      (g.ids ++ definitionsId :: processId :: g.flows.map flowId) :=
    List.perm_append_comm_assoc [definitionsId, processId] g.ids (g.flows.map flowId)
  rw [HasDistinctIds, ids_toXml, hperm.nodup_iff, List.nodup_append', hframe, hinj]
  exact ⟨fun h => h.2, fun h => ⟨hids, h⟩⟩

end ProcessGraph

end ActivityMatrix
