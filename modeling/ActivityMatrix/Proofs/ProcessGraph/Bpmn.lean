import ActivityMatrix.Proofs.ProcessGraph.Identifiers

/-!
# A process graph can be read off its document

The document of a process graph determines its nodes, with ids, kinds and names, and its flows, all in
their order (`read_serialize`). It does not matter what the ids and names look like. Elements hold the
ids of flows, too, and those are ambiguous: the flow from `a` to `b_c` is called like the one from `a_b`
to `c`. The reader has no use for them, since a flow element also names its two ends, each in an attribute
of its own.
-/

namespace ActivityMatrix.ProcessGraph

open Xml

variable {g : ProcessGraph} {node : Node} {flow : Flow} {element : Xml}

/-- The value of an attribute, empty without one. -/
def valueIn (attributes : List (String × String)) (key : String) : String :=
  (attributes.lookup key).getD ""

/-- The node that an opening tag stands for: its id, its kind and its name. -/
def readNode (opening : String × List (String × String)) : Option (String × NodeKind × String) :=
  (NodeKind.all.find? fun kind => bpmnTag kind.tag == opening.1).map fun kind =>
    (valueIn opening.2 "id", kind, valueIn opening.2 "name")

/-- The flow that an opening tag stands for. -/
def readFlow (opening : String × List (String × String)) : Option Flow :=
  if opening.1 = bpmnTag "sequenceFlow" then
    some (valueIn opening.2 "sourceRef", valueIn opening.2 "targetRef")
  else none

/-- The nodes and the flows of a document. -/
def read (text : String) : List (String × NodeKind × String) × List Flow :=
  ((readElements text).filterMap readNode, (readElements text).filterMap readFlow)

/-! ## Tags -/

/-- The tags of nodes are plain, tell the kinds apart and are not those of flows. -/
theorem bpmnTag_spec (kind : NodeKind) : IsPlain (bpmnTag kind.tag) ∧
    NodeKind.all.find? (fun other => bpmnTag other.tag == bpmnTag kind.tag) = some kind ∧
    bpmnTag kind.tag ≠ bpmnTag "sequenceFlow" := by
  match kind with
  | .task | .startEvent | .endEvent => decide
  | .gateway .exclusive | .gateway .parallel | .gateway .inclusive => decide

/-- References open with one of two tags, without attributes. -/
theorem opening_of_mem_references (h : element ∈ g.references node) :
    element.opening = (bpmnTag "incoming", []) ∨ element.opening = (bpmnTag "outgoing", []) := by
  rcases List.mem_append.mp h with h | h <;> obtain ⟨_, -, rfl⟩ := List.mem_map.mp h
  · exact .inl rfl
  · exact .inr rfl

/-- The tags and the names of attributes of a document are the same few ones for all graphs. -/
theorem isReadable_toXml (g : ProcessGraph) : g.toXml.IsReadable := by
  intro element helement
  rw [elements_toXml, List.mem_cons, List.mem_cons, List.mem_append, List.mem_flatMap] at helement
  rcases helement with rfl | rfl | ⟨node, -, helement⟩ | hflow
  · simp only [toXml, opening]
    decide
  · simp only [processElement, opening]
    decide
  · rcases List.mem_cons.mp helement with rfl | helement
    · refine ⟨(bpmnTag_spec node.kind).1, fun entry hentry => ?_⟩
      rcases List.mem_cons.mp hentry with rfl | hentry
      · exact (by decide : IsPlain "id")
      · split at hentry
        · cases hentry
        · obtain rfl := List.mem_singleton.mp hentry
          exact (by decide : IsPlain "name")
    · rcases opening_of_mem_references helement with heq | heq <;> rw [heq] <;> decide
  · obtain ⟨flow, -, rfl⟩ := List.mem_map.mp hflow
    refine ⟨(by decide : IsPlain (bpmnTag "sequenceFlow")), fun entry hentry => ?_⟩
    have hkey : entry.1 ∈ ["id", "sourceRef", "targetRef"] := List.mem_map_of_mem hentry
    exact (by decide : ∀ key ∈ ["id", "sourceRef", "targetRef"], IsPlain key) _ hkey

/-! ## Elements -/

/-- An empty name is left out, so a missing one reads as empty. -/
theorem valueIn_nodeElement :
    valueIn (g.nodeElement node).opening.2 "name" = node.name.getD "" := by
  simp only [nodeElement, opening, valueIn]
  split
  · rename_i hempty
    exact (String.isEmpty_iff.mp hempty).symm
  · rfl

theorem readNode_nodeElement :
    readNode (g.nodeElement node).opening = some (node.id, node.kind, node.name.getD "") := by
  have hkind : NodeKind.all.find? (fun kind => bpmnTag kind.tag == (g.nodeElement node).opening.1) =
      some node.kind := (bpmnTag_spec node.kind).2.1
  rw [readNode, hkind, valueIn_nodeElement]
  rfl

theorem readFlow_nodeElement : readFlow (g.nodeElement node).opening = none :=
  if_neg (bpmnTag_spec node.kind).2.2

theorem readFlow_flowElement : readFlow (flowElement flow).opening = some flow := by
  rfl

theorem readNode_flowElement : readNode (flowElement flow).opening = none := by
  rfl

theorem read_of_mem_references (h : element ∈ g.references node) :
    readNode element.opening = none ∧ readFlow element.opening = none := by
  rcases opening_of_mem_references h with heq | heq <;> rw [heq] <;> decide

theorem filterMap_readNode (g : ProcessGraph) : (g.toXml.elements.map opening).filterMap readNode =
    g.nodes.map fun node => (node.id, node.kind, node.name.getD "") := by
  have hnode : ∀ node : Node, (g.nodeElement node :: g.references node).filterMap (readNode ∘ opening) =
      [(node.id, node.kind, node.name.getD "")] := fun node => by
    have hread : (readNode ∘ opening) (g.nodeElement node) = some _ := readNode_nodeElement
    have hnone : (g.references node).filterMap (readNode ∘ opening) = [] :=
      List.filterMap_eq_nil_iff.mpr fun _ h => (read_of_mem_references h).1
    rw [List.filterMap_cons_some hread, hnone]
  have hflows : (g.flows.map flowElement).filterMap (readNode ∘ opening) = [] := by
    refine List.filterMap_eq_nil_iff.mpr fun element helement => ?_
    obtain ⟨flow, -, rfl⟩ := List.mem_map.mp helement
    exact readNode_flowElement
  have hframe : (readNode ∘ opening) g.toXml = none := rfl
  have hprocess : (readNode ∘ opening) g.processElement = none := rfl
  rw [elements_toXml, List.filterMap_map, List.filterMap_cons_none hframe,
    List.filterMap_cons_none hprocess, List.filterMap_append, List.filterMap_flatMap, hflows,
    List.append_nil]
  simp only [hnode]
  exact List.flatMap_pure_eq_map _ g.nodes

theorem filterMap_readFlow (g : ProcessGraph) :
    (g.toXml.elements.map opening).filterMap readFlow = g.flows := by
  have hnodes : (g.nodes.flatMap fun node => g.nodeElement node :: g.references node).filterMap
      (readFlow ∘ opening) = [] := by
    refine List.filterMap_eq_nil_iff.mpr fun element helement => ?_
    obtain ⟨node, -, helement⟩ := List.mem_flatMap.mp helement
    rcases List.mem_cons.mp helement with rfl | helement
    · exact readFlow_nodeElement
    · exact (read_of_mem_references helement).2
  have hflows : (g.flows.map flowElement).filterMap (readFlow ∘ opening) = g.flows := by
    rw [List.filterMap_map]
    exact (List.filterMap_congr fun _ _ => readFlow_flowElement).trans List.filterMap_some
  have hframe : (readFlow ∘ opening) g.toXml = none := rfl
  have hprocess : (readFlow ∘ opening) g.processElement = none := rfl
  rw [elements_toXml, List.filterMap_map, List.filterMap_cons_none hframe,
    List.filterMap_cons_none hprocess, List.filterMap_append, hnodes, hflows, List.nil_append]

/-- **One reader finds the nodes and flows of any process graph in its document**, written on one line
or on many. A node that has no name reads like one with an empty name. -/
theorem read_serialize (g : ProcessGraph) (pretty : Bool) :
    read (g.serialize pretty) =
      (g.nodes.map fun node => (node.id, node.kind, node.name.getD ""), g.flows) := by
  rw [read, serialize, readElements_write pretty (isReadable_toXml g), filterMap_readNode,
    filterMap_readFlow]

end ActivityMatrix.ProcessGraph
