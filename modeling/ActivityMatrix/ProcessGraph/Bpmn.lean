import ActivityMatrix.ProcessGraph
import ActivityMatrix.Xml

/-!
# Process graphs as BPMN

The XML form of a process graph: inside a fixed frame one element for each node, which holds the
ids of its incoming and then of its outgoing flows, followed by one element for each flow.
-/

namespace ActivityMatrix.ProcessGraph

/-- The name space of the elements. -/
def elementSpace : String := "http://www.omg.org/spec/BPMN/20100524/MODEL"

/-- The name space of what the document defines. -/
def targetSpace : String := "http://bpmn.io/schema/bpmn"

def definitionsId : String := "Definitions_1"

def processId : String := "Process_1"

/-- A tag in the name space of the elements. -/
def bpmnTag (name : String) : String := "bpmn:" ++ name

/-- The element of a node. A node without a name, or with an empty one, has no such attribute. -/
def nodeElement (g : ProcessGraph) (node : Node) : Xml :=
  let name := node.name.getD ""
  let attributes := ("id", node.id) :: if name.isEmpty then [] else [("name", name)]
  .branch (bpmnTag node.kind.tag) attributes <|
    (g.incomingFlows node.id).map (fun flow => .leaf (bpmnTag "incoming") [] (flowId flow))
      ++ (g.outgoingFlows node.id).map fun flow => .leaf (bpmnTag "outgoing") [] (flowId flow)

def flowElement (flow : Flow) : Xml :=
  .branch (bpmnTag "sequenceFlow")
    [("id", flowId flow), ("sourceRef", flow.1), ("targetRef", flow.2)] []

/-- The element of the whole process in its frame. -/
def toXml (g : ProcessGraph) : Xml :=
  .branch (bpmnTag "definitions")
    [("xmlns:bpmn", elementSpace), ("id", definitionsId), ("targetNamespace", targetSpace)]
    [.branch (bpmnTag "process") [("id", processId), ("isExecutable", "false")]
      (g.nodes.map g.nodeElement ++ g.flows.map flowElement)]

/-- The process as an XML document. -/
def serialize (g : ProcessGraph) (pretty : Bool) : String :=
  Xml.write pretty g.toXml

end ActivityMatrix.ProcessGraph
