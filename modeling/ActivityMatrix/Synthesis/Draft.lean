import ActivityMatrix.Digraph.Levels
import ActivityMatrix.Gateway.Grouping
import ActivityMatrix.ProcessGraph
import ActivityMatrix.Synthesis.Diagnostic

/-!
# Drafts of process graphs

What a synthesis works on: a graph, the activities that were expanded so far, the flows that the
graph refused and that are to be merged later, the diagnostics, a log that keeps the graph as it
was after each step, and the gateways that were added. Every step changes the draft or stops with a
fault; what was changed before a fault stays changed. The ids of new gateways are fresh: a number is
added to an id that is taken.
-/

namespace ActivityMatrix

/-- The choices that a synthesis leaves open. -/
structure SynthesisOptions where
  grouping : GroupingStrategy := .pairwise
  startGrouping : GroupingStrategy := .relation
  levelStrategy : LevelStrategy := .longestPath
  /-- Whether branches that never meet again are joined all the same. -/
  allowFallbackJoin : Bool := true
  deriving DecidableEq, Repr, Inhabited

namespace SynthesisOptions

/-- The options of the given names, or what is wrong with a name. -/
def ofNames (grouping levelStrategy : String) (allowFallbackJoin : Bool) :
    Except String SynthesisOptions := do
  let grouping ← GroupingStrategy.ofName grouping
  let levelStrategy ← LevelStrategy.ofName levelStrategy
  return { grouping, levelStrategy, allowFallbackJoin }

end SynthesisOptions

/-- What a synthesis is given: the relations, the levels of the activities, and the options. -/
structure SynthesisPlan where
  relations : RelationSets
  levels : Levels := []
  options : SynthesisOptions := {}
  deriving Inhabited

namespace SynthesisPlan

def level (plan : SynthesisPlan) (activity : String) : Int :=
  plan.levels.level activity

end SynthesisPlan

/-- The steps of a synthesis that its log tells apart. -/
inductive SynthesisStep where
  /-- What follows the start event was built. -/
  | started
  /-- A split was opened behind an anchor, with the targets of each of its branches. -/
  | opened (anchor place : String) (kind : GatewayKind) (branches : List (List String))
  /-- The exits of branches were led into a new join in front of their meeting point. Entered together
  with the graph before that and the flows that are refused after it. -/
  | joined (before : ProcessGraph) (branches : List (List String)) (point join : String)
      (exits : List String) (pending : List Flow)
  /-- What follows an activity was built, now or before. -/
  | expanded (activity : String)
  | orphansAttached
  /-- A refused flow was not merged, since its source lies behind its target by now. -/
  | passedOver (source target : String)
  | pendingResolved
  | cleanedUp
  /-- Every node got an incoming flow. -/
  | headsAttached
  /-- Every node got an outgoing flow. -/
  | endSynthesized
  deriving DecidableEq, Repr, Inhabited

/-- A step of a synthesis with the graph after it. -/
structure LogEntry where
  step : SynthesisStep
  graph : ProcessGraph
  deriving DecidableEq, Repr, Inhabited

/-- A gateway that was added, with the graph before that and after. -/
structure GatewayAddition where
  gateway : Node
  before : ProcessGraph
  after : ProcessGraph
  deriving DecidableEq, Repr, Inhabited

/-- What a synthesis works on. -/
structure Draft where
  graph : ProcessGraph := {}
  /-- The activities that were expanded. -/
  processed : List String := []
  /-- The flows that the graph refused. -/
  pending : List Flow := []
  /-- The activities that start the process. -/
  startCandidates : List String := []
  diagnostics : List Diagnostic := []
  log : List LogEntry := []
  additions : List GatewayAddition := []
  deriving DecidableEq, Repr, Inhabited

/-- Why a step stops. -/
inductive SynthesisFault where
  | graph (error : GraphError)
  | unknownNode (id : String)
  | emptyGroup
  deriving DecidableEq, Repr, Inhabited

def SynthesisFault.message : SynthesisFault → String
  | graph error => error.message
  | unknownNode id => s!"There is no node {id}"
  | emptyGroup => "A group has no targets"

/-- Steps of a synthesis. -/
abbrev Drafting := EStateM SynthesisFault Draft

namespace Drafting

def graph : Drafting ProcessGraph := do
  return (← get).graph

/-- Changes the graph of the draft, or stops. -/
def change {α : Type} (step : ProcessGraph → Except GraphError (α × ProcessGraph)) :
    Drafting α := do
  match step (← get).graph with
  | .ok (answer, changed) =>
      modify fun draft => { draft with graph := changed }
      return answer
  | .error error => throw (.graph error)

def addNode (node : Node) : Drafting Node :=
  change (·.addNode node)

def removeNode (id : String) : Drafting Unit :=
  change (·.removeNode id)

/-- Adds a flow if it may be added, and says whether it was. -/
def addFlow (source target : String) : Drafting Bool :=
  change (·.addFlow source target)

/-- Removes a flow, and says whether it was there. -/
def removeFlow (source target : String) : Drafting Bool :=
  change (·.removeFlow source target)

/-- The node with an id, or a stop. -/
def node (id : String) : Drafting Node := do
  match (← graph).node? id with
  | some node => return node
  | none => throw (.unknownNode id)

def diagnose (d : Diagnostic) : Drafting Unit :=
  modify fun draft => { draft with diagnostics := draft.diagnostics ++ [d] }

def record (step : SynthesisStep) : Drafting Unit :=
  modify fun draft => { draft with log := draft.log ++ [⟨step, draft.graph⟩] }

/-- Adds a flow unless it is there; a flow that the graph refuses is kept for later. Says whether
the flow is in the graph. -/
def connect (source target : String) : Drafting Bool := do
  if (← graph).hasFlow source target then return true
  if ← addFlow source target then return true
  modify fun draft => { draft with pending := draft.pending ++ [(source, target)] }
  return false

end Drafting

/-! ## Ids of gateways -/

/-- A text in which an underscore stands for every character but ASCII letters and digits. -/
def sanitizeId (value : String) : String :=
  String.ofList (value.toList.map fun c => if c.isAlphanum then c else '_')

/-- The first of `base`, `base_2`, `base_3` and so on that is not taken: one of them is free, since
they are one more than the ids that are taken. -/
def freshId (taken : List String) (base : String) : String :=
  let numbered := (List.range taken.length).map fun n => base ++ "_" ++ toString (n + 2)
  ((base :: numbered).find? (!taken.contains ·)).getD base

namespace Drafting

/-- A fresh id for a gateway that is called by its kind, a word for its place, and an anchor. -/
def gatewayId (kind : GatewayKind) (place anchor : String) : Drafting String := do
  return freshId (← graph).ids (kind.tag ++ "_" ++ place ++ "_" ++ sanitizeId anchor)

/-- The gateway with an id that plays a role. -/
def gatewayNode (kind : GatewayKind) (role id : String) : Node :=
  { id, kind := .gateway kind, name := some (kind.label role), role := some role }

/-- Adds a gateway that plays a role, and notes that. -/
def addGateway (kind : GatewayKind) (role id : String) : Drafting Unit := do
  let gateway := gatewayNode kind role id
  let before ← graph
  let _ ← addNode gateway
  modify fun draft =>
    { draft with additions := draft.additions ++ [⟨gateway, before, draft.graph⟩] }

end Drafting

end ActivityMatrix
