import ActivityMatrix.Synthesis.Convergence

/-!
# Expansion of activities

An activity is followed by its direct successors: by a single one at once, by several through a
split, or, if they form several groups, through a split over the groups with a gateway for each
group. What follows a target is built before the target is connected to its split. An activity is
expanded once, so the depth of the recursion is bounded by the number of activities.
-/

namespace ActivityMatrix.Drafting

/-- Opens a split behind a node, unless that node is a task with an outgoing flow. Says whether it
was opened. -/
def openSplit (source : String) (kind : GatewayKind) (split : String) : Drafting Bool := do
  let origin ← node source
  if origin.isTask && !((← graph).outgoing source).isEmpty then
    diagnose (.blockedSplit source split)
    return false
  addGateway kind splitRole split
  let _ ← addFlow source split
  return true

def splitPlace : String := "Split"

def mergedSplitPlace : String := "Split_Merged"

def mergedJoinPlace : String := "Join_Merged"

/-- Opens a split behind a node, builds the branches, and brings them together again. -/
def splitJoin (plan : SynthesisPlan) (visit : String → Drafting Unit) (source anchor : String)
    (branches : List (List String)) (kind : GatewayKind) : Drafting Unit := do
  let split ← gatewayId kind splitPlace anchor
  if ← openSplit source kind split then
    record (.opened anchor splitPlace kind branches)
    branches.flatten.forM fun target => do
      visit target
      let _ ← connect split target
    converge plan anchor branches kind joinPlace

/-- The first target of a group, or a stop. -/
def firstTarget (group : GatewayGroup) : Drafting String :=
  match group.targets with
  | [] => throw .emptyGroup
  | target :: _ => pure target

/-- Builds a group behind the split over all groups. -/
def splitGroup (plan : SynthesisPlan) (visit : String → Drafting Unit) (outer anchor : String)
    (group : GatewayGroup) : Drafting Unit :=
  match group.targets with
  | [target] => do
      visit target
      let _ ← connect outer target
  | targets => splitJoin plan visit outer anchor (targets.map ([·])) group.kind

/-- Puts groups of targets behind a node: a single group at once, several ones behind a split. -/
def split (plan : SynthesisPlan) (visit : String → Drafting Unit) (anchor : String)
    (groups : List GatewayGroup) : Drafting Unit :=
  match groups with
  | [⟨_, [target]⟩] => do
      let _ ← connect anchor target
      visit target
  | [⟨kind, targets⟩] => splitJoin plan visit anchor anchor (targets.map ([·])) kind
  | _ => do
      let kind := plan.relations.gatewayKind (← groups.mapM firstTarget)
      let outer ← gatewayId kind mergedSplitPlace anchor
      if ← openSplit anchor kind outer then
        record (.opened anchor mergedSplitPlace kind (groups.map GatewayGroup.targets))
        groups.forM (splitGroup plan visit outer anchor)
        converge plan anchor (groups.map GatewayGroup.targets) kind mergedJoinPlace

/-- Builds what follows a node: nothing, a single target at once, or several targets in groups. -/
def buildAfter (plan : SynthesisPlan) (visit : String → Drafting Unit) (strategy : GroupingStrategy)
    (anchor : String) (targets : List String) : Drafting Unit :=
  match targets with
  | [] => pure ()
  | [target] => do
      let _ ← connect anchor target
      visit target
  | _ => split plan visit anchor (strategy.group plan.relations plan.level targets)

/-- Marks an activity as expanded. Says whether it was not before. -/
def markProcessed (activity : String) : Drafting Bool := do
  if (← get).processed.contains activity then return false
  modify fun draft => { draft with processed := draft.processed ++ [activity] }
  return true

/-- Builds what follows an activity. The fuel bounds the depth of the recursion, and every level of
it expands an activity that was not expanded before. -/
def expandWithin (plan : SynthesisPlan) : Nat → String → Drafting Unit
  | 0, _ => pure ()
  | fuel + 1, activity => do
      if ← markProcessed activity then
        buildAfter plan (expandWithin plan fuel) plan.options.grouping activity
          (plan.relations.directSuccessors activity)
      record (.expanded activity)

/-- Builds what follows an activity. A recursion enters the activity and targets of precedences
only. -/
def expand (plan : SynthesisPlan) (activity : String) : Drafting Unit :=
  expandWithin plan (plan.relations.edges.length + 2) activity

/-- Expands every activity that was not expanded before, in order. -/
def expandAll (plan : SynthesisPlan) : Drafting Unit :=
  plan.relations.order.forM (expand plan)

/-- Adds the two events and the activities in between as nodes. -/
def addNodes (plan : SynthesisPlan) : Drafting Unit := do
  let _ ← addNode { id := startEventId, kind := .startEvent, name := some "Start" }
  plan.relations.order.forM fun activity => do
    let _ ← addNode { id := activity, kind := .task, name := some activity }
  let _ ← addNode { id := endEventId, kind := .endEvent, name := some "End" }

/-- Builds what follows the start event: the activities that nothing precedes. -/
def synthesizeStart (plan : SynthesisPlan) : Drafting Unit := do
  let candidates := plan.relations.startActivities
  modify fun draft => { draft with startCandidates := candidates }
  buildAfter plan (expand plan) plan.options.startGrouping startEventId candidates

end ActivityMatrix.Drafting
