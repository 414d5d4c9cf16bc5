import ActivityMatrix.Synthesis.Draft

/-!
# Convergence of branches

After the branches of a split were expanded, they are brought together again: in front of the first
activity that all of them lead to, or, if there is none, in a join that collects the open ends of
the branches.
-/

namespace ActivityMatrix

namespace ProcessGraph

/-- The last node on the way from a node along single flows into joins. The fuel bounds the number
of joins on the way, none of which is entered twice. -/
def followJoinsFrom (g : ProcessGraph) (seen : List String) (id : String) : Nat → String
  | 0 => id
  | fuel + 1 =>
      match g.outgoing id with
      | [next] =>
          if g.isJoin next && !seen.contains next then
            g.followJoinsFrom (next :: seen) next fuel
          else id
      | _ => id

/-- The last node on the way from a node along single flows into joins. -/
def followJoins (g : ProcessGraph) (id : String) : String :=
  g.followJoinsFrom [id] id g.nodes.length

/-- The given nodes with all nodes that flows lead to from one of them. -/
def scope (g : ProcessGraph) (heads : List String) : List String :=
  heads ++ heads.flatMap g.reachableFrom

/-- The tasks and joins without an outgoing flow among the nodes that a branch leads to. -/
def openEnds (g : ProcessGraph) (branch : List String) : List String :=
  let reached := g.scope branch
  (g.nodes.filter fun node => reached.contains node.id && (node.isTask || node.isJoin)
    && (g.outgoing node.id).isEmpty).map Node.id

end ProcessGraph

namespace RelationSets

/-- The activities that every branch leads to. -/
def meetingPoints (r : RelationSets) (branches : List (List String)) : List String :=
  common (branches.map fun branch => branch.flatMap r.reachable)

end RelationSets

namespace Drafting

/-- Adds to the ends of the branches the node that one of the last activities before the meeting
point leads into, unless that node is closed, is known, or lies behind the point. -/
def addExit (point : String) (exits : List String) (last : String) : Drafting (List String) := do
  let g ← graph
  let exit := g.followJoins last
  if !(g.outgoing exit).isEmpty || exits.contains exit then return exits
  else if exit = point || g.canReach point exit then
    diagnose (.behindPoint exit point)
    return exits
  else return exits ++ [exit]

/-- The nodes that are to feed a join in front of the meeting point of branches. -/
def collectExits (plan : SynthesisPlan) (branches : List (List String)) (point : String) :
    Drafting (List String) := do
  let g ← graph
  let heads := branches.flatten
  let flowScope := g.scope heads
  let chainScope := heads ++ heads.flatMap plan.relations.reachable
  let fed := (g.incoming point).filter (flowScope.contains ·)
  ((plan.relations.directPredecessors point).filter (chainScope.contains ·)).foldlM
    (addExit point) fed

/-- Makes a node feed a join in place of the meeting point. -/
def redirect (point join exit : String) : Drafting Unit := do
  let _ ← removeFlow exit point
  if !(← addFlow exit join) then diagnose (.cannotFeed exit join)

/-- A join that collects the open ends of the branches. -/
def fallbackJoin (anchor : String) (branches : List (List String)) (kind : GatewayKind)
    (place : String) : Drafting Unit := do
  let sinks := distinct (branches.flatMap (← graph).openEnds)
  let join ← gatewayId kind place anchor
  addGateway kind joinRole join
  sinks.forM fun sink => do
    let _ ← addFlow sink join

def joinPlace : String := "Join"

/-- Leads exits to a meeting point through a new join. -/
def joinExits (kind : GatewayKind) (point join : String) (exits : List String) : Drafting Unit := do
  addGateway kind joinRole join
  exits.forM (redirect point join)
  let _ ← connect join point

/-- A join in front of the first activity that all branches lead to. -/
def joinAt (plan : SynthesisPlan) (anchor : String) (branches : List (List String))
    (kind : GatewayKind) (place point : String) : Drafting Unit := do
  let before ← graph
  let join ← gatewayId kind place (if place = joinPlace then point else anchor)
  let exits ← collectExits plan branches point
  if exits.isEmpty then return
  joinExits kind point join exits
  record (.joined before branches point join exits (← get).pending)

/-- Brings branches together, each given by its first activities. -/
def converge (plan : SynthesisPlan) (anchor : String) (branches : List (List String))
    (kind : GatewayKind) (place : String) : Drafting Unit :=
  match plan.relations.sortByOrder (plan.relations.meetingPoints branches) with
  | [] => do
      if plan.options.allowFallbackJoin then fallbackJoin anchor branches kind place
  | point :: _ => joinAt plan anchor branches kind place point

end Drafting

end ActivityMatrix
