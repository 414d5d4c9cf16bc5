import ActivityMatrix.Gateway
import ActivityMatrix.Text.Quoted

/-!
# Grouping of branches

The targets that follow one activity are put behind gateways in groups. One strategy puts all of
them behind one gateway; one collects, for each kind of pair, the targets that are connected by
pairs of that kind; and one gives a gateway to the targets of a level whose pairs all agree.
-/

namespace ActivityMatrix

/-- Targets that share a gateway. -/
structure GatewayGroup where
  kind : GatewayKind
  targets : List String
  deriving DecidableEq, Repr, Inhabited

namespace GatewayGroup

def isSingleton (group : GatewayGroup) : Bool :=
  group.targets.length == 1

end GatewayGroup

/-- The ways to group targets. -/
inductive GroupingStrategy where
  /-- All targets behind one gateway. -/
  | pairwise
  /-- One group for each kind of pair that connects targets. -/
  | relation
  /-- One group for each level whose pairs agree. -/
  | layerAware
  deriving DecidableEq, Repr, Inhabited

namespace Grouping

/-! ## Connected components -/

/-- The two parts of a list make up its length. -/
theorem length_partition {α : Type} (p : α → Bool) (l : List α) :
    (l.partition p).1.length + (l.partition p).2.length = l.length := by
  rw [List.partition_eq_filter_filter]
  induction l with
  | nil => rfl
  | cons a rest ih => by_cases h : p a <;> simp [h] at ih ⊢ <;> omega

variable {α : Type}

/-- The members of `remaining` that a frontier is connected with, the frontier included, and those
that it is not connected with. -/
def gather (linked : α → α → Bool) (frontier remaining : List α) : List α × List α :=
  match frontier with
  | [] => ([], remaining)
  | node :: others =>
      -- what the node is linked with goes in front: the search is depth first
      let (members, left) := gather linked ((remaining.partition (linked node)).1 ++ others)
        (remaining.partition (linked node)).2
      (node :: members, left)
termination_by frontier.length + remaining.length
decreasing_by
  have := length_partition (linked node) remaining
  simp only [List.length_append, List.length_cons]
  omega

/-- Gathering leaves no more than there was. -/
theorem length_gather_le (linked : α → α → Bool) (frontier remaining : List α) :
    (gather linked frontier remaining).2.length ≤ remaining.length := by
  induction frontier, remaining using gather.induct linked with
  | case1 remaining => simp [gather]
  | case2 remaining node others ih =>
      rw [gather]
      have := length_partition (linked node) remaining
      simp only
      omega

variable [DecidableEq α]

/-- The connected components of `remaining`, each sorted by position in `nodes`. -/
def componentsIn (linked : α → α → Bool) (nodes remaining : List α) : List (List α) :=
  match remaining with
  | [] => []
  | node :: rest =>
      let gathered := gather linked [node] rest
      sortBy (fun a b => position a nodes ≤ position b nodes) gathered.1
        :: componentsIn linked nodes gathered.2
termination_by remaining.length
decreasing_by
  have := length_gather_le linked [node] rest
  simp only [List.length_cons]
  omega

/-- The connected components of a list of nodes, by first member, each in the order of the list. -/
def components (linked : α → α → Bool) (nodes : List α) : List (List α) :=
  componentsIn linked nodes nodes

/-! ## The strategies -/

def single (r : RelationSets) (targets : List String) : GatewayGroup :=
  ⟨r.gatewayKind targets, targets⟩

/-- The kinds of pairs that make groups, with the kinds of their gateways, in order. -/
def groupKinds : List (PairKind × GatewayKind) :=
  [(.parallel, .parallel), (.inclusive, .inclusive), (.exclusive, .exclusive)]

/-- The targets that pairs of a kind connect with another target. -/
def connectedBy (r : RelationSets) (kind : PairKind) (targets : List String) : List String :=
  ((components (fun a b => r.pairKind a b == some kind) targets).filter (·.length > 1)).flatten

/-- A group for each kind of pair that connects targets, and the targets left over. -/
def relationGroups (r : RelationSets) :
    List (PairKind × GatewayKind) → List String → List GatewayGroup × List String
  | [], remaining => ([], remaining)
  | (pair, gateway) :: kinds, remaining =>
      let members := connectedBy r pair remaining
      let (groups, left) := relationGroups r kinds (remaining.filter (!members.contains ·))
      (if members.isEmpty then groups else ⟨gateway, members⟩ :: groups, left)

/-- Groups by kind of pair, and a group of its own for each target left over. -/
def byRelation (r : RelationSets) (targets : List String) : List GatewayGroup :=
  let (connected, left) := relationGroups r groupKinds targets
  let groups := connected ++ left.map fun target => ⟨.parallel, [target]⟩
  -- groups that part nothing, or everything, are no groups
  if groups.length ≤ 1 || groups.all GatewayGroup.isSingleton then [single r targets] else groups

/-- The targets by level, the least level first. -/
def levelBuckets (level : String → Int) (targets : List String) : List (List String) :=
  (sortBy (fun a b => a.1 ≤ b.1)
    (groupInOrder (targets.map fun target => (level target, target)))).map Prod.snd

/-- Whether some kind of pair holds of every two of the given activities. -/
def agrees (r : RelationSets) (bucket : List String) : Bool :=
  match r.pairKinds bucket with
  | some kind :: others => others.all (· == some kind)
  | _ => false

/-- Groups by level, and one parallel group of all targets of levels whose pairs do not agree. -/
def byLevel (r : RelationSets) (level : String → Int) (targets : List String) :
    List GatewayGroup :=
  let (agreeing, others) := (levelBuckets level targets).partition (agrees r)
  let rest := others.flatten
  let groups := agreeing.map (single r) ++ if rest.isEmpty then [] else [⟨.parallel, rest⟩]
  if groups.length = 1 then [single r targets] else groups

end Grouping

namespace GroupingStrategy

def name : GroupingStrategy → String
  | pairwise => "pairwise"
  | relation => "relation"
  | layerAware => "layer_aware"

/-- All strategies, in ascending order of their names. -/
def all : List GroupingStrategy := [layerAware, pairwise, relation]

def ofName (name : String) : Except String GroupingStrategy :=
  match all.find? (·.name == name) with
  | some strategy => .ok strategy
  | none =>
      let available := Text.quotedList (all.map GroupingStrategy.name)
      .error s!"Unknown grouping strategy '{name}'. Available: {available}"

def group (strategy : GroupingStrategy) (r : RelationSets) (level : String → Int)
    (targets : List String) : List GatewayGroup :=
  match strategy with
  | pairwise => [Grouping.single r targets]
  | relation => Grouping.byRelation r targets
  | layerAware => Grouping.byLevel r level targets

end GroupingStrategy

end ActivityMatrix
