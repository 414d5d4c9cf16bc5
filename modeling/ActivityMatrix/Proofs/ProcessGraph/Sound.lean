import ActivityMatrix.ProcessGraph
import ActivityMatrix.Proofs.Digraph.Reachability
import Mathlib.Data.List.Nodup

/-!
# Sound graphs

What holds of a process graph at every moment of a synthesis, between any two changes. `Sound names
g` says that `g` may be changed and refuses cycles, that its tasks are exactly the activities
`names` and have at most one flow in and one out, that every gateway is a split or a join, and that
the two events are the source and the sink they should be. Ids and flows are listed once.

Changes keep a graph sound: `Sound.insertFlow`, `Sound.deleteFlow` and `Sound.insertNode`. The guard
of a new flow reads as a conjunction of plain statements on a sound graph (`canAddFlow_iff`).
-/

namespace ActivityMatrix

open ActivityMatrix.Digraph

/-- A node is what its id stands for: a task for an activity, an event for the id of that event, and
a gateway with a role for every other id. -/
def Node.Fits (names : List String) (node : Node) : Prop :=
  match node.kind with
  | .task => node.id ∈ names
  | .startEvent => node.id = startEventId ∧ node.id ∉ names
  | .endEvent => node.id = endEventId ∧ node.id ∉ names
  | .gateway _ => (node.role = some splitRole ∨ node.role = some joinRole) ∧
      node.id ∉ startEventId :: endEventId :: names

namespace Node

variable {names : List String} {node : Node}

theorem isGateway_iff : node.isGateway = true ↔ ∃ kind, node.kind = .gateway kind := by
  cases hkind : node.kind <;> simp [isGateway, NodeKind.isGateway, hkind]

theorem Fits.isTask_iff (h : node.Fits names) : node.isTask = true ↔ node.id ∈ names := by
  unfold Fits at h
  split at h <;> rename_i hkind <;> simp only [isTask, hkind, List.mem_cons, not_or] at h ⊢
  · simp [h]
  · simp [h.2]
  · simp [h.2]
  · simp [h.2.2.2]

theorem Fits.isGateway_iff (h : node.Fits names) :
    node.isGateway = true ↔ node.id ∉ startEventId :: endEventId :: names := by
  unfold Fits at h
  split at h <;> rename_i hkind <;>
    simp only [isGateway, hkind, NodeKind.isGateway, List.mem_cons, not_or] at h ⊢
  · simp [h]
  · simp [h.1]
  · simp [h.1]
  · simpa using h.2

/-- Every gateway plays one of the two roles. -/
theorem Fits.isSplit_or_isJoin (h : node.Fits names) (hgateway : node.isGateway = true) :
    node.isSplit = true ∨ node.isJoin = true := by
  obtain ⟨kind, hkind⟩ := Node.isGateway_iff.mp hgateway
  simp only [Fits, hkind] at h
  exact h.1.imp (fun hrole => by simp [isSplit, hgateway, hrole])
    fun hrole => by simp [isJoin, hgateway, hrole]

/-- No gateway plays both roles. -/
theorem not_isJoin_of_isSplit (h : node.isSplit = true) : node.isJoin = false := by
  have hroles : splitRole ≠ joinRole := by decide
  simp_all [isSplit, isJoin]

theorem isGateway_of_isSplit (h : node.isSplit = true) : node.isGateway = true := by
  simp_all [isSplit]

theorem isGateway_of_isJoin (h : node.isJoin = true) : node.isGateway = true := by
  simp_all [isJoin]

end Node

namespace ProcessGraph

variable {names : List String} {g g' : ProcessGraph} {a b c s t : String} {node : Node}

/-- A path of at least one flow leads from a node to a node. -/
abbrev Leads (g : ProcessGraph) (a b : String) : Prop :=
  Digraph.Leads g.flows a b

/-- What holds of a graph between any two changes of a synthesis that shows the activities
`names`. -/
structure Sound (names : List String) (g : ProcessGraph) : Prop where
  checked : g.acyclic = true
  unfrozen : g.frozen = false
  ids_nodup : g.ids.Nodup
  flows_nodup : g.flows.Nodup
  source_mem : ∀ {a b}, (a, b) ∈ g.flows → a ∈ g.ids
  target_mem : ∀ {a b}, (a, b) ∈ g.flows → b ∈ g.ids
  single_out : ∀ {a b c}, a ∈ names → (a, b) ∈ g.flows → (a, c) ∈ g.flows → b = c
  single_in : ∀ {a b c}, c ∈ names → (a, c) ∈ g.flows → (b, c) ∈ g.flows → a = b
  acyclic : Acyclic g.flows
  into_start : ∀ a, (a, startEventId) ∉ g.flows
  out_of_end : ∀ b, (endEventId, b) ∉ g.flows
  fits : ∀ node ∈ g.nodes, node.Fits names
  known : ∀ id ∈ startEventId :: endEventId :: names, id ∈ g.ids
  start_notMem : startEventId ∉ names
  end_notMem : endEventId ∉ names

/-- Paths between given nodes stay. -/
def KeepsPaths (kept : List String) (g g' : ProcessGraph) : Prop :=
  ∀ a ∈ kept, ∀ b ∈ kept, g.Leads a b → g'.Leads a b

theorem KeepsPaths.refl (kept : List String) (g : ProcessGraph) : KeepsPaths kept g g :=
  fun _ _ _ _ hab => hab

theorem KeepsPaths.trans {kept : List String} {g'' : ProcessGraph} (h : KeepsPaths kept g g')
    (h' : KeepsPaths kept g' g'') : KeepsPaths kept g g'' :=
  fun a ha b hb hab => h' a ha b hb (h a ha b hb hab)

/-- Every node but the start event has a flow in, and every node but the end event a flow out. -/
structure Connected (g : ProcessGraph) : Prop where
  entered : ∀ id ∈ g.ids, id ≠ startEventId → ∃ a, (a, id) ∈ g.flows
  left : ∀ id ∈ g.ids, id ≠ endEventId → ∃ b, (id, b) ∈ g.flows

/-- A flow may leave a node: the node is one of the given ones or the start event, or a flow enters
it. -/
def Fed (kept : List String) (g : ProcessGraph) (id : String) : Prop :=
  id ∈ kept ∨ id = startEventId ∨ ∃ u, (u, id) ∈ g.flows

/-- Flows leave only the given nodes, the start event, and nodes that a flow enters. -/
def Rooted (kept : List String) (g : ProcessGraph) : Prop :=
  ∀ {u v}, (u, v) ∈ g.flows → g.Fed kept u

/-! ## Nodes by their ids -/

theorem mem_ids : a ∈ g.ids ↔ ∃ node ∈ g.nodes, node.id = a := by
  simp [ids]

theorem mem_ids_of_mem (h : node ∈ g.nodes) : node.id ∈ g.ids :=
  mem_ids.mpr ⟨node, h, rfl⟩

/-- A node is found under its id, if no two nodes have the same one. -/
theorem node?_eq_some_iff (h : g.ids.Nodup) :
    g.node? a = some node ↔ node ∈ g.nodes ∧ node.id = a := by
  constructor
  · intro hfound
    exact ⟨List.mem_of_find?_eq_some hfound, by simpa using List.find?_some hfound⟩
  · rintro ⟨hnode, rfl⟩
    cases hfound : g.node? node.id with
    | none => simpa using List.find?_eq_none.mp hfound node hnode
    | some other =>
        have hid : other.id = node.id := by simpa using List.find?_some hfound
        have hother := List.mem_of_find?_eq_some hfound
        exact congrArg some (List.inj_on_of_nodup_map h hother hnode hid)

theorem any_node?_iff (h : g.ids.Nodup) (p : Node → Bool) :
    (g.node? a).any p = true ↔ ∃ node ∈ g.nodes, node.id = a ∧ p node = true := by
  cases hfound : g.node? a with
  | none =>
      have hnone := List.find?_eq_none.mp hfound
      simp only [Option.any_none, Bool.false_eq_true, false_iff, not_exists, not_and]
      intro node hnode hid
      simpa [hid] using hnone node hnode
  | some node =>
      obtain ⟨hnode, hid⟩ := (node?_eq_some_iff h).mp hfound
      constructor
      · intro hp
        exact ⟨node, hnode, hid, by simpa using hp⟩
      · rintro ⟨other, hother, rfl, hp⟩
        obtain rfl : other = node :=
          Option.some.inj (((node?_eq_some_iff h).mpr ⟨hother, rfl⟩).symm.trans hfound)
        simpa using hp

@[simp] theorem contains_iff : g.contains a = true ↔ a ∈ g.ids := by
  simp [contains, mem_ids]

theorem contains_eq_isSome_node? : g.contains a = (g.node? a).isSome := by
  rw [Bool.eq_iff_iff, contains, node?, List.find?_isSome, List.any_eq_true]

@[simp] theorem hasFlow_iff : g.hasFlow a b = true ↔ (a, b) ∈ g.flows := by
  simp [hasFlow]

@[simp] theorem mem_outgoing : b ∈ g.outgoing a ↔ (a, b) ∈ g.flows :=
  mem_successors

@[simp] theorem mem_incoming : a ∈ g.incoming b ↔ (a, b) ∈ g.flows :=
  mem_predecessors

theorem outgoing_eq_nil : g.outgoing a = [] ↔ ∀ b, (a, b) ∉ g.flows := by
  simp [List.eq_nil_iff_forall_not_mem]

theorem incoming_eq_nil : g.incoming b = [] ↔ ∀ a, (a, b) ∉ g.flows := by
  simp [List.eq_nil_iff_forall_not_mem]

/-- The guard of a new flow asks whether its ends are there and differ, whether it is new, whether a task
is free where the flow touches it, and whether it closes a cycle. -/
theorem canAddFlow_iff_guard : g.canAddFlow s t = true ↔
    s ∈ g.ids ∧ t ∈ g.ids ∧ s ≠ t ∧ (s, t) ∉ g.flows ∧ (g.isTask s = true → g.outgoing s = []) ∧
      (g.isTask t = true → g.incoming t = []) ∧ (g.acyclic = true → ¬ g.canReach t s = true) := by
  simp only [canAddFlow, Bool.and_eq_true, Bool.not_eq_true', bne_iff_ne, contains_iff,
    List.isEmpty_iff, ← Bool.not_eq_true, hasFlow_iff, not_and, not_not, and_assoc, ne_eq]

/-- A node that was entered stays so where paths stay. -/
theorem entered_of_leads (hleads : ∀ {a b}, g.Leads a b → g'.Leads a b)
    (h : ∃ u, (u, a) ∈ g.flows) : ∃ u, (u, a) ∈ g'.flows := by
  obtain ⟨u, hu⟩ := h
  obtain ⟨v, -, hv⟩ := (hleads (.single hu)).exists_last
  exact ⟨v, hv⟩

theorem Fed.of_leads {kept : List String} (h : g.Fed kept a)
    (hleads : ∀ {a b}, g.Leads a b → g'.Leads a b) : g'.Fed kept a :=
  h.imp_right fun h => h.imp_right (entered_of_leads hleads)

namespace Sound

variable (h : Sound names g)
include h

theorem node?_eq_some : g.node? a = some node ↔ node ∈ g.nodes ∧ node.id = a :=
  node?_eq_some_iff h.ids_nodup

theorem exists_node (ha : a ∈ g.ids) : ∃ node ∈ g.nodes, node.id = a ∧ g.node? a = some node := by
  obtain ⟨node, hnode, hid⟩ := mem_ids.mp ha
  exact ⟨node, hnode, hid, h.node?_eq_some.mpr ⟨hnode, hid⟩⟩

theorem any_node? (p : Node → Bool) :
    (g.node? a).any p = true ↔ ∃ node ∈ g.nodes, node.id = a ∧ p node = true :=
  any_node?_iff h.ids_nodup p

/-- The tasks of a sound graph are the activities. -/
theorem isTask_iff : g.isTask a = true ↔ a ∈ names := by
  rw [isTask, h.any_node?]
  constructor
  · rintro ⟨node, hnode, rfl, htask⟩
    exact (h.fits node hnode).isTask_iff.mp htask
  · intro ha
    obtain ⟨node, hnode, rfl⟩ := mem_ids.mp (h.known a (by simp [ha]))
    exact ⟨node, hnode, rfl, (h.fits node hnode).isTask_iff.mpr ha⟩

theorem isJoin_iff : g.isJoin a = true ↔ ∃ node ∈ g.nodes, node.id = a ∧ node.isJoin = true :=
  h.any_node? Node.isJoin

theorem notMem_names_of_isJoin (hjoin : g.isJoin a = true) : a ∉ names := by
  obtain ⟨node, hnode, rfl, hrole⟩ := h.isJoin_iff.mp hjoin
  have hgateway := (h.fits node hnode).isGateway_iff.mp (Node.isGateway_of_isJoin hrole)
  simp_all

theorem canReach_iff : g.canReach a b = true ↔ g.Leads a b :=
  h.acyclic.canReach_iff

theorem ne_of_mem (hab : (a, b) ∈ g.flows) : a ≠ b :=
  h.acyclic.ne (.single hab)

/-- No flow touches a node that is not there. -/
theorem ends_ne_of_fresh (hfresh : c ∉ g.ids) (a b : String) (hab : (a, b) ∈ g.flows) :
    a ≠ c ∧ b ≠ c :=
  ⟨fun heq => hfresh (heq ▸ h.source_mem hab), fun heq => hfresh (heq ▸ h.target_mem hab)⟩

/-- The guard of a new flow, in words about flows and paths. -/
theorem canAddFlow_iff : g.canAddFlow s t = true ↔
    s ∈ g.ids ∧ t ∈ g.ids ∧ s ≠ t ∧ (s, t) ∉ g.flows ∧
      (s ∈ names → ∀ b, (s, b) ∉ g.flows) ∧ (t ∈ names → ∀ a, (a, t) ∉ g.flows) ∧
      ¬ g.Leads t s := by
  rw [canAddFlow_iff_guard, h.isTask_iff, h.isTask_iff, outgoing_eq_nil, incoming_eq_nil, h.canReach_iff,
    h.checked]
  simp only [true_implies]

end Sound

/-! ## Changes -/

/-- The graph with one flow more. -/
def insertFlow (g : ProcessGraph) (source target : String) : ProcessGraph :=
  { g with flows := g.flows ++ [(source, target)] }

/-- The graph without a flow. -/
def deleteFlow (g : ProcessGraph) (source target : String) : ProcessGraph :=
  { g with flows := g.flows.filter (· != (source, target)) }

/-- The graph with one node more. -/
def insertNode (g : ProcessGraph) (node : Node) : ProcessGraph :=
  { g with nodes := g.nodes ++ [node] }

/-- The graph without a node and the flows that touch it. -/
def deleteNode (g : ProcessGraph) (id : String) : ProcessGraph :=
  { g with
    nodes := g.nodes.filter (·.id != id)
    flows := g.flows.filter fun flow => flow.1 != id && flow.2 != id }

@[simp] theorem mem_flows_insertFlow :
    (a, b) ∈ (g.insertFlow s t).flows ↔ (a, b) ∈ g.flows ∨ a = s ∧ b = t := by
  simp [insertFlow]

@[simp] theorem mem_flows_deleteFlow :
    (a, b) ∈ (g.deleteFlow s t).flows ↔ (a, b) ∈ g.flows ∧ ¬ (a = s ∧ b = t) := by
  simp [deleteFlow]

@[simp] theorem mem_flows_deleteNode :
    (a, b) ∈ (g.deleteNode c).flows ↔ (a, b) ∈ g.flows ∧ a ≠ c ∧ b ≠ c := by
  simp [deleteNode]

@[simp] theorem flows_insertNode : (g.insertNode node).flows = g.flows := rfl

@[simp] theorem ids_insertFlow : (g.insertFlow s t).ids = g.ids := rfl

@[simp] theorem mem_ids_insertNode : a ∈ (g.insertNode node).ids ↔ a ∈ g.ids ∨ a = node.id := by
  simp [insertNode, ids]

@[simp] theorem mem_ids_deleteNode : a ∈ (g.deleteNode c).ids ↔ a ∈ g.ids ∧ a ≠ c := by
  simp only [mem_ids, deleteNode, List.mem_filter, bne_iff_ne]
  constructor
  · rintro ⟨node, ⟨hnode, hne⟩, rfl⟩
    exact ⟨⟨node, hnode, rfl⟩, hne⟩
  · rintro ⟨⟨node, hnode, rfl⟩, hne⟩
    exact ⟨node, ⟨hnode, hne⟩, rfl⟩

namespace Sound

variable (h : Sound names g)
include h

/-- A flow that the guard lets pass keeps the graph sound, unless it enters the start event or
leaves the end event. -/
theorem insertFlow (hadd : g.canAddFlow s t = true) (hs : s ≠ endEventId) (ht : t ≠ startEventId) :
    Sound names (g.insertFlow s t) := by
  obtain ⟨hsmem, htmem, hne, hnew, hout, hin, hback⟩ := h.canAddFlow_iff.mp hadd
  refine
    { checked := h.checked, unfrozen := h.unfrozen, ids_nodup := h.ids_nodup, flows_nodup := ?_,
      source_mem := ?_, target_mem := ?_, single_out := ?_, single_in := ?_, acyclic := ?_,
      into_start := ?_, out_of_end := ?_, fits := h.fits, known := h.known,
      start_notMem := h.start_notMem, end_notMem := h.end_notMem }
  · refine List.Nodup.append h.flows_nodup (List.nodup_singleton _) ?_
    simpa using hnew
  · intro a b hab
    rcases mem_flows_insertFlow.mp hab with hab | ⟨rfl, -⟩
    · exact h.source_mem hab
    · exact hsmem
  · intro a b hab
    rcases mem_flows_insertFlow.mp hab with hab | ⟨-, rfl⟩
    · exact h.target_mem hab
    · exact htmem
  -- the guard lets no second flow out of a task, and none into it
  · intro a b c ha hab hac
    rw [mem_flows_insertFlow] at hab hac
    rcases eq_or_ne a s with rfl | has
    · have hnone := hout ha
      simp_all
    · exact h.single_out ha (by simpa [has] using hab) (by simpa [has] using hac)
  · intro a b c hc hac hbc
    rw [mem_flows_insertFlow] at hac hbc
    rcases eq_or_ne c t with rfl | hct
    · have hnone := hin hc
      simp_all
    · exact h.single_in hc (by simpa [hct] using hac) (by simpa [hct] using hbc)
  · exact h.acyclic.append_singleton hne hback
  · intro a ha
    rcases mem_flows_insertFlow.mp ha with ha | ⟨-, heq⟩
    · exact h.into_start a ha
    · exact ht heq.symm
  · intro b hb
    rcases mem_flows_insertFlow.mp hb with hb | ⟨heq, -⟩
    · exact h.out_of_end b hb
    · exact hs heq.symm

/-- A graph with fewer flows and the same nodes stays sound. -/
theorem of_sublist {flows : List Flow} (hsub : flows.Sublist g.flows) :
    Sound names { g with flows } where
  checked := h.checked
  unfrozen := h.unfrozen
  ids_nodup := h.ids_nodup
  flows_nodup := hsub.nodup h.flows_nodup
  source_mem hab := h.source_mem (hsub.subset hab)
  target_mem hab := h.target_mem (hsub.subset hab)
  single_out ha hab hac := h.single_out ha (hsub.subset hab) (hsub.subset hac)
  single_in hc hac hbc := h.single_in hc (hsub.subset hac) (hsub.subset hbc)
  acyclic := h.acyclic.mono hsub.subset
  into_start a ha := h.into_start a (hsub.subset ha)
  out_of_end b hb := h.out_of_end b (hsub.subset hb)
  fits := h.fits
  known := h.known
  start_notMem := h.start_notMem
  end_notMem := h.end_notMem

theorem deleteFlow (s t : String) : Sound names (g.deleteFlow s t) :=
  h.of_sublist List.filter_sublist

theorem insertNode (hfresh : node.id ∉ g.ids) (hfits : node.Fits names) :
    Sound names (g.insertNode node) where
  checked := h.checked
  unfrozen := h.unfrozen
  ids_nodup := by
    rw [ids, ProcessGraph.insertNode, List.map_append]
    refine List.Nodup.append h.ids_nodup (List.nodup_singleton _) ?_
    simpa [ids] using hfresh
  flows_nodup := h.flows_nodup
  source_mem hab := mem_ids_insertNode.mpr (.inl (h.source_mem hab))
  target_mem hab := mem_ids_insertNode.mpr (.inl (h.target_mem hab))
  single_out := h.single_out
  single_in := h.single_in
  acyclic := h.acyclic
  into_start := h.into_start
  out_of_end := h.out_of_end
  fits other hother := by
    rcases List.mem_append.mp hother with hother | hother
    · exact h.fits other hother
    · obtain rfl := List.mem_singleton.mp hother
      exact hfits
  known id hid := mem_ids_insertNode.mpr (.inl (h.known id hid))
  start_notMem := h.start_notMem
  end_notMem := h.end_notMem

end Sound

end ProcessGraph

end ActivityMatrix
