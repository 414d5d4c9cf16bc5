import ActivityMatrix.ProcessGraph.Problems
import ActivityMatrix.Synthesis.Cleanup
import ActivityMatrix.Proofs.Digraph.Cycle
import ActivityMatrix.Proofs.Synthesis.Cleanup

/-!
# Graphs without structural problems

A sound graph has no structural problem once it is connected and no gateway needs a repair
(`structuralProblems_eq_nil`). The degrees follow from the repairs that are not due, a search for a
cycle finds nothing in an acyclic graph, and in such a graph a walk against the flows ends at the
start event and a walk along the flows at the end event.
-/

namespace ActivityMatrix.ProcessGraph

open ActivityMatrix.Digraph

variable {names : List String} {g : ProcessGraph} {a : String} {node : Node}

/-- Splits part one flow into several, joins bring several flows into one, tasks pass one flow on, no
path leads back, and every node lies on a path from the start event to the end event. -/
structure WellStructured (g : ProcessGraph) : Prop where
  splits : ∀ node ∈ g.splits, (g.incoming node.id).length = 1 ∧ 2 ≤ (g.outgoing node.id).length
  joins : ∀ node ∈ g.joins, 2 ≤ (g.incoming node.id).length ∧ (g.outgoing node.id).length = 1
  tasks : ∀ node ∈ g.tasks, (g.incoming node.id).length = 1 ∧ (g.outgoing node.id).length = 1
  acyclic : Acyclic g.flows
  from_start : ∀ id ∈ g.ids, id = startEventId ∨ g.Leads startEventId id
  to_end : ∀ id ∈ g.ids, id = endEventId ∨ g.Leads id endEventId

namespace Sound

variable (h : g.Sound names)
include h

/-! ## Walks -/

/-- A walk against the flows ends at the start event. -/
theorem leads_from_start
    (hentered : ∀ id ∈ g.ids, id ≠ startEventId → id ≠ endEventId → ∃ a, (a, id) ∈ g.flows)
    (ha : a ∈ g.ids) (hstart : a ≠ startEventId) (hend : a ≠ endEventId) :
    g.Leads startEventId a := by
  induction a using h.acyclic.wellFounded.induction with
  | _ a ih =>
      obtain ⟨b, hba⟩ := hentered a ha hstart hend
      by_cases hb : b = startEventId
      · exact hb ▸ .single hba
      · have hbend : b ≠ endEventId := fun heq => h.out_of_end a (heq ▸ hba)
        exact (ih b hba (h.source_mem hba) hb hbend).tail hba

/-- A walk along the flows ends at the end event. -/
theorem leads_to_end
    (hleft : ∀ id ∈ g.ids, id ≠ startEventId → id ≠ endEventId → ∃ b, (id, b) ∈ g.flows)
    (ha : a ∈ g.ids) (hstart : a ≠ startEventId) (hend : a ≠ endEventId) :
    g.Leads a endEventId := by
  induction a using h.acyclic.wellFounded_swap.induction with
  | _ a ih =>
      obtain ⟨b, hab⟩ := hleft a ha hstart hend
      by_cases hb : b = endEventId
      · exact hb ▸ .single hab
      · have hbstart : b ≠ startEventId := fun heq => h.into_start a (heq ▸ hab)
        exact .head hab (ih b hab (h.target_mem hab) hbstart hb)

variable (hconnected : g.Connected)
include hconnected

/-- Everything but the start event lies behind it. -/
theorem start_leads (ha : a ∈ g.ids) (hstart : a ≠ startEventId) : g.Leads startEventId a := by
  have hwalk {b} (hb : b ∈ g.ids) :=
    h.leads_from_start (fun id hid hs _ => hconnected.entered id hid hs) hb
  by_cases hend : a = endEventId
  · obtain ⟨b, hb⟩ := hconnected.entered a ha hstart
    by_cases hbstart : b = startEventId
    · exact hbstart ▸ .single hb
    · have hbend : b ≠ endEventId := fun heq => h.out_of_end a (heq ▸ hb)
      exact (hwalk (h.source_mem hb) hbstart hbend).tail hb
  · exact hwalk ha hstart hend

/-- Everything but the end event lies before it. -/
theorem leads_end (ha : a ∈ g.ids) (hend : a ≠ endEventId) : g.Leads a endEventId := by
  have hwalk {b} (hb : b ∈ g.ids) :=
    h.leads_to_end (fun id hid _ he => hconnected.left id hid he) hb
  by_cases hstart : a = startEventId
  · obtain ⟨b, hb⟩ := hconnected.left a ha hend
    by_cases hbend : b = endEventId
    · exact hbend ▸ .single hb
    · have hbstart : b ≠ startEventId := fun heq => h.into_start a (heq ▸ hb)
      exact .head hb (hwalk (h.target_mem hb) hbstart hbend)
  · exact hwalk ha hstart hend

/-! ## Degrees -/

omit h in
theorem length_incoming_pos (ha : a ∈ g.ids) (hstart : a ≠ startEventId) :
    0 < (g.incoming a).length := by
  obtain ⟨b, hb⟩ := hconnected.entered a ha hstart
  exact List.length_pos_of_mem (mem_incoming.mpr hb)

omit h in
theorem length_outgoing_pos (ha : a ∈ g.ids) (hend : a ≠ endEventId) :
    0 < (g.outgoing a).length := by
  obtain ⟨b, hb⟩ := hconnected.left a ha hend
  exact List.length_pos_of_mem (mem_outgoing.mpr hb)

/-- A task has one flow in and one out. -/
theorem degrees_of_task (ha : a ∈ names) :
    (g.incoming a).length = 1 ∧ (g.outgoing a).length = 1 := by
  have hmem : a ∈ g.ids := h.known a (by simp [ha])
  have hstart : a ≠ startEventId := fun heq => h.start_notMem (heq ▸ ha)
  have hend : a ≠ endEventId := fun heq => h.end_notMem (heq ▸ ha)
  obtain ⟨b, hb⟩ := hconnected.entered a hmem hstart
  obtain ⟨c, hc⟩ := hconnected.left a hmem hend
  have hin := length_incoming_le_one h.flows_nodup fun _ hflow => h.single_in ha hflow hb
  have hout := length_outgoing_le_one h.flows_nodup fun _ hflow => h.single_out ha hflow hc
  have := length_incoming_pos hconnected hmem hstart
  have := length_outgoing_pos hconnected hmem hend
  omega

/-- A gateway that needs no repair is a split of one flow into several, or a join of several flows
into one. -/
theorem degrees_of_gateway (hrepair : g.nextRepair? = none) (hnode : node ∈ g.nodes) :
    (node.isSplit = true →
        (g.incoming node.id).length = 1 ∧ 2 ≤ (g.outgoing node.id).length) ∧
      (node.isJoin = true →
        2 ≤ (g.incoming node.id).length ∧ (g.outgoing node.id).length = 1) := by
  have hmem : node.id ∈ g.ids := mem_ids_of_mem hnode
  obtain ⟨hsplits, hjoins⟩ :=
    degrees_of_repair?_eq_none (List.findSome?_eq_none_iff.mp hrepair node hnode)
  have hpos : node.isGateway = true →
      0 < (g.incoming node.id).length ∧ 0 < (g.outgoing node.id).length := by
    intro hgateway
    have hgate := (h.fits node hnode).isGateway_iff.mp hgateway
    exact ⟨length_incoming_pos hconnected hmem fun heq => hgate (by simp [heq]),
      length_outgoing_pos hconnected hmem fun heq => hgate (by simp [heq])⟩
  constructor
  · intro hsplit
    have := hpos (Node.isGateway_of_isSplit hsplit)
    have := hsplits hsplit
    omega
  · intro hjoin
    have := hpos (Node.isGateway_of_isJoin hjoin)
    have := hjoins hjoin
    omega

/-- A connected graph of which no gateway needs a repair is well structured. -/
theorem wellStructured (hrepair : g.nextRepair? = none) : WellStructured g where
  splits node hnode := by
    obtain ⟨hmem, hsplit⟩ := List.mem_filter.mp hnode
    exact (h.degrees_of_gateway hconnected hrepair hmem).1 hsplit
  joins node hnode := by
    obtain ⟨hmem, hjoin⟩ := List.mem_filter.mp hnode
    exact (h.degrees_of_gateway hconnected hrepair hmem).2 hjoin
  tasks node hnode := by
    obtain ⟨hmem, htask⟩ := List.mem_filter.mp hnode
    exact h.degrees_of_task hconnected ((h.fits node hmem).isTask_iff.mp htask)
  acyclic := h.acyclic
  from_start id hid := or_iff_not_imp_left.mpr (h.start_leads hconnected hid)
  to_end id hid := or_iff_not_imp_left.mpr (h.leads_end hconnected hid)

/-! ## No problems -/

theorem degreeProblem?_eq_none (hrepair : g.nextRepair? = none) (hnode : node ∈ g.nodes) :
    g.degreeProblem? node = none := by
  obtain ⟨hsplits, hjoins⟩ := h.degrees_of_gateway hconnected hrepair hnode
  have htasks : node.isTask = true →
      (g.incoming node.id).length = 1 ∧ (g.outgoing node.id).length = 1 :=
    fun htask => h.degrees_of_task hconnected ((h.fits node hnode).isTask_iff.mp htask)
  rw [degreeProblem?]
  split
  · exact if_pos (hsplits ‹_›)
  · split
    · exact if_pos (hjoins ‹_›)
    · split
      · have := htasks ‹_›
        exact if_pos (by omega)
      · rfl

omit hconnected in
/-- A search for a cycle finds nothing. -/
theorem cycle?_eq_none : g.cycle? = none := by
  rw [cycle?, findCycle_eq_none_iff]
  intro a ha
  exact h.acyclic a (Relation.TransGen.mono (fun _ _ hstep => mem_outgoing.mp hstep.2.2) _ _ ha)

theorem connectionProblems_eq_nil : g.connectionProblems = [] := by
  rw [connectionProblems]
  split
  · refine List.filterMap_eq_nil_iff.mpr fun id hid => ?_
    have hfrom : id ∈ startEventId :: g.reachableFrom startEventId := by
      by_cases hstart : id = startEventId
      · exact hstart ▸ .head _
      · exact .tail _ (mem_reachable.mpr ⟨hstart, h.start_leads hconnected hid hstart⟩)
    have hto : id ∈ endEventId :: Digraph.reachable (converse g.flows) endEventId := by
      by_cases hend : id = endEventId
      · exact hend ▸ .head _
      · exact .tail _ (mem_reachable.mpr
          ⟨hend, leads_converse.mpr (h.leads_end hconnected hid hend)⟩)
    rw [List.contains_iff_mem.mpr hfrom, List.contains_iff_mem.mpr hto]
    rfl
  · rfl

/-- A connected graph of which no gateway needs a repair has no structural problem. -/
theorem structuralProblems_eq_nil (hrepair : g.nextRepair? = none) : g.structuralProblems = [] := by
  have hdegrees : g.nodes.filterMap g.degreeProblem? = [] :=
    List.filterMap_eq_nil_iff.mpr fun node hnode =>
      h.degreeProblem?_eq_none hconnected hrepair hnode
  rw [structuralProblems, hdegrees, h.cycle?_eq_none, h.connectionProblems_eq_nil hconnected]
  rfl

end Sound

end ActivityMatrix.ProcessGraph
