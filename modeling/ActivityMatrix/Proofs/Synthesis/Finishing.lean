import ActivityMatrix.Proofs.ProcessGraph.Workable
import ActivityMatrix.Proofs.Synthesis.Invariant
import ActivityMatrix.Proofs.Synthesis.Outcome

/-!
# The last phases leave the order alone

Once the refused flows are merged, the gateways are repaired, open ends are closed, and the gateways are
repaired again. All of that changes the graph a good deal, but it neither loses a path between two tasks
nor makes one (`finishing_keeps_order`), whatever the graph looks like. What the last phases rely on is
not that the matrix was valid: every draft that is handed over to them, for whatever relations, was
assembled by guarded changes (`Assembled`), and that is enough as soon as the two events are there and lie
at its ends (`Bounded`).
-/

namespace ActivityMatrix

open ProcessGraph ActivityMatrix.Digraph

/-! ## Graphs that are handed over -/

/-- Events have the ids of events, and gateways play a role. -/
def Node.IsPlaced (node : Node) : Prop :=
  match node.kind with
  | .task => True
  | .startEvent => node.id = startEventId
  | .endEvent => node.id = endEventId
  | .gateway _ => node.role = some splitRole ∨ node.role = some joinRole

namespace ProcessGraph

variable {g : ProcessGraph} {node other : Node} {s t id : String}

/-- What holds of every graph that a synthesis has changed, for whatever relations. -/
structure Assembled (g : ProcessGraph) : Prop where
  checked : g.acyclic = true
  unfrozen : g.frozen = false
  guarded : g.Guarded
  placed : ∀ node ∈ g.nodes, node.IsPlaced

/-- The two events are in the graph, no flow enters the start event, and none leaves the end event. -/
structure Bounded (g : ProcessGraph) : Prop where
  starts : ∃ node ∈ g.nodes, node.id = startEventId ∧ node.kind = .startEvent
  ends : ∃ node ∈ g.nodes, node.id = endEventId ∧ node.kind = .endEvent
  into_start : ∀ a, (a, startEventId) ∉ g.flows
  out_of_end : ∀ b, (endEventId, b) ∉ g.flows

namespace Assembled

variable (h : Assembled g)
include h

theorem insertFlow (hadd : g.canAddFlow s t = true) : Assembled (g.insertFlow s t) :=
  { h with guarded := h.guarded.insertFlow hadd }

theorem deleteFlow (s t : String) : Assembled (g.deleteFlow s t) :=
  { h with guarded := h.guarded.deleteFlow s t }

theorem insertNode (hfresh : node.id ∉ g.ids) (hplaced : node.IsPlaced) :
    Assembled (g.insertNode node) where
  checked := h.checked
  unfrozen := h.unfrozen
  guarded := h.guarded.insertNode hfresh
  placed other hother := by
    rcases List.mem_append.mp hother with hother | hother
    · exact h.placed other hother
    · exact List.mem_singleton.mp hother ▸ hplaced

theorem deleteNode (id : String) : Assembled (g.deleteNode id) where
  checked := h.checked
  unfrozen := h.unfrozen
  guarded := h.guarded.deleteNode id
  placed other hother := h.placed other (List.mem_of_mem_filter hother)

/-- Two nodes with one id are one node. -/
theorem kind_eq_of_id_eq (hnode : node ∈ g.nodes) (hother : other ∈ g.nodes) (hid : node.id = other.id) :
    node.kind = other.kind :=
  congrArg Node.kind (List.inj_on_of_nodup_map h.guarded.ids_nodup hnode hother hid)

omit h in
theorem mem_taskIds : id ∈ g.tasks.map Node.id ↔ ∃ node ∈ g.nodes, node.id = id ∧ node.kind = .task := by
  simp [tasks, Node.isTask, and_assoc, and_comm (a := _ = id)]

/-- A node is what its id stands for, once the events are there. -/
theorem fits (hbounded : Bounded g) (hnode : node ∈ g.nodes) : node.Fits (g.tasks.map Node.id) := by
  obtain ⟨start, hstart, hstartid, hstartkind⟩ := hbounded.starts
  obtain ⟨finish, hfinish, hfinishid, hfinishkind⟩ := hbounded.ends
  have hfirst : node.id = startEventId → node.kind = .startEvent := fun hid =>
    (h.kind_eq_of_id_eq hnode hstart (hid.trans hstartid.symm)).trans hstartkind
  have hlast : node.id = endEventId → node.kind = .endEvent := fun hid =>
    (h.kind_eq_of_id_eq hnode hfinish (hid.trans hfinishid.symm)).trans hfinishkind
  have htask : node.id ∈ g.tasks.map Node.id → node.kind = .task := by
    intro hmem
    obtain ⟨task, hmem, hid, hkind⟩ := mem_taskIds.mp hmem
    exact (h.kind_eq_of_id_eq hnode hmem hid.symm).trans hkind
  have hplaced := h.placed node hnode
  unfold Node.IsPlaced at hplaced
  unfold Node.Fits
  cases hkind : node.kind with
  | task => exact mem_taskIds.mpr ⟨node, hnode, rfl, hkind⟩
  | startEvent => simp_all
  | endEvent => simp_all
  | gateway kind => simp_all

theorem workable : g.Workable :=
  ⟨h.guarded, h.guarded.acyclic h.checked, h.unfrozen⟩

/-- What is no task has the id of no task. -/
theorem notMem_taskIds (hnode : node ∈ g.nodes) (hkind : node.kind ≠ .task) :
    node.id ∉ g.tasks.map Node.id := by
  intro hmem
  obtain ⟨task, htask, hid, htaskkind⟩ := mem_taskIds.mp hmem
  exact hkind ((h.kind_eq_of_id_eq htask hnode hid).symm.trans htaskkind)

/-- An assembled graph between its events is sound, its tasks being the activities. -/
theorem sound (hbounded : Bounded g) : g.Sound (g.tasks.map Node.id) := by
  obtain ⟨start, hstart, hstartid, hstartkind⟩ := hbounded.starts
  obtain ⟨finish, hfinish, hfinishid, hfinishkind⟩ := hbounded.ends
  refine h.workable.sound h.checked (fun _ hnode => h.fits hbounded hnode) (fun id hid => ?_)
    hbounded.into_start hbounded.out_of_end ?_ ?_
  · rcases List.mem_cons.mp hid with rfl | hid
    · exact hstartid ▸ mem_ids_of_mem hstart
    rcases List.mem_cons.mp hid with rfl | hid
    · exact hfinishid ▸ mem_ids_of_mem hfinish
    · obtain ⟨node, hnode, rfl, -⟩ := mem_taskIds.mp hid
      exact mem_ids_of_mem hnode
  · exact hstartid ▸ h.notMem_taskIds hstart (by simp [hstartkind])
  · exact hfinishid ▸ h.notMem_taskIds hfinish (by simp [hfinishkind])

end Assembled

end ProcessGraph

namespace Drafting

variable {plan : SynthesisPlan} {d : Draft}

/-! ## What is handed over is assembled -/

/-- The phases up to the merging of the refused flows. -/
def openingPhases (plan : SynthesisPlan) : Drafting Unit := do
  expansionPhases plan
  attachOrphans plan
  record .orphansAttached
  resolvePending plan

/-- The phases after the merging of the refused flows. -/
def finishingPhases (plan : SynthesisPlan) : Drafting Unit := do
  record .pendingResolved
  cleanup
  record .cleanedUp
  attachHeads plan
  closingPhases plan

/-- A run hands a draft over once, between the two. -/
theorem phases_eq_opening (plan : SynthesisPlan) : Synthesis.phases plan = (do
    openingPhases plan
    finishingPhases plan) := by
  simp only [phases_eq, openingPhases, finishingPhases, stitchingPhases, bind_assoc]

/-- No change of a synthesis leaves a graph that is not assembled. -/
theorem kept_assembled : Kept (fun _ => True) fun d => Assembled d.graph where
  insertGateway h hfresh hrole := h.insertNode hfresh (hrole.imp (congrArg some) (congrArg some))
  insertFlow h hadd := h.insertFlow hadd
  deleteFlow h := h.deleteFlow _ _
  deleteNode h := h.deleteNode _
  note h hnotes := hnotes.graph ▸ h
  record h _ := h

/-- Whatever the relations, an opening that runs through hands over an assembled graph. -/
theorem assembled_of_openingPhases
    (hrun : (openingPhases plan).run Synthesis.blankDraft = .ok () d) : Assembled d.graph := by
  have hadd : ∀ node : Node, node.IsPlaced → Maintains (fun d => Assembled d.graph) (addNode node) :=
    fun node hplaced => maintains_addNode fun h hfresh => h.insertNode hfresh hplaced
  have hnodes : Maintains (fun d => Assembled d.graph) (addNodes plan) :=
    maintains_addNodes (hadd startNode rfl) (fun a => hadd (taskNode a) trivial) (hadd endNode rfl)
  have hplan := permits_all plan
  have hrecord : ∀ step, Maintains (fun d => Assembled d.graph) (record step) :=
    fun step => maintains_record kept_assembled trivial
  have hexpansion : Maintains (fun d => Assembled d.graph) (expansionPhases plan) :=
    hnodes.bind fun _ => (maintains_synthesizeStart kept_assembled hplan).bind fun _ =>
      (hrecord _).bind fun _ => maintains_expandAll kept_assembled hplan
  have hopening : Maintains (fun d => Assembled d.graph) (openingPhases plan) :=
    hexpansion.bind fun _ => (maintains_attachOrphans kept_assembled hplan).bind fun _ =>
      (hrecord _).bind fun _ => maintains_resolvePending kept_assembled hplan
  have hblank : Assembled Synthesis.blankDraft.graph :=
    ⟨rfl, rfl, guarded_empty true, fun _ hmem => absurd hmem List.not_mem_nil⟩
  exact hopening.of_run hblank hrun

/-! ## A draft is handed over -/

/-- A sound graph lies between its events. -/
theorem bounded_of_sound {names : List String} (h : d.graph.Sound names) : Bounded d.graph where
  starts := by
    obtain ⟨node, hnode, hid⟩ := ProcessGraph.mem_ids.mp (h.known startEventId (.head _))
    have hfits := h.fits node hnode
    have hevents : startEventId ≠ endEventId := by decide
    refine ⟨node, hnode, hid, ?_⟩
    cases hkind : node.kind <;> simp_all [Node.Fits, h.start_notMem]
  ends := by
    obtain ⟨node, hnode, hid⟩ := ProcessGraph.mem_ids.mp (h.known endEventId (.tail _ (.head _)))
    have hfits := h.fits node hnode
    have hevents : endEventId ≠ startEventId := by decide
    refine ⟨node, hnode, hid, ?_⟩
    cases hkind : node.kind <;> simp_all [Node.Fits, h.end_notMem]
  into_start := h.into_start
  out_of_end := h.out_of_end

/-- For relations that a process can be drawn from, a draft between its events is handed over. -/
theorem exists_openingPhases (hr : plan.relations.Drawable) :
    ∃ d, (openingPhases plan).run Synthesis.blankDraft = .ok () d ∧
      d.graph.Sound plan.relations.order := by
  obtain ⟨_, d₁, hexpansion, hcomplete, -⟩ := (yields_expansionPhases hr).exists_result
  obtain ⟨_, _, horphans, rfl⟩ := (yields_attachOrphans hcomplete).exists_result
  obtain ⟨_, d, hresolved, hsound⟩ :=
    (yields_resolvePending (hcomplete.record .orphansAttached trivial)).exists_result
  refine ⟨d, ?_, hsound.sound⟩
  simp only [openingPhases, EStateM.run_bind, hexpansion, horphans]
  exact hresolved

/-! ## The last phases -/

/-- Between the activities there are the same paths in two graphs. -/
def SameOrder (names : List String) (g g' : ProcessGraph) : Prop :=
  ∀ a ∈ names, ∀ b ∈ names, (g'.Leads a b ↔ g.Leads a b)

theorem SameOrder.trans {names : List String} {g g' g'' : ProcessGraph} (h : SameOrder names g g')
    (h' : SameOrder names g' g'') : SameOrder names g g'' :=
  fun a ha b hb => (h' a ha b hb).trans (h a ha b hb)

theorem Repairs.sameOrder {names : List String} {d' : Draft} (h : Repairs names d d') :
    SameOrder names d.graph d'.graph :=
  fun a ha b hb => ⟨h.faithful a ha b hb, h.paths a (by simp [ha]) b (by simp [hb])⟩

theorem Keeps.sameOrder {names : List String} {d' : Draft} (h : Keeps names d d') :
    SameOrder names d.graph d'.graph :=
  fun a ha b hb => ⟨h.faithful a ha b hb, h.paths a (by simp [ha]) b (by simp [hb])⟩

/-- The last phases do not stop on a sound graph, and leave a sound graph with the same order. -/
theorem yields_finishingPhases {names : List String} (h : d.graph.Sound names) :
    Yields (finishingPhases plan) d fun _ d' =>
      d'.graph.Sound names ∧ SameOrder names d.graph d'.graph := by
  have noted : ∀ {d : Draft} (step : SynthesisStep), d.graph.Sound names →
      ({ d with log := d.log ++ [⟨step, d.graph⟩] } : Draft).graph.Sound names := fun _ h => h
  simp only [finishingPhases, closingPhases, yields_bind, yields_record]
  refine (yields_cleanup_repairs (noted .pendingResolved h)).mono fun _ d₁ h₁ => ?_
  refine (yields_attachHeads (noted .cleanedUp h₁.1.sound)).mono fun _ d₂ h₂ => ?_
  obtain ⟨h₂, hentered⟩ := h₂
  refine (yields_synthesizeEnd (noted .headsAttached h₂.sound) hentered).mono fun _ d₃ h₃ => ?_
  refine (yields_cleanup_repairs (noted .endSynthesized h₃.1.sound)).mono fun _ d' h' => ?_
  exact ⟨h'.1.sound,
    h₁.1.sameOrder.trans (h₂.sameOrder.trans (h₃.1.sameOrder.trans h'.1.sameOrder))⟩

/-- The relations of the eight activities, and what a synthesis is given with them. -/
def crossingPlan : SynthesisPlan :=
  { relations := RelationSets.ofMatrixWithOrder crossing crossingOrder }

/-- **The last phases keep the order.** Whatever the relations, a draft that is handed over after the
refused flows were merged is assembled; and on every assembled draft with the two events at its ends the
last phases run through, keep the tasks, and leave a path from one task to another exactly if there was
one before. -/
theorem finishing_keeps_order (plan : SynthesisPlan) :
    (∀ d, (openingPhases plan).run Synthesis.blankDraft = .ok () d → Assembled d.graph) ∧
      ∀ d, Assembled d.graph → Bounded d.graph →
        ∃ d', (finishingPhases plan).run d = .ok () d' ∧
          (∀ a, d'.graph.isTask a = d.graph.isTask a) ∧
          ∀ a b, d.graph.isTask a = true → d.graph.isTask b = true →
            (d'.graph.Leads a b ↔ d.graph.Leads a b) := by
  refine ⟨fun d => assembled_of_openingPhases, fun d h hbounded => ?_⟩
  have hsound := h.sound hbounded
  have hyields : Yields (finishingPhases plan) d _ := yields_finishingPhases hsound
  obtain ⟨_, d', hrun, hsound', horder⟩ := hyields.exists_result
  refine ⟨d', hrun, fun a => ?_, fun a b ha hb => ?_⟩
  · rw [Bool.eq_iff_iff, hsound'.isTask_iff, hsound.isTask_iff]
  · exact horder a (hsound.isTask_iff.mp ha) b (hsound.isTask_iff.mp hb)

/-- The draft that is handed over lies on the way of a whole run. -/
theorem finishing_keeps_order_crossing :
    ∃ d d', (openingPhases crossingPlan).run Synthesis.blankDraft = .ok () d ∧
      (finishingPhases crossingPlan).run d = .ok () d' ∧
      (Synthesis.phases crossingPlan).run Synthesis.blankDraft = .ok () d' ∧
      ∀ a ∈ crossingOrder, ∀ b ∈ crossingOrder, (d'.graph.Leads a b ↔ d.graph.Leads a b) := by
  have hr : crossingPlan.relations.Drawable :=
    RelationSets.drawable_of_validate validate_crossing (by decide) (by decide)
  obtain ⟨d, hrun, hsound⟩ := exists_openingPhases hr
  have hassembled := (finishing_keeps_order crossingPlan).1 d hrun
  obtain ⟨d', hrun', -, horder⟩ :=
    (finishing_keeps_order crossingPlan).2 d hassembled (bounded_of_sound hsound)
  have hwhole : (Synthesis.phases crossingPlan).run Synthesis.blankDraft = .ok () d' := by
    rw [phases_eq_opening, EStateM.run_bind, hrun]
    exact hrun'
  refine ⟨d, d', hrun, hrun', hwhole, fun a ha b hb => horder a b ?_ ?_⟩
  · exact hsound.isTask_iff.mpr ha
  · exact hsound.isTask_iff.mpr hb

end Drafting

end ActivityMatrix
