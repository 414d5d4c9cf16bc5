import ActivityMatrix.Synthesis.Ends
import ActivityMatrix.Proofs.ProcessGraph.Problems

/-!
# The two ends connect the graph

After the heads are attached, every node between the two events has a flow in
(`yields_attachHeads`), and after the end is built, every node but the end event has a flow out and
the end event one in, but no other node that was there has a new flow in (`yields_synthesizeEnd`). Where
there is a single flow to be added, the guard lets it pass, since no flow enters the start event or
leaves the end event; where there are several ones, they are led through a new gateway.
-/

namespace ActivityMatrix.Drafting

open ProcessGraph ActivityMatrix.Digraph

variable {names : List String} {plan : SynthesisPlan} {d d' d'' : Draft} {node : Node}
  {sources targets : List String}

/-- A step keeps the graph sound, the paths between nodes that are no gateways, the reports, and the
log, and makes no paths between activities. -/
structure Keeps (names : List String) (d d' : Draft) : Prop where
  sound : d'.graph.Sound names
  paths : KeepsPaths (startEventId :: endEventId :: names) d.graph d'.graph
  faithful : KeepsPaths names d'.graph d.graph
  diagnostics : d'.diagnostics = d.diagnostics
  log : d'.log = d.log

theorem Keeps.refl (h : d.graph.Sound names) : Keeps names d d :=
  ⟨h, .refl _ _, .refl _ _, rfl, rfl⟩

theorem Keeps.trans (h : Keeps names d d') (h' : Keeps names d' d'') : Keeps names d d'' where
  sound := h'.sound
  paths := h.paths.trans h'.paths
  faithful := h'.faithful.trans h.faithful
  diagnostics := h'.diagnostics.trans h.diagnostics
  log := h'.log.trans h.log

theorem Repairs.keeps (h : Repairs names d d') : Keeps names d d' where
  sound := h.sound
  paths := h.paths
  faithful := h.faithful
  diagnostics := by rw [h.rest]
  log := by rw [h.rest]

/-- No path between activities runs from a source to a target: nothing enters the start event, and
nothing leaves the end event. -/
def Apart (names : List String) (g : ProcessGraph) (s t : String) : Prop :=
  ∀ a ∈ names, ∀ b ∈ names, (s = a ∨ g.Leads a s) → (b = t ∨ g.Leads t b) → False

theorem apart_start {g : ProcessGraph} (h : g.Sound names) (t : String) :
    Apart names g startEventId t := by
  rintro a ha b - (rfl | hback) -
  · exact h.start_notMem ha
  · obtain ⟨u, -, hu⟩ := hback.exists_last
    exact h.into_start u hu

theorem apart_end {g : ProcessGraph} (h : g.Sound names) (s : String) :
    Apart names g s endEventId := by
  rintro a - b hb - (rfl | hback)
  · exact h.end_notMem hb
  · obtain ⟨u, hu, -⟩ := hback.exists_first
    exact h.out_of_end u hu

theorem Reroutes.keeps (h : Reroutes names node sources targets d d') (hd : d.graph.Sound names)
    (hfresh : node.id ∉ d.graph.ids)
    (hapart : ∀ s ∈ sources, ∀ t ∈ targets, Apart names d.graph s t) : Keeps names d d' where
  sound := h.sound
  paths _ _ _ _ hab := h.rerouted.leads hab
  faithful a ha b hb hab := h.rerouted.leads_of_leads hd hfresh (hd.known a (by simp [ha]))
    (hd.known b (by simp [hb])) (fun s hs t ht has htb => (hapart s hs t ht a ha b hb has htb).elim) hab
  diagnostics := by rw [h.rest]
  log := by rw [h.rest]

/-- A flow more keeps everything. -/
theorem keeps_insertFlow {s t : String} (h : (d.graph.insertFlow s t).Sound names)
    (hapart : Apart names d.graph s t) :
    Keeps names d { d with graph := d.graph.insertFlow s t } where
  sound := h
  paths _ _ _ _ hab := hab.mono (List.subset_append_left _ _)
  faithful a ha b hb hab := (leads_append_singleton hab).resolve_right fun hthrough =>
    hapart a ha b hb hthrough.1 hthrough.2
  diagnostics := rfl
  log := rfl

/-! ## Heads and tails -/

theorem mem_openHeads {g : ProcessGraph} {id : String} :
    id ∈ g.openHeads ↔
      id ∈ g.ids ∧ id ≠ startEventId ∧ id ≠ endEventId ∧ ∀ a, (a, id) ∉ g.flows := by
  simp only [openHeads, List.mem_filter, Bool.and_eq_true, bne_iff_ne, List.isEmpty_iff,
    incoming_eq_nil, and_assoc]

theorem mem_openTails {g : ProcessGraph} {id : String} :
    id ∈ g.openTails ↔
      id ∈ g.ids ∧ id ≠ startEventId ∧ id ≠ endEventId ∧ ∀ b, (id, b) ∉ g.flows := by
  simp only [openTails, List.mem_filter, Bool.and_eq_true, bne_iff_ne, List.isEmpty_iff,
    outgoing_eq_nil, and_assoc]

/-- A node between the two events that is no open head has a flow in. -/
theorem exists_into_of_notMem_openHeads {g : ProcessGraph} {id : String} (hid : id ∈ g.ids)
    (hstart : id ≠ startEventId) (hend : id ≠ endEventId) (hclosed : id ∉ g.openHeads) :
    ∃ a, (a, id) ∈ g.flows := by
  by_contra hnone
  exact hclosed (mem_openHeads.mpr ⟨hid, hstart, hend, fun a ha => hnone ⟨a, ha⟩⟩)

theorem exists_out_of_notMem_openTails {g : ProcessGraph} {id : String} (hid : id ∈ g.ids)
    (hstart : id ≠ startEventId) (hend : id ≠ endEventId) (hclosed : id ∉ g.openTails) :
    ∃ b, (id, b) ∈ g.flows := by
  by_contra hnone
  exact hclosed (mem_openTails.mpr ⟨hid, hstart, hend, fun b hb => hnone ⟨b, hb⟩⟩)

/-- Every node between the two events has a flow in. -/
def Entered (g : ProcessGraph) : Prop :=
  ∀ id ∈ g.ids, id ≠ startEventId → id ≠ endEventId → ∃ a, (a, id) ∈ g.flows

/-- If flows leave only the start event and nodes that are entered, every flow ends a walk that
begins at the start event. -/
theorem leads_from_start_of_rooted {g : ProcessGraph} (h : g.Sound names) (hrooted : g.Rooted [])
    {u v : String} (hflow : (u, v) ∈ g.flows) : g.Leads startEventId v := by
  induction u using h.acyclic.wellFounded.induction generalizing v with
  | _ u ih =>
      rcases (hrooted hflow).resolve_left List.not_mem_nil with rfl | ⟨w, hw⟩
      · exact .single hflow
      · exact (ih w hw hw).tail hflow

/-- Such a graph leaves no node between the two events without a flow in, once the activities are
entered and no gateway needs a repair: a join has flows in then, and a split is left by a flow. -/
theorem entered_of_rooted {g : ProcessGraph} (h : g.Sound names) (hrooted : g.Rooted [])
    (hnames : ∀ a ∈ names, ∃ u, (u, a) ∈ g.flows) (hrepaired : g.nextRepair? = none) :
    Entered g := by
  intro id hid hstart hend
  obtain ⟨node, hnode, rfl⟩ := ProcessGraph.mem_ids.mp hid
  by_cases hname : node.id ∈ names
  · exact hnames _ hname
  · have hgateway : node.isGateway = true := (h.fits node hnode).isGateway_iff.mpr (by simp_all)
    obtain ⟨hsplits, hjoins⟩ :=
      degrees_of_repair?_eq_none (List.findSome?_eq_none_iff.mp hrepaired node hnode)
    rcases (h.fits node hnode).isSplit_or_isJoin hgateway with hsplit | hjoin
    · obtain ⟨v, hv⟩ := List.exists_mem_of_length_pos (Nat.lt_of_succ_lt (hsplits hsplit).2)
      rcases hrooted (mem_outgoing.mp hv) with hnone | heq | hentered
      · exact absurd hnone List.not_mem_nil
      · exact absurd heq hstart
      · exact hentered
    · obtain ⟨u, hu⟩ := List.exists_mem_of_length_pos (Nat.lt_of_succ_lt (hjoins hjoin).1)
      exact ⟨u, mem_incoming.mp hu⟩

/-- The flows out of the start event and to the open heads may be led through a new gateway. -/
theorem reroutable_heads {g : ProcessGraph} (h : g.Sound names) :
    Reroutable names g [startEventId] (g.outgoing startEventId ++ g.openHeads) := by
  have hstart : startEventId ∈ g.ids := h.known _ (.head _)
  -- a target is entered by the start event or by nothing
  have htarget : ∀ t ∈ g.outgoing startEventId ++ g.openHeads,
      t ∈ g.ids ∧ t ≠ startEventId ∧
        ((startEventId, t) ∈ g.flows ∨ ∀ a, (a, t) ∉ g.flows) := by
    intro t ht
    rcases List.mem_append.mp ht with ht | ht
    · have hflow := mem_outgoing.mp ht
      exact ⟨h.target_mem hflow, (h.ne_of_mem hflow).symm, .inl hflow⟩
    · obtain ⟨hmem, hne, -, hnone⟩ := mem_openHeads.mp ht
      exact ⟨hmem, hne, .inr hnone⟩
  refine
    { nodup_sources := List.nodup_singleton _
      nodup_targets := ?_
      source_mem := fun s hs => List.mem_singleton.mp hs ▸ hstart
      target_mem := fun t ht => (htarget t ht).1
      source_ne_end := by decide
      target_ne_start := fun ht => (htarget _ ht).2.1 rfl
      target_of_source := ?_
      source_of_target := ?_
      ne := fun s hs t ht => List.mem_singleton.mp hs ▸ (htarget t ht).2.1
      not_leads := ?_ }
  · refine List.Nodup.append (nodup_successors h.flows_nodup _) (h.ids_nodup.filter _) ?_
    intro t ht ht'
    exact (mem_openHeads.mp ht').2.2.2 _ (mem_outgoing.mp ht)
  · intro s hs hname
    exact absurd (List.mem_singleton.mp hs ▸ hname) h.start_notMem
  · intro t ht hname a hat
    rcases (htarget t ht).2.2 with hflow | hnone
    · exact List.mem_singleton.mpr (h.single_in hname hat hflow)
    · exact absurd hat (hnone a)
  · intro s hs t ht hback
    obtain ⟨b, -, hb⟩ := hback.exists_last
    exact h.into_start b (List.mem_singleton.mp hs ▸ hb)

/-- The flows into the end event and from the open tails may be led through a new gateway. -/
theorem reroutable_tails {g : ProcessGraph} (h : g.Sound names) :
    Reroutable names g (g.incoming endEventId ++ g.openTails) [endEventId] := by
  have hend : endEventId ∈ g.ids := h.known _ (.tail _ (.head _))
  -- a source leads into the end event or nowhere
  have hsource : ∀ s ∈ g.incoming endEventId ++ g.openTails,
      s ∈ g.ids ∧ s ≠ endEventId ∧ ((s, endEventId) ∈ g.flows ∨ ∀ b, (s, b) ∉ g.flows) := by
    intro s hs
    rcases List.mem_append.mp hs with hs | hs
    · have hflow := mem_incoming.mp hs
      exact ⟨h.source_mem hflow, h.ne_of_mem hflow, .inl hflow⟩
    · obtain ⟨hmem, -, hne, hnone⟩ := mem_openTails.mp hs
      exact ⟨hmem, hne, .inr hnone⟩
  refine
    { nodup_sources := ?_
      nodup_targets := List.nodup_singleton _
      source_mem := fun s hs => (hsource s hs).1
      target_mem := fun t ht => List.mem_singleton.mp ht ▸ hend
      source_ne_end := fun hs => (hsource _ hs).2.1 rfl
      target_ne_start := by decide
      target_of_source := ?_
      source_of_target := ?_
      ne := fun s hs t ht => List.mem_singleton.mp ht ▸ (hsource s hs).2.1.symm
      not_leads := ?_ }
  · refine List.Nodup.append (nodup_predecessors h.flows_nodup _) (h.ids_nodup.filter _) ?_
    intro s hs hs'
    exact (mem_openTails.mp hs').2.2.2 _ (mem_incoming.mp hs)
  · intro s hs hname b hsb
    rcases (hsource s hs).2.2 with hflow | hnone
    · exact List.mem_singleton.mpr (h.single_out hname hsb hflow)
    · exact absurd hsb (hnone b)
  · intro t ht hname
    exact absurd (List.mem_singleton.mp ht ▸ hname) h.end_notMem
  · intro s hs t ht hback
    obtain ⟨b, hb, -⟩ := hback.exists_first
    exact h.out_of_end b (List.mem_singleton.mp ht ▸ hb)

/-! ## A single flow -/

/-- The start event may flow into a node that nothing enters. -/
theorem canAddFlow_from_start {g : ProcessGraph} {t : String} (h : g.Sound names) (ht : t ∈ g.ids)
    (hstart : t ≠ startEventId) (hnone : ∀ a, (a, t) ∉ g.flows) :
    g.canAddFlow startEventId t = true := by
  refine h.canAddFlow_iff.mpr ⟨h.known _ (.head _), ht, hstart.symm, hnone _,
    fun hname => absurd hname h.start_notMem, fun _ => hnone, fun hback => ?_⟩
  obtain ⟨b, -, hb⟩ := hback.exists_last
  exact h.into_start b hb

/-- A node that nothing leaves may flow into the end event. -/
theorem canAddFlow_to_end {g : ProcessGraph} {s : String} (h : g.Sound names) (hs : s ∈ g.ids)
    (hend : s ≠ endEventId) (hnone : ∀ b, (s, b) ∉ g.flows) :
    g.canAddFlow s endEventId = true := by
  refine h.canAddFlow_iff.mpr ⟨hs, h.known _ (.tail _ (.head _)), hend, hnone _, fun _ => hnone,
    fun hname => absurd hname h.end_notMem, fun hback => ?_⟩
  obtain ⟨b, hb, -⟩ := hback.exists_first
  exact h.out_of_end b hb

theorem exists_into_insertFlow {g : ProcessGraph} {s t id : String}
    (hold : id ≠ t → ∃ a, (a, id) ∈ g.flows) : ∃ a, (a, id) ∈ (g.insertFlow s t).flows := by
  by_cases htarget : id = t
  · exact ⟨s, mem_flows_insertFlow.mpr (.inr ⟨rfl, htarget⟩)⟩
  · obtain ⟨a, ha⟩ := hold htarget
    exact ⟨a, mem_flows_insertFlow.mpr (.inl ha)⟩

theorem mem_flows_of_ne_target {g : ProcessGraph} {s t u v : String} (hne : v ≠ t)
    (hflow : (u, v) ∈ (g.insertFlow s t).flows) : (u, v) ∈ g.flows :=
  (mem_flows_insertFlow.mp hflow).resolve_right fun hnew => hne hnew.2

theorem exists_out_insertFlow {g : ProcessGraph} {s t id : String}
    (hold : id ≠ s → ∃ b, (id, b) ∈ g.flows) : ∃ b, (id, b) ∈ (g.insertFlow s t).flows := by
  by_cases hsource : id = s
  · exact ⟨t, mem_flows_insertFlow.mpr (.inr ⟨hsource, rfl⟩)⟩
  · obtain ⟨b, hb⟩ := hold hsource
    exact ⟨b, mem_flows_insertFlow.mpr (.inl hb)⟩

/-- If two lists have one entry in all and the second one is not empty, the entry is its only
one. -/
theorem eq_singleton_of_append {α : Type} {xs ys : List α} {x : α} (h : xs ++ ys = [x])
    (hne : ys ≠ []) : xs = [] ∧ ys = [x] := by
  rcases List.append_eq_singleton_iff.mp h with hsplit | hsplit
  · exact hsplit
  · exact absurd hsplit.2 hne

/-! ## The start -/

/-- The reports on the tasks among the heads. -/
def headReports (g : ProcessGraph) : List Diagnostic :=
  (g.openHeads.filter g.isTask).map .detached

/-- Where every node between the two events has a flow in, there is nothing to attach. -/
theorem yields_attachHeads_of_entered (plan : SynthesisPlan) (hentered : Entered d.graph) :
    Yields (attachHeads plan) d fun _ d' => d' = d := by
  have hnone : d.graph.openHeads = [] := by
    refine List.eq_nil_iff_forall_not_mem.mpr fun id hid => ?_
    obtain ⟨hmem, hstart, hend, hopen⟩ := mem_openHeads.mp hid
    obtain ⟨a, ha⟩ := hentered id hmem hstart hend
    exact hopen a ha
  simp only [attachHeads, yields_bind, yields_graph, hnone, List.isEmpty_nil, if_true, yields_pure]

/-- Afterwards every node between the two events has a flow in, and exactly the tasks among those
that had none are reported. -/
theorem yields_attachHeads (h : d.graph.Sound names) :
    Yields (attachHeads plan) d fun _ d' =>
      Keeps names { d with diagnostics := d.diagnostics ++ headReports d.graph } d' ∧
        Entered d'.graph := by
  simp only [attachHeads, yields_bind, yields_graph, List.isEmpty_iff]
  split
  · rename_i hnil
    refine ⟨⟨h, .refl _ _, .refl _ _, by simp [headReports, hnil], rfl⟩, fun id hid hstart hend => ?_⟩
    exact exists_into_of_notMem_openHeads hid hstart hend (by simp [hnil])
  · rename_i hheads
    simp only [yields_bind]
    refine (yields_diagnoseAll _ _).mono fun _ d₁ hd₁ => ?_
    have hreported :
        Keeps names { d with diagnostics := d.diagnostics ++ headReports d.graph } d₁ :=
      ⟨hd₁ ▸ h, hd₁ ▸ .refl _ _, hd₁ ▸ .refl _ _, by rw [hd₁, headReports], by rw [hd₁]⟩
    have hgraph : d₁.graph = d.graph := by rw [hd₁]
    generalize ({ d with diagnostics := _ } : Draft) = d₀ at hreported ⊢
    have hroute := reroutable_heads h
    rw [← hgraph] at hheads hroute ⊢
    split
    · rename_i target htargets
      -- the start event has no flow out yet, and there is one head
      obtain ⟨-, hhead⟩ := eq_singleton_of_append htargets hheads
      obtain ⟨hmem, hstart, -, hnone⟩ := mem_openHeads.mp (hhead ▸ List.mem_singleton_self target)
      have hadd := canAddFlow_from_start hreported.sound hmem hstart hnone
      refine yields_bind.mpr (yields_addFlow_of_canAddFlow hreported.sound.unfrozen hadd ?_)
      have hsound := hreported.sound.insertFlow hadd (by decide) hstart
      have hapart := apart_start hreported.sound target
      refine ⟨hreported.trans (keeps_insertFlow hsound hapart), fun id hid hs he => ?_⟩
      refine exists_into_insertFlow fun hne => ?_
      exact exists_into_of_notMem_openHeads hid hs he (by simpa [hhead] using hne)
    · generalize plan.relations.gatewayKind _ = kind
      refine yields_bind.mpr (yields_gatewayId fun split hfresh => ?_)
      have hsite : Site names (gatewayNode kind splitRole split) [startEventId]
          (d₁.graph.outgoing startEventId ++ d₁.graph.openHeads) d₁.graph :=
        ⟨hreported.sound, hfresh, hroute⟩
      refine (yields_splitBehind hsite (List.subset_append_left _ _)).mono fun _ d' hdone => ?_
      have hkeeps := hdone.keeps hreported.sound hfresh fun s hs t _ =>
        List.mem_singleton.mp hs ▸ apart_start hreported.sound t
      refine ⟨hreported.trans hkeeps, fun id hid hs he => ?_⟩
      refine hdone.rerouted.exists_into (List.cons_ne_nil _ _) hid fun hold hclosed => ?_
      exact exists_into_of_notMem_openHeads hold hs he
        fun hopen => hclosed (List.mem_append_right _ hopen)

/-! ## The end -/

/-- A flow out of the start event goes on to the end event, if no node in between is a dead end. -/
theorem exists_flow_to_end {g : ProcessGraph} (h : g.Sound names) (hclosed : g.openTails = [])
    (hstart : g.outgoing startEventId ≠ []) : ∃ a, (a, endEventId) ∈ g.flows := by
  obtain ⟨b, hb⟩ := List.exists_mem_of_ne_nil _ hstart
  have hflow := mem_outgoing.mp hb
  by_cases hend : b = endEventId
  · exact ⟨startEventId, hend ▸ hflow⟩
  · have hwalk : g.Leads b endEventId := by
      refine h.leads_to_end (fun id hid hs he => ?_) (h.target_mem hflow)
        (h.ne_of_mem hflow).symm hend
      exact exists_out_of_notMem_openTails hid hs he (by simp [hclosed])
    obtain ⟨a, -, ha⟩ := hwalk.exists_last
    exact ⟨a, ha⟩

/-- Something follows the start event, if a node in between has a way back to it. -/
theorem exists_flow_from_start {g : ProcessGraph} (h : g.Sound names) (hentered : Entered g)
    {id : String} (htail : id ∈ g.openTails) : ∃ b, (startEventId, b) ∈ g.flows := by
  obtain ⟨hid, hstart, hend, -⟩ := mem_openTails.mp htail
  obtain ⟨b, hb, -⟩ := (h.leads_from_start hentered hid hstart hend).exists_first
  exact ⟨b, hb⟩

/-- If no node is a dead end and something follows the start event, the graph is connected. -/
theorem connected_of_openTails_eq_nil {g : ProcessGraph} (h : g.Sound names)
    (hentered : Entered g) (hclosed : g.openTails = []) (hstart : g.outgoing startEventId ≠ []) :
    g.Connected where
  entered id hid hs := by
    by_cases he : id = endEventId
    · exact he ▸ exists_flow_to_end h hclosed hstart
    · exact hentered id hid hs he
  left id hid he := by
    by_cases hs : id = startEventId
    · obtain ⟨b, hb⟩ := List.exists_mem_of_ne_nil _ hstart
      exact ⟨b, hs ▸ mem_outgoing.mp hb⟩
    · exact exists_out_of_notMem_openTails hid hs he (by simp [hclosed])

/-- A flow to the end event from the only other node without a flow out connects the graph. -/
theorem yields_addFlow_to_end (h : d.graph.Sound names) (hentered : Entered d.graph)
    (hs : s ∈ d.graph.ids) (hend : s ≠ endEventId) (hnone : ∀ b, (s, b) ∉ d.graph.flows)
    (hleft : ∀ id ∈ d.graph.ids, id ≠ endEventId → id ≠ s → ∃ b, (id, b) ∈ d.graph.flows) :
    Yields (addFlow s endEventId) d fun _ d' => Keeps names d d' ∧ d'.graph.Connected ∧
      ∀ u, ∀ v ∈ d.graph.ids, v ≠ endEventId → (u, v) ∈ d'.graph.flows → (u, v) ∈ d.graph.flows := by
  have hadd := canAddFlow_to_end h hs hend hnone
  refine yields_addFlow_of_canAddFlow h.unfrozen hadd ?_
  have hsound := h.insertFlow hadd hend (by decide)
  refine ⟨keeps_insertFlow hsound (apart_end h _), ⟨fun id hid hstart => ?_, fun id hid he => ?_⟩,
    fun _ _ _ => mem_flows_of_ne_target⟩
  · exact exists_into_insertFlow fun he => hentered id hid hstart he
  · exact exists_out_insertFlow fun hne => hleft id hid he hne

/-- Afterwards the graph is connected, and of the nodes that were there only the end event has new flows
in. -/
theorem yields_synthesizeEnd (h : d.graph.Sound names) (hentered : Entered d.graph) :
    Yields (synthesizeEnd plan) d fun _ d' => Keeps names d d' ∧ d'.graph.Connected ∧
      ∀ u, ∀ v ∈ d.graph.ids, v ≠ endEventId → (u, v) ∈ d'.graph.flows → (u, v) ∈ d.graph.flows := by
  simp only [synthesizeEnd, yields_bind, yields_graph, List.isEmpty_iff]
  split
  · rename_i hnil
    split
    · rename_i hstart
      have hleft : ∀ id ∈ d.graph.ids, id ≠ endEventId → id ≠ startEventId →
          ∃ b, (id, b) ∈ d.graph.flows :=
        fun id hid he hs => exists_out_of_notMem_openTails hid hs he (by simp [hnil])
      exact yields_bind.mpr ((yields_addFlow_to_end h hentered (h.known startEventId (.head _))
        (by decide) (outgoing_eq_nil.mp hstart) hleft).mono fun _ _ => id)
    · rename_i hstart
      exact ⟨.refl h, connected_of_openTails_eq_nil h hentered hnil hstart, fun _ _ _ _ => id⟩
  · rename_i htails
    -- every node that is neither the end event nor an open tail has a flow out
    have hleft : ∀ id ∈ d.graph.ids, id ≠ endEventId → id ∉ d.graph.openTails →
        ∃ b, (id, b) ∈ d.graph.flows := by
      intro id hid he hclosed
      by_cases hs : id = startEventId
      · obtain ⟨tail, htail⟩ := List.exists_mem_of_ne_nil d.graph.openTails htails
        exact hs ▸ exists_flow_from_start h hentered htail
      · exact exists_out_of_notMem_openTails hid hs he hclosed
    split
    · rename_i feeder hfeeders
      -- no flow enters the end event yet, and there is one tail
      obtain ⟨-, hfeeder⟩ := eq_singleton_of_append hfeeders htails
      obtain ⟨hmem, -, hend, hnone⟩ :=
        mem_openTails.mp (hfeeder ▸ List.mem_singleton_self feeder)
      exact yields_bind.mpr ((yields_addFlow_to_end h hentered hmem hend hnone fun id hid he hne =>
        hleft id hid he (by simpa [hfeeder] using hne)).mono fun _ _ => id)
    · generalize plan.relations.gatewayKind _ = kind
      refine yields_bind.mpr (yields_gatewayId fun join hfresh => ?_)
      have hsite : Site names (gatewayNode kind joinRole join)
          (d.graph.incoming endEventId ++ d.graph.openTails) [endEventId] d.graph :=
        ⟨h, hfresh, reroutable_tails h⟩
      have hsources : d.graph.incoming endEventId ++ d.graph.openTails ≠ [] :=
        List.append_ne_nil_of_right_ne_nil _ htails
      refine (yields_joinInFront hsite (List.subset_append_left _ _) (feeds_addFlow join)).mono
        fun _ d' hdone => ⟨hdone.keeps h hfresh fun s _ t ht => List.mem_singleton.mp ht ▸ apart_end h s,
          ⟨fun id hid hs => ?_, fun id hid he => ?_⟩, fun u v hv he => ?_⟩
      · refine hdone.rerouted.exists_into hsources hid fun hold htarget => ?_
        exact hentered id hold hs (by simpa using htarget)
      · refine hdone.rerouted.exists_out (List.cons_ne_nil _ _) hid fun hold hclosed => ?_
        exact hleft id hold he fun hopen => hclosed (List.mem_append_right _ hopen)
      · have hnew : v ≠ join := fun heq => hfresh (heq ▸ hv)
        exact (hdone.rerouted.detour.mem_iff_of_notMem_targets (by simpa using he) hnew).mp

end ActivityMatrix.Drafting
