import ActivityMatrix.Synthesis.Cleanup
import ActivityMatrix.Proofs.ProcessGraph.Gathering
import ActivityMatrix.Proofs.ProcessGraph.Rerouting
import ActivityMatrix.Proofs.Synthesis.Yields

/-!
# Repairs of gateways

What the repairs of gateways do to a workable graph, whatever else is in it. Two of them lead flows through
a new gateway (`Inserts`), the third one takes a gateway out (`TakesOut`). A split behind a join is put there
just like a join in front of a split, once all flows are turned round, and so one account of moving flows
serves for both (`Gathering.move`, `Gathering.close`). A bypass finds at most one flow in and one out; the
guard does not refuse the flow that takes their place, since a task at either end has lost the flow it had.

Every repair that is due saves work (`CarriedOut.repairWork_lt`): no node gets more flows in or out than it
had, a repaired split or join is not overloaded any more, and neither is the new gateway. So the rounds of a
cleanup never run out before the repairs do (`yields_cleanup`).
-/

namespace ActivityMatrix

namespace ProcessGraph

open ActivityMatrix.Digraph

variable {g g' : ProcessGraph} {node : Node} {a b : String} {sources targets : List String}

/-! ## Work -/

/-- A node without more flows in or out than before is not newly overloaded. -/
theorem isOverloaded_of_le (hin : (g'.incoming node.id).length ≤ (g.incoming node.id).length)
    (hout : (g'.outgoing node.id).length ≤ (g.outgoing node.id).length)
    (h : g'.isOverloaded node = true) : g.isOverloaded node = true := by
  simp only [isOverloaded, Bool.or_eq_true, Bool.and_eq_true, decide_eq_true_eq] at h ⊢
  exact h.imp (And.imp_right fun h => h.trans_le hin) (And.imp_right fun h => h.trans_le hout)

theorem isOverloaded_of_isSplit (h : node.isSplit = true) :
    g.isOverloaded node = decide (1 < (g.incoming node.id).length) := by
  simp [isOverloaded, h, Node.not_isJoin_of_isSplit h]

theorem isOverloaded_of_isJoin (h : node.isJoin = true) :
    g.isOverloaded node = decide (1 < (g.outgoing node.id).length) := by
  have hsplit : node.isSplit = false := by
    by_contra hsplit
    simp [Node.not_isJoin_of_isSplit (Bool.not_eq_false _ ▸ hsplit)] at h
  simp [isOverloaded, h, hsplit]

theorem length_outgoing_le_one (h : g.flows.Nodup) (hsub : ∀ c, (a, c) ∈ g.flows → c = b) :
    (g.outgoing a).length ≤ 1 :=
  length_le_of_subset (nodup_successors h a) fun c hc =>
    List.mem_singleton.mpr (hsub c (mem_outgoing.mp hc))

theorem length_incoming_le_one (h : g.flows.Nodup) (hsub : ∀ c, (c, b) ∈ g.flows → c = a) :
    (g.incoming b).length ≤ 1 :=
  length_le_of_subset (nodup_predecessors h b) fun c hc =>
    List.mem_singleton.mpr (hsub c (mem_incoming.mp hc))

/-- Leading flows through a new gateway saves work if an overloaded node is none any more and the
gateway is none either. -/
theorem Rerouted.repairWork_lt (loaded : Node) (h : Rerouted node sources targets g g')
    (hfresh : node.id ∉ g.ids) (hflows : g'.flows.Nodup)
    (hsources : ∀ s ∈ sources, ∃ t ∈ targets, (s, t) ∈ g.flows)
    (htargets : ∀ t ∈ targets, ∃ s ∈ sources, (s, t) ∈ g.flows)
    (hgateway : node.isGateway = true) (hnode : g'.isOverloaded node = false)
    (hmem : loaded ∈ g.nodes) (hover : g.isOverloaded loaded = true)
    (hover' : g'.isOverloaded loaded = false) : g'.repairWork < g.repairWork := by
  -- an overloaded node counts more than the gateway that is added
  have hcount : g.nodes.countP g'.isOverloaded < g.nodes.countP g.isOverloaded := by
    refine countP_lt hmem (fun other hother => ?_) hover hover'
    have hne : other.id ≠ node.id := by
      intro heq
      exact hfresh (heq ▸ mem_ids_of_mem hother)
    exact isOverloaded_of_le (h.detour.length_predecessors_le hflows htargets hne)
      (h.detour.length_successors_le hflows hsources hne)
  have hgateways : g'.gateways.length = g.gateways.length + 1 := by
    rw [gateways, h.nodes, List.filter_append, List.length_append, ← gateways]
    simp [hgateway]
  have hnodes : g'.nodes.countP g'.isOverloaded = g.nodes.countP g'.isOverloaded := by
    rw [h.nodes, List.countP_append]
    simp [hnode]
  rw [repairWork, repairWork, hgateways, hnodes]
  omega

/-- A join in front of an overloaded split saves work. -/
theorem Rerouted.repairWork_lt_of_isSplit {loaded : Node}
    (h : Rerouted node (g.incoming loaded.id) [loaded.id] g g') (hg : g.Guarded)
    (hg' : g'.Guarded) (hfresh : node.id ∉ g.ids) (hjoin : node.isJoin = true)
    (hmem : loaded ∈ g.nodes) (hsplit : loaded.isSplit = true)
    (hin : 1 < (g.incoming loaded.id).length) : g'.repairWork < g.repairWork := by
  have hne : loaded.id ≠ node.id := fun heq => hfresh (heq ▸ mem_ids_of_mem hmem)
  -- the split was overloaded and is so no more, and the new join has one flow out
  refine h.repairWork_lt loaded hfresh hg'.flows_nodup
    (fun s hs => ⟨loaded.id, List.mem_singleton_self _, mem_incoming.mp hs⟩) (fun t ht => ?_)
    (Node.isGateway_of_isJoin hjoin) ?_ hmem ?_ ?_
  · obtain ⟨s, hs⟩ := List.exists_mem_of_length_pos (Nat.lt_of_succ_lt hin)
    exact ⟨s, hs, List.mem_singleton.mp ht ▸ mem_incoming.mp hs⟩
  · rw [isOverloaded_of_isJoin hjoin, decide_eq_false_iff_not, not_lt]
    refine length_outgoing_le_one hg'.flows_nodup (b := loaded.id) fun c hc => ?_
    rcases (h.detour node.id c).mp hc with hold | hsource | htarget
    · exact absurd (hg.joins hold.1).1 hfresh
    · exact absurd (hg.joins (mem_incoming.mp hsource.1)).1 hfresh
    · exact List.mem_singleton.mp htarget.2
  · simpa [isOverloaded_of_isSplit hsplit] using hin
  · rw [isOverloaded_of_isSplit hsplit, decide_eq_false_iff_not, not_lt]
    refine length_incoming_le_one hg'.flows_nodup (a := node.id) fun c hc => ?_
    rcases (h.detour c loaded.id).mp hc with hold | hsource | htarget
    · exact absurd ⟨mem_incoming.mpr hold.1, List.mem_singleton_self _⟩ hold.2
    · exact absurd hsource.2 hne
    · exact htarget.1

/-- A split behind an overloaded join saves work. -/
theorem Rerouted.repairWork_lt_of_isJoin {loaded : Node}
    (h : Rerouted node [loaded.id] (g.outgoing loaded.id) g g') (hg : g.Guarded)
    (hg' : g'.Guarded) (hfresh : node.id ∉ g.ids) (hsplit : node.isSplit = true)
    (hmem : loaded ∈ g.nodes) (hjoin : loaded.isJoin = true)
    (hout : 1 < (g.outgoing loaded.id).length) : g'.repairWork < g.repairWork := by
  have hne : loaded.id ≠ node.id := fun heq => hfresh (heq ▸ mem_ids_of_mem hmem)
  -- the join was overloaded and is so no more, and the new split has one flow in
  refine h.repairWork_lt loaded hfresh hg'.flows_nodup (fun s hs => ?_)
    (fun t ht => ⟨loaded.id, List.mem_singleton_self _, mem_outgoing.mp ht⟩)
    (Node.isGateway_of_isSplit hsplit) ?_ hmem ?_ ?_
  · obtain ⟨t, ht⟩ := List.exists_mem_of_length_pos (Nat.lt_of_succ_lt hout)
    exact ⟨t, ht, List.mem_singleton.mp hs ▸ mem_outgoing.mp ht⟩
  · rw [isOverloaded_of_isSplit hsplit, decide_eq_false_iff_not, not_lt]
    refine length_incoming_le_one hg'.flows_nodup (a := loaded.id) fun c hc => ?_
    rcases (h.detour c node.id).mp hc with hold | hsource | htarget
    · exact absurd (hg.joins hold.1).2.1 hfresh
    · exact List.mem_singleton.mp hsource.1
    · exact absurd (hg.joins (mem_outgoing.mp htarget.2)).2.1 hfresh
  · simpa [isOverloaded_of_isJoin hjoin] using hout
  · rw [isOverloaded_of_isJoin hjoin, decide_eq_false_iff_not, not_lt]
    refine length_outgoing_le_one hg'.flows_nodup (b := node.id) fun c hc => ?_
    rcases (h.detour loaded.id c).mp hc with hold | hsource | htarget
    · exact absurd ⟨List.mem_singleton_self _, mem_outgoing.mpr hold.1⟩ hold.2
    · exact hsource.2
    · exact absurd htarget.1 hne

/-- Taking out a gateway with at most one flow in and one out saves work. -/
theorem repairWork_lt_of_isBypass (h : IsBypass g.flows g'.flows node.id) (hflows : g'.flows.Nodup)
    (hnodes : g'.nodes = g.nodes.filter (·.id != node.id)) (hmem : node ∈ g.nodes)
    (hgateway : node.isGateway = true) (hin : (g.incoming node.id).length ≤ 1)
    (hout : (g.outgoing node.id).length ≤ 1) : g'.repairWork < g.repairWork := by
  have hcount : g'.nodes.countP g'.isOverloaded ≤ g.nodes.countP g.isOverloaded := by
    refine (hnodes ▸ List.filter_sublist.countP_le).trans (List.countP_mono_left fun other _ => ?_)
    exact isOverloaded_of_le (h.length_predecessors_le hflows hin)
      (h.length_successors_le hflows hout)
  have hgateways : g'.gateways.length < g.gateways.length := by
    rw [gateways, gateways, ← List.countP_eq_length_filter, ← List.countP_eq_length_filter, hnodes,
      List.countP_filter]
    refine countP_lt hmem (fun other _ hother => ?_) hgateway (by simp)
    exact (Bool.and_eq_true_iff.mp hother).1
  rw [repairWork, repairWork]
  omega

/-! ## When a repair is due -/

/-- What is to be done about a gateway, and why. -/
theorem repair?_eq_some {repair : GatewayRepair} (h : g.repair? node = some repair) :
    (∃ kind, repair = .joinBefore kind node.id ∧ node.isSplit = true ∧
        1 < (g.incoming node.id).length) ∨
      (∃ kind, repair = .splitAfter kind node.id ∧ node.isJoin = true ∧
        1 < (g.outgoing node.id).length) ∨
      repair = .bypass node.id ∧ node.isGateway = true ∧ (g.incoming node.id).length ≤ 1 ∧
        (g.outgoing node.id).length ≤ 1 := by
  unfold repair? at h
  split at h
  · rename_i kind hkind
    have hgateway : node.isGateway = true := Node.isGateway_iff.mpr ⟨kind, hkind⟩
    split at h
    · rename_i hbefore
      exact .inl ⟨kind, by simpa [eq_comm] using h, by simpa using hbefore⟩
    · split at h
      · rename_i hafter
        exact .inr (.inl ⟨kind, by simpa [eq_comm] using h, by simpa using hafter⟩)
      · split at h
        -- the repairs that were tried before do not apply, which bounds both sides
        · rename_i hbefore hafter hfew
          refine .inr (.inr ⟨by simpa [eq_comm] using h, hgateway, ?_⟩)
          simp only [Bool.and_eq_true, decide_eq_true_eq, not_and, not_lt, Bool.or_eq_true] at *
          rcases hfew with ⟨hsplit, hout⟩ | ⟨hjoin, hin⟩
          · exact ⟨hbefore hsplit, Nat.le_of_lt_succ hout⟩
          · exact ⟨Nat.le_of_lt_succ hin, hafter hjoin⟩
        · simp at h
  · simp at h

/-- Without a repair that is due, splits part one flow and joins bring flows together into one. -/
theorem degrees_of_repair?_eq_none (h : g.repair? node = none) :
    (node.isSplit = true →
        (g.incoming node.id).length ≤ 1 ∧ 2 ≤ (g.outgoing node.id).length) ∧
      (node.isJoin = true →
        2 ≤ (g.incoming node.id).length ∧ (g.outgoing node.id).length ≤ 1) := by
  unfold repair? at h
  split at h
  · split at h
    · simp at h
    · split at h
      · simp at h
      · split at h
        · simp at h
        · rename_i hbefore hafter hfew
          simp only [Bool.and_eq_true, decide_eq_true_eq, not_and, not_lt, Bool.or_eq_true,
            not_or] at hbefore hafter hfew
          exact ⟨fun hsplit => ⟨hbefore hsplit, hfew.1 hsplit⟩,
            fun hjoin => ⟨hfew.2 hjoin, hafter hjoin⟩⟩
  · rename_i hkind
    have hgateway : node.isGateway = false := by
      cases hk : node.kind <;> simp_all [Node.isGateway, NodeKind.isGateway]
    simp [Node.isSplit, Node.isJoin, hgateway]

end ProcessGraph

namespace Drafting

open ProcessGraph ActivityMatrix.Digraph

variable {d d' : Draft} {node gate : Node} {sources targets : List String} {a b id : String}

/-! ## What a repair does -/

/-- A step led the flows from the sources to the targets through a new gateway, and did nothing else. -/
structure Inserts (gate : Node) (sources targets : List String) (d d' : Draft) : Prop where
  rest : d' = { d with graph := d'.graph, additions := d'.additions }
  checks : d'.graph.acyclic = d.graph.acyclic
  workable : d'.graph.Workable
  fresh : gate.id ∉ d.graph.ids
  rerouted : Rerouted gate sources targets d.graph d'.graph

/-- A step removed a node and connected its neighbours, and did nothing else. -/
structure TakesOut (id : String) (d d' : Draft) : Prop where
  rest : d' = { d with graph := d'.graph, additions := d'.additions }
  checks : d'.graph.acyclic = d.graph.acyclic
  workable : d'.graph.Workable
  nodes : d'.graph.nodes = (d.graph.deleteNode id).nodes
  bypass : IsBypass d.graph.flows d'.graph.flows id

/-- All flows into a node are moved to a new join in front of it. -/
theorem yields_insertJoinBefore (kind : GatewayKind) {split : String} (h : d.graph.Workable)
    (hsplit : split ∈ d.graph.ids) :
    Yields (insertJoinBefore kind split) d fun _ d' => ∃ join,
      Inserts (gatewayNode kind joinRole join) (d.graph.incoming split) [split] d d' := by
  simp only [insertJoinBefore, yields_bind, yields_graph]
  refine yields_gatewayId fun join hfresh => yields_addGateway h.unfrozen hfresh ?_
  let inv (done : List String) (d' : Draft) : Prop := d' = { d with graph := d'.graph, additions := d'.additions } ∧
    Gathering (gatewayNode kind joinRole join) (done.map (·, split)) done d.graph d'.graph
  have hstart : inv [] (d.insertGateway (gatewayNode kind joinRole join)) :=
    ⟨rfl, gathering_insertNode h hfresh⟩
  refine (yields_forM inv hstart ?_).mono fun _ d₁ hdone => ?_
  · rintro done source rest d₁ hmembers ⟨hrest, hmoved⟩
    have hflow : (source, split) ∈ d.graph.flows := mem_incoming.mp (by simp [hmembers])
    have hnew := notMem_of_nodup_split (nodup_predecessors h.guarded.flows_nodup split) hmembers
    obtain ⟨hadd, hnext⟩ := hmoved.move h hfresh rfl hflow hnew
    refine yields_bind.mpr (yields_removeFlow hmoved.workable.unfrozen (yields_bind.mpr ?_))
    exact yields_addFlow_of_canAddFlow hmoved.workable.unfrozen hadd ⟨by rw [hrest], hnext⟩
  · obtain ⟨hrest, hmoved⟩ := hdone
    obtain ⟨hadd, hworkable, hdetour⟩ := hmoved.close h hfresh rfl hsplit
    refine yields_addFlow_of_canAddFlow hmoved.workable.unfrozen hadd ⟨join, ?_⟩
    exact ⟨by rw [hrest], hmoved.checks, hworkable, hfresh, hmoved.nodes, hdetour⟩

/-- All flows out of a node are moved to a new split behind it. -/
theorem yields_insertSplitAfter (kind : GatewayKind) {join : String} (h : d.graph.Workable)
    (hjoin : join ∈ d.graph.ids) :
    Yields (insertSplitAfter kind join) d fun _ d' => ∃ split,
      Inserts (gatewayNode kind splitRole split) [join] (d.graph.outgoing join) d d' := by
  simp only [insertSplitAfter, yields_bind, yields_graph]
  refine yields_gatewayId fun split hfresh => yields_addGateway h.unfrozen hfresh ?_
  -- with all flows turned round, it is the flows into the node that are moved
  let inv (done : List String) (d' : Draft) : Prop := d' = { d with graph := d'.graph, additions := d'.additions } ∧
    Gathering (gatewayNode kind splitRole split) (done.map (·, join)) done d.graph.turned d'.graph.turned
  have hstart : inv [] (d.insertGateway (gatewayNode kind splitRole split)) :=
    ⟨rfl, gathering_insertNode h.turned hfresh⟩
  refine (yields_forM inv hstart ?_).mono fun _ d₁ hdone => ?_
  · rintro done target rest d₁ hmembers ⟨hrest, hmoved⟩
    have hflow : (target, join) ∈ d.graph.turned.flows :=
      mem_flows_turned.mpr (mem_outgoing.mp (by simp [hmembers]))
    have hnew := notMem_of_nodup_split (nodup_successors h.guarded.flows_nodup join) hmembers
    obtain ⟨hadd, hnext⟩ := hmoved.move h.turned hfresh rfl hflow hnew
    rw [← turned_deleteFlow, canAddFlow_turned] at hadd
    rw [← turned_deleteFlow, ← turned_insertFlow] at hnext
    have hopen := hmoved.workable.unfrozen
    refine yields_bind.mpr (yields_removeFlow hopen (yields_bind.mpr ?_))
    exact yields_addFlow_of_canAddFlow hopen hadd ⟨by rw [hrest], hnext⟩
  · obtain ⟨hrest, hmoved⟩ := hdone
    rw [← incoming_turned] at hmoved
    obtain ⟨hadd, hworkable, hdetour⟩ := hmoved.close h.turned hfresh rfl hjoin
    rw [canAddFlow_turned] at hadd
    rw [← turned_insertFlow] at hworkable hdetour
    rw [incoming_turned] at hdetour
    refine yields_addFlow_of_canAddFlow hmoved.workable.unfrozen hadd ⟨split, ?_⟩
    exact ⟨by rw [hrest], hmoved.checks, workable_turned_iff.mp hworkable, hfresh, hmoved.nodes,
      isDetour_of_turned hdetour⟩

/-- A node with at most one flow in and one out is taken out, and its neighbours are connected. -/
theorem yields_bypass (h : d.graph.Workable) (hin : (d.graph.incoming id).length ≤ 1)
    (hout : (d.graph.outgoing id).length ≤ 1) :
    Yields (bypass id) d fun _ d' => TakesOut id d d' := by
  have hworkable := h.deleteNode id
  have hlone : (∀ a b, (a, id) ∈ d.graph.flows → (id, b) ∉ d.graph.flows) →
      IsBypass d.graph.flows (d.graph.deleteNode id).flows id := by
    intro hnone a b
    rw [mem_flows_deleteNode, or_iff_left]
    exact fun hacross => hnone a b hacross.1 hacross.2
  simp only [bypass, yields_bind, yields_graph]
  refine yields_removeNode h.unfrozen ?_
  rcases hincoming : d.graph.incoming id with _ | ⟨a, _ | ⟨_, _⟩⟩
  · refine ⟨rfl, rfl, hworkable, rfl, hlone fun a b ha _ => ?_⟩
    exact incoming_eq_nil.mp hincoming a ha
  · rcases houtgoing : d.graph.outgoing id with _ | ⟨b, _ | ⟨_, _⟩⟩
    · refine ⟨rfl, rfl, hworkable, rfl, hlone fun a b _ => ?_⟩
      exact outgoing_eq_nil.mp houtgoing b
    · have hflows : ∀ c e, (c, id) ∈ d.graph.flows ∧ (id, e) ∈ d.graph.flows ↔ c = a ∧ e = b := by
        intro c e
        rw [← mem_incoming, ← mem_outgoing, hincoming, houtgoing, List.mem_singleton,
          List.mem_singleton]
      obtain ⟨ha, hb⟩ := (hflows a b).mpr ⟨rfl, rfl⟩
      simp only [List.forM, yields_bind, yields_graph, yields_pure]
      -- the neighbours may be connected already, and then no flow is added
      by_cases hthere : (a, b) ∈ (d.graph.deleteNode id).flows
      · rw [if_pos (hasFlow_iff.mpr hthere)]
        refine ⟨rfl, rfl, hworkable, rfl, fun c e => ?_⟩
        rw [mem_flows_deleteNode, hflows, or_iff_left_of_imp]
        rintro ⟨rfl, rfl⟩
        exact mem_flows_deleteNode.mp hthere
      · rw [if_neg (by simpa using hthere)]
        have hadd := h.canAddFlow_deleteNode ha hb hthere
        have hback : ¬ (d.graph.deleteNode id).Leads b a := fun hback =>
          h.acyclic.asymm (.head ha (.single hb)) (hback.mono List.filter_sublist.subset)
        simp only [yields_bind]
        refine yields_addFlow_of_canAddFlow h.unfrozen hadd ?_
        refine ⟨rfl, rfl, hworkable.insertFlow hadd hback, rfl, fun c e => ?_⟩
        rw [mem_flows_insertFlow, mem_flows_deleteNode, hflows]
    · simp [houtgoing] at hout
  · simp [hincoming] at hin

/-- Where the sources flow into the targets already, no path between nodes that were there is new. -/
theorem Inserts.leads_iff (h : Inserts gate sources targets d d') (hd : d.graph.Workable)
    (hacross : ∀ s ∈ sources, ∀ t ∈ targets, (s, t) ∈ d.graph.flows) (ha : a ∈ d.graph.ids)
    (hb : b ∈ d.graph.ids) : d'.graph.Leads a b ↔ d.graph.Leads a b := by
  have hne : ∀ {c}, c ∈ d.graph.ids → c ≠ gate.id := fun hc heq => h.fresh (heq ▸ hc)
  refine ⟨fun hab => ?_, h.rerouted.leads⟩
  rcases h.rerouted.detour.leads_or_crosses (hd.ends_ne_of_fresh h.fresh) (hne ha) (hne hb) hab with
    hab | ⟨s, hs, t, ht, has, htb⟩
  · exact hab
  · refine leads_or_eq_trans has ?_
    rcases htb with rfl | htb
    · exact .single (hacross s hs b ht)
    · exact .head (hacross s hs t ht) htb

theorem TakesOut.mem_ids (h : TakesOut id d d') : a ∈ d'.graph.ids ↔ a ∈ d.graph.ids ∧ a ≠ id := by
  rw [ids, h.nodes, ← ids, mem_ids_deleteNode]

theorem TakesOut.leads_iff (h : TakesOut id d d') (ha : a ≠ id) (hb : b ≠ id) :
    d'.graph.Leads a b ↔ d.graph.Leads a b :=
  ⟨h.bypass.leads_of_leads, h.bypass.leads ha hb⟩

/-! ## Repairs that are due -/

/-- A repair was due, and is carried out. -/
inductive CarriedOut (d d' : Draft) : GatewayRepair → Prop
  | joinBefore {gateway : Node} (kind : GatewayKind) (join : String) (hnode : gateway ∈ d.graph.nodes)
      (hsplit : gateway.isSplit = true) (hin : 1 < (d.graph.incoming gateway.id).length)
      (hinserts : Inserts (gatewayNode kind joinRole join) (d.graph.incoming gateway.id) [gateway.id] d d') :
      CarriedOut d d' (.joinBefore kind gateway.id)
  | splitAfter {gateway : Node} (kind : GatewayKind) (split : String) (hnode : gateway ∈ d.graph.nodes)
      (hjoin : gateway.isJoin = true) (hout : 1 < (d.graph.outgoing gateway.id).length)
      (hinserts : Inserts (gatewayNode kind splitRole split) [gateway.id] (d.graph.outgoing gateway.id) d d') :
      CarriedOut d d' (.splitAfter kind gateway.id)
  | bypass {gateway : Node} (hnode : gateway ∈ d.graph.nodes) (hgateway : gateway.isGateway = true)
      (hin : (d.graph.incoming gateway.id).length ≤ 1) (hout : (d.graph.outgoing gateway.id).length ≤ 1)
      (htaken : TakesOut gateway.id d d') : CarriedOut d d' (.bypass gateway.id)

/-- A repair that is due can be carried out. -/
theorem yields_carryOut {repair : GatewayRepair} (h : d.graph.Workable)
    (hdue : d.graph.nextRepair? = some repair) :
    Yields (carryOut repair) d fun _ d' => CarriedOut d d' repair := by
  obtain ⟨node, hnode, hrepair⟩ := List.exists_of_findSome?_eq_some hdue
  have hmem := mem_ids_of_mem hnode
  rcases repair?_eq_some hrepair with ⟨kind, rfl, hsplit, hin⟩ | ⟨kind, rfl, hjoin, hout⟩ |
    ⟨rfl, hgateway, hin, hout⟩
  · exact (yields_insertJoinBefore kind h hmem).mono fun _ _ ⟨join, hinserts⟩ =>
      .joinBefore kind join hnode hsplit hin hinserts
  · exact (yields_insertSplitAfter kind h hmem).mono fun _ _ ⟨split, hinserts⟩ =>
      .splitAfter kind split hnode hjoin hout hinserts
  · exact (yields_bypass h hin hout).mono fun _ _ htaken => .bypass hnode hgateway hin hout htaken

/-- Every repair saves work. -/
theorem CarriedOut.repairWork_lt {repair : GatewayRepair} (h : CarriedOut d d' repair)
    (hd : d.graph.Workable) : d'.graph.repairWork < d.graph.repairWork := by
  cases h with
  | joinBefore _ _ hnode hsplit hin h =>
      exact h.rerouted.repairWork_lt_of_isSplit hd.guarded h.workable.guarded h.fresh rfl hnode hsplit hin
  | splitAfter _ _ hnode hjoin hout h =>
      exact h.rerouted.repairWork_lt_of_isJoin hd.guarded h.workable.guarded h.fresh rfl hnode hjoin hout
  | bypass hnode hgateway hin hout h =>
      exact repairWork_lt_of_isBypass h.bypass h.workable.guarded.flows_nodup h.nodes hnode hgateway hin hout

/-! ## One repair after the other -/

/-- Repairs are carried out, each as long as it is due, until none is due any more. -/
inductive RepairedBy : Draft → List GatewayRepair → Draft → Prop
  | done {d : Draft} (hnone : d.graph.nextRepair? = none) : RepairedBy d [] d
  | step {d d₁ d' : Draft} {repair : GatewayRepair} {repairs : List GatewayRepair}
      (hdue : d.graph.nextRepair? = some repair) (hrun : (carryOut repair).run d = .ok () d₁)
      (hrest : RepairedBy d₁ repairs d') : RepairedBy d (repair :: repairs) d'

theorem RepairedBy.nextRepair?_eq_none {repairs : List GatewayRepair} (h : RepairedBy d repairs d') :
    d'.graph.nextRepair? = none := by
  induction h with
  | done hnone => exact hnone
  | step _ _ _ ih => exact ih

theorem CarriedOut.workable {repair : GatewayRepair} (h : CarriedOut d d' repair) : d'.graph.Workable := by
  cases h with
  | joinBefore _ _ _ _ _ hinserts => exact hinserts.workable
  | splitAfter _ _ _ _ _ hinserts => exact hinserts.workable
  | bypass _ _ _ _ htaken => exact htaken.workable

theorem RepairedBy.workable {repairs : List GatewayRepair} (h : RepairedBy d repairs d')
    (hd : d.graph.Workable) : d'.graph.Workable := by
  induction h with
  | done => exact hd
  | step hdue hrun _ ih => exact ih ((yields_carryOut hd hdue).of_run hrun).workable

theorem yields_repairWithin (fuel : Nat) (h : d.graph.Workable) (hfuel : d.graph.repairWork < fuel) :
    Yields (repairWithin fuel) d fun _ d' =>
      ∃ repairs, RepairedBy d repairs d' ∧ repairs.length ≤ d.graph.repairWork := by
  -- each round saves work, so the fuel stays larger than the work that is left
  induction fuel generalizing d with
  | zero => omega
  | succ fuel ih =>
      simp only [repairWithin, yields_bind, yields_graph]
      cases hdue : d.graph.nextRepair? with
      | none => exact ⟨[], .done hdue, Nat.zero_le _⟩
      | some repair =>
          refine yields_bind.mpr ((yields_carryOut h hdue).with_run.mono fun _ d₁ h₁ => ?_)
          obtain ⟨hrun, hcarried⟩ := h₁
          have hless := hcarried.repairWork_lt h
          refine (ih hcarried.workable (by omega)).mono fun _ d' hrest => ?_
          obtain ⟨repairs, hrepaired, hlength⟩ := hrest
          exact ⟨repair :: repairs, .step hdue hrun hrepaired, by rw [List.length_cons]; omega⟩

/-- A cleanup carries out repairs until none is due, and their number is bounded by the work there is. -/
theorem yields_cleanup (h : d.graph.Workable) : Yields cleanup d fun _ d' =>
    ∃ repairs, RepairedBy d repairs d' ∧ repairs.length ≤ d.graph.repairWork := by
  simp only [cleanup, yields_bind, yields_graph]
  exact yields_repairWithin _ h (Nat.lt_succ_self _)

end Drafting

end ActivityMatrix
