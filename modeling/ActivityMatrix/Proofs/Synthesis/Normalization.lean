import ActivityMatrix.Proofs.Synthesis.Repairs

/-!
# What a cleanup leaves

A cleanup works on any guarded graph without cycles, whatever its gateways are, and starts over after every
repair. The number of gateways does not tell how far it has come: two kinds of repair add one, and a bypass
between neighbours that are connected already takes a flow from both of them, so that a gateway that was
fine needs a repair. What gets less with every repair is `repairWork`.

* `CarriedOut.spares`: a repair keeps all nodes but the gateway it removes, and changes no paths between the
  nodes it keeps; a flow that it adds is never refused.
* `RepairedBy.spares`: so do the repairs of a whole cleanup, of all nodes that none of them removes.
* `cleanup_normalizes`: a cleanup comes to an end where no repair is due, unless the graph is frozen and one
  is due.

Of the nodes that are removed on the way nothing is said, although a node with the same id may be there in
the end: the id of a removed gateway is free, and a new gateway may get it.
-/

namespace ActivityMatrix

/-- The nodes that a repair removes. -/
def GatewayRepair.removed : GatewayRepair → List String
  | .bypass gateway => [gateway]
  | .joinBefore .. | .splitAfter .. => []

namespace Drafting

open ProcessGraph ActivityMatrix.Digraph

variable {d d' d'' : Draft} {gate node : Node} {repair : GatewayRepair} {repairs : List GatewayRepair}
  {sources targets gone gone' : List String} {a b id : String}

/-! ## Nodes that are spared -/

/-- A step changed nothing but the graph, kept all its nodes but some gateways, added no node that is no
gateway, and changed no paths between the nodes that it kept. -/
structure Spares (gone : List String) (d d' : Draft) : Prop where
  rest : d' = { d with graph := d'.graph, additions := d'.additions }
  others : d'.graph.nodes.filter (!·.isGateway) = d.graph.nodes.filter (!·.isGateway)
  kept : ∀ node ∈ d.graph.nodes, node.id ∉ gone → node ∈ d'.graph.nodes
  leads_iff : ∀ {a b}, a ∈ d.graph.ids → b ∈ d.graph.ids → a ∉ gone → b ∉ gone →
    (d'.graph.Leads a b ↔ d.graph.Leads a b)

theorem Spares.refl (d : Draft) : Spares [] d d :=
  ⟨rfl, rfl, fun _ hnode _ => hnode, fun _ _ _ _ => Iff.rfl⟩

theorem Spares.mem_ids (h : Spares gone d d') (ha : a ∈ d.graph.ids) (hgone : a ∉ gone) :
    a ∈ d'.graph.ids := by
  obtain ⟨node, hnode, rfl⟩ := ProcessGraph.mem_ids.mp ha
  exact mem_ids_of_mem (h.kept node hnode hgone)

theorem Spares.trans (h : Spares gone d d') (h' : Spares gone' d' d'') :
    Spares (gone ++ gone') d d'' where
  rest := by rw [h'.rest, h.rest]
  others := h'.others.trans h.others
  kept node hnode hgone := by
    rw [List.mem_append, not_or] at hgone
    exact h'.kept node (h.kept node hnode hgone.1) hgone.2
  leads_iff ha hb hagone hbgone := by
    rw [List.mem_append, not_or] at hagone hbgone
    exact (h'.leads_iff (h.mem_ids ha hagone.1) (h.mem_ids hb hbgone.1) hagone.2 hbgone.2).trans
      (h.leads_iff ha hb hagone.1 hbgone.1)

/-- A gateway between nodes that flow into each other spares all nodes. -/
theorem Inserts.spares (h : Inserts gate sources targets d d') (hd : d.graph.Workable)
    (hgate : gate.isGateway = true)
    (hacross : ∀ s ∈ sources, ∀ t ∈ targets, (s, t) ∈ d.graph.flows) : Spares [] d d' where
  rest := h.rest
  others := by simp [h.rerouted.nodes, hgate]
  kept node hnode _ := h.rerouted.nodes_subset hnode
  leads_iff ha hb _ _ := h.leads_iff hd hacross ha hb

/-- A bypass spares all nodes but the gateway that it removes. -/
theorem TakesOut.spares (h : TakesOut node.id d d') (hd : d.graph.Workable) (hnode : node ∈ d.graph.nodes)
    (hgateway : node.isGateway = true) : Spares [node.id] d d' where
  rest := h.rest
  others := by
    rw [h.nodes, deleteNode, List.filter_filter]
    refine List.filter_congr fun other hother => ?_
    by_cases heq : other.id = node.id
    · obtain rfl := List.inj_on_of_nodup_map hd.guarded.ids_nodup hother hnode heq
      simp [hgateway]
    · simp [heq]
  kept other hother hgone := by
    rw [h.nodes, deleteNode, List.mem_filter]
    exact ⟨hother, by simpa using hgone⟩
  leads_iff _ _ ha hb := h.leads_iff (by simpa using ha) (by simpa using hb)

theorem CarriedOut.spares (h : CarriedOut d d' repair) (hd : d.graph.Workable) :
    Spares repair.removed d d' := by
  cases h with
  | joinBefore _ _ _ _ _ hinserts =>
      exact hinserts.spares hd rfl fun _ hs _ ht => List.mem_singleton.mp ht ▸ mem_incoming.mp hs
  | splitAfter _ _ _ _ _ hinserts =>
      exact hinserts.spares hd rfl fun _ hs _ ht => List.mem_singleton.mp hs ▸ mem_outgoing.mp ht
  | bypass hnode hgateway _ _ htaken => exact htaken.spares hd hnode hgateway

theorem RepairedBy.spares (h : RepairedBy d repairs d') (hd : d.graph.Workable) :
    Spares (repairs.flatMap GatewayRepair.removed) d d' := by
  induction h with
  | done => exact .refl _
  | step hdue hrun _ ih =>
      have hcarried := (yields_carryOut hd hdue).of_run hrun
      exact (hcarried.spares hd).trans (ih hcarried.workable)

/-! ## A frozen graph -/

/-- A frozen graph refuses the first change of every repair. -/
theorem carryOut_of_frozen (hfrozen : d.graph.frozen = true) (repair : GatewayRepair) :
    (carryOut repair).run d = .error (.graph .frozen) d := by
  have hadd (node : Node) : (addNode node).run d = .error (.graph .frozen) d :=
    change_of_error (if_pos hfrozen)
  have hremove (id : String) : (removeNode id).run d = .error (.graph .frozen) d :=
    change_of_error (if_pos hfrozen)
  cases repair <;>
    simp only [carryOut, insertJoinBefore, insertSplitAfter, bypass, addGateway, graph, gatewayId,
      EStateM.run_bind, EStateM.run_get, EStateM.run_pure, hadd, hremove]

theorem cleanup_of_due (hdue : d.graph.nextRepair? = some repair) (hfrozen : d.graph.frozen = true) :
    cleanup.run d = .error (.graph .frozen) d := by
  simp only [cleanup, repairWithin, graph, EStateM.run_bind, EStateM.run_get, EStateM.run_pure, hdue,
    carryOut_of_frozen hfrozen]

/-- Where no repair is due, nothing happens. -/
theorem cleanup_of_none (hnone : d.graph.nextRepair? = none) : cleanup.run d = .ok () d := by
  simp only [cleanup, repairWithin, graph, EStateM.run_bind, EStateM.run_get, EStateM.run_pure, hnone]

/-! ## The whole cleanup -/

/-- What a cleanup has made of a draft by some repairs. -/
structure Normalized (d : Draft) (repairs : List GatewayRepair) (d' : Draft) : Prop where
  repaired : RepairedBy d repairs d'
  few : repairs.length ≤ d.graph.repairWork
  rest : d' = { d with graph := d'.graph, additions := d'.additions }
  guarded : d'.graph.Guarded
  acyclic : Acyclic d'.graph.flows
  splits : ∀ node ∈ d'.graph.splits,
    (d'.graph.incoming node.id).length ≤ 1 ∧ 2 ≤ (d'.graph.outgoing node.id).length
  joins : ∀ node ∈ d'.graph.joins,
    2 ≤ (d'.graph.incoming node.id).length ∧ (d'.graph.outgoing node.id).length ≤ 1
  others : d'.graph.nodes.filter (!·.isGateway) = d.graph.nodes.filter (!·.isGateway)
  kept : ∀ node ∈ d.graph.nodes, node.id ∉ repairs.flatMap GatewayRepair.removed → node ∈ d'.graph.nodes
  canReach_eq : ∀ a ∈ d.graph.ids, ∀ b ∈ d.graph.ids, a ∉ repairs.flatMap GatewayRepair.removed →
    b ∉ repairs.flatMap GatewayRepair.removed → d'.graph.canReach a b = d.graph.canReach a b

theorem RepairedBy.normalized (h : RepairedBy d repairs d')
    (hspares : Spares (repairs.flatMap GatewayRepair.removed) d d')
    (hfew : repairs.length ≤ d.graph.repairWork) (hguarded : d'.graph.Guarded)
    (hbefore : Acyclic d.graph.flows) (hacyclic : Acyclic d'.graph.flows) : Normalized d repairs d' := by
  have hnone : ∀ node ∈ d'.graph.nodes, d'.graph.repair? node = none :=
    List.findSome?_eq_none_iff.mp h.nextRepair?_eq_none
  refine ⟨h, hfew, hspares.rest, hguarded, hacyclic, fun node hnode => ?_, fun node hnode => ?_,
    hspares.others, hspares.kept, fun a ha b hb hagone hbgone => ?_⟩
  · obtain ⟨hmem, hsplit⟩ := List.mem_filter.mp hnode
    exact (degrees_of_repair?_eq_none (hnone node hmem)).1 hsplit
  · obtain ⟨hmem, hjoin⟩ := List.mem_filter.mp hnode
    exact (degrees_of_repair?_eq_none (hnone node hmem)).2 hjoin
  · rw [Bool.eq_iff_iff, ProcessGraph.canReach, ProcessGraph.canReach, hacyclic.canReach_iff,
      hbefore.canReach_iff]
    exact hspares.leads_iff ha hb hagone hbgone

/-- **A cleanup comes to an end**, in any guarded graph without cycles that is not frozen or needs no repair,
and leaves the gateways as they should be, all other nodes, no report, and the same paths between the nodes
that it did not remove on the way. A frozen graph refuses the first repair that is due. -/
theorem cleanup_normalizes (d : Draft) (hguarded : d.graph.Guarded) (hacyclic : Acyclic d.graph.flows) :
    (d.graph.frozen = false ∨ d.graph.nextRepair? = none →
      ∃ repairs d', cleanup.run d = .ok () d' ∧ Normalized d repairs d') ∧
    (d.graph.frozen = true → d.graph.nextRepair? ≠ none →
      cleanup.run d = .error (.graph .frozen) d) := by
  constructor
  · rintro (hopen | hnone)
    · have hd : d.graph.Workable := ⟨hguarded, hacyclic, hopen⟩
      obtain ⟨_, d', hrun, repairs, hrepaired, hfew⟩ := (yields_cleanup hd).exists_result
      have hd' := hrepaired.workable hd
      exact ⟨repairs, d', hrun,
        hrepaired.normalized (hrepaired.spares hd) hfew hd'.guarded hacyclic hd'.acyclic⟩
    · exact ⟨[], d, cleanup_of_none hnone,
        (RepairedBy.done hnone).normalized (.refl d) (Nat.zero_le _) hguarded hacyclic hacyclic⟩
  · intro hfrozen hdue
    obtain ⟨repair, hrepair⟩ := Option.ne_none_iff_exists'.mp hdue
    exact cleanup_of_due hrepair hfrozen

/-- The join has one flow in and is removed; the split has two, and the join that it gets is called like the
one that is gone. -/
def reclaimed : Draft where
  graph :=
    { acyclic := true
      nodes :=
        [gatewayNode .parallel joinRole "parallelGateway_Join_Before_s",
          gatewayNode .parallel splitRole "s"] ++ ["a", "b", "x", "y", "p", "q"].map taskNode
      flows :=
        [("a", "parallelGateway_Join_Before_s"), ("parallelGateway_Join_Before_s", "b"), ("x", "s"),
          ("y", "s"), ("s", "p"), ("s", "q")] }

theorem workable_reclaimed : reclaimed.graph.Workable :=
  workable_of_order ["a", "parallelGateway_Join_Before_s", "b", "x", "y", "s", "p", "q"] rfl (by decide)
    (by decide) (by decide) (by decide) (by decide) (by decide) (by decide) (by decide)

def reclaimedFrozen : Draft :=
  { reclaimed with graph := reclaimed.graph.freeze }

theorem cleanup_normalizes_reclaimed :
    reclaimed.graph.Guarded ∧ Acyclic reclaimed.graph.flows ∧ reclaimed.graph.frozen = false ∧
      (∃ repairs d', cleanup.run reclaimed = .ok () d' ∧ Normalized reclaimed repairs d' ∧
        d'.graph.incoming "b" = ["a"] ∧
        d'.graph.incoming "s" = ["parallelGateway_Join_Before_s"] ∧
        d'.graph.incoming "parallelGateway_Join_Before_s" = ["x", "y"]) ∧
      cleanup.run reclaimedFrozen = .error (.graph .frozen) reclaimedFrozen := by
  have hyields : Yields cleanup reclaimed fun _ d' => d'.graph.incoming "b" = ["a"] ∧
      d'.graph.incoming "s" = ["parallelGateway_Join_Before_s"] ∧
      d'.graph.incoming "parallelGateway_Join_Before_s" = ["x", "y"] := by decide +kernel
  obtain ⟨hguarded, hacyclic, hopen⟩ := workable_reclaimed
  obtain ⟨repairs, d', hrun, hnormalized⟩ :=
    (cleanup_normalizes reclaimed hguarded hacyclic).1 (.inl hopen)
  refine ⟨hguarded, hacyclic, hopen, ⟨repairs, d', hrun, hnormalized, hyields.of_run hrun⟩, ?_⟩
  exact (cleanup_normalizes reclaimedFrozen hguarded.freeze hacyclic).2 rfl (by decide)

/-- What is said of the nodes that were kept does not hold of all nodes: the id of the removed join, and
all that was known of the node, is back, but the path out of it is not. Nor does it hold of a frozen graph. -/
theorem cleanup_reclaims_id :
    reclaimed.graph.Guarded ∧ Acyclic reclaimed.graph.flows ∧
      (Yields cleanup reclaimed fun _ d' =>
        let join := gatewayNode .parallel joinRole "parallelGateway_Join_Before_s"
        join ∈ reclaimed.graph.nodes ∧ join ∈ d'.graph.nodes ∧
          reclaimed.graph.canReach join.id "b" = true ∧ d'.graph.canReach join.id "b" = false) ∧
      ¬ Yields cleanup reclaimedFrozen fun _ _ => True :=
  ⟨workable_reclaimed.guarded, workable_reclaimed.acyclic, by decide +kernel, by decide +kernel⟩

end Drafting

end ActivityMatrix
