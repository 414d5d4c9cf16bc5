import ActivityMatrix.Proofs.Synthesis.Naming
import ActivityMatrix.Proofs.Synthesis.Run

/-!
# What holds whatever the activities are called

Activities may be called like events or like gateways, and then a graph is not sound: there may be
fewer tasks than activities. `Tidy names g` is what is left: ids and flows are listed once, flows
join nodes of the graph, the nodes that are no gateways are those that were added at first, and
gateways are called as gateways are. No step of a synthesis stops on a tidy graph, and every step
leaves it tidy (`Stable`), for one lemma about each way to put steps together and one about each
step. So every run has a result (`yields_phases_tidy`).
-/

namespace ActivityMatrix.Drafting

open ProcessGraph

variable {α β : Type} {names known : List String} {g : ProcessGraph} {d : Draft}
  {a b id s t : String} {node : Node} {kind : GatewayKind} {place anchor role : String}

/-! ## Tidy graphs -/

/-- What holds of a graph at every moment of a synthesis, whatever the activities are called. -/
structure Tidy (names : List String) (g : ProcessGraph) : Prop where
  unfrozen : g.frozen = false
  ids_nodup : g.ids.Nodup
  flows_nodup : g.flows.Nodup
  source_mem : ∀ {a b}, (a, b) ∈ g.flows → a ∈ g.ids
  target_mem : ∀ {a b}, (a, b) ∈ g.flows → b ∈ g.ids
  fixed : g.nodes.filter (!·.isGateway) = fixedNodes names
  named : ∀ node ∈ g.nodes, node.isGateway = true → GatewayName names node.id

theorem mem_fixedNodes : node ∈ fixedNodes names ↔ node = startNode ∨
    (∃ a ∈ names, a ≠ startEventId ∧ taskNode a = node) ∨
      (endEventId ∉ names ∧ node = endNode) := by
  by_cases hend : endEventId ∈ names <;> simp [fixedNodes, hend, and_assoc]

/-- The ids of the nodes that are no gateways are plain anchors. -/
theorem id_mem_plainAnchors (h : node ∈ fixedNodes names) : node.id ∈ plainAnchors names := by
  rcases mem_fixedNodes.mp h with rfl | ⟨a, ha, -, rfl⟩ | ⟨-, rfl⟩
  · exact .head _
  · simp [plainAnchors, taskNode, ha]
  · exact .tail _ (.head _)

namespace Tidy

variable (h : Tidy names g)
include h

theorem mem_fixedNodes_of_mem (hnode : node ∈ g.nodes) (hgateway : node.isGateway = false) :
    node ∈ fixedNodes names := by
  rw [← h.fixed]
  exact List.mem_filter.mpr ⟨hnode, by simpa using hgateway⟩

theorem mem_nodes_of_mem (hnode : node ∈ fixedNodes names) : node ∈ g.nodes := by
  rw [← h.fixed] at hnode
  exact List.mem_of_mem_filter hnode

/-- The start event and the activities are in the graph. -/
theorem mem_ids_of_mem (ha : a ∈ startEventId :: names) : a ∈ g.ids := by
  have hstart : startEventId ∈ g.ids :=
    ProcessGraph.mem_ids.mpr ⟨startNode, h.mem_nodes_of_mem (mem_fixedNodes.mpr (.inl rfl)), rfl⟩
  by_cases heq : a = startEventId
  · exact heq ▸ hstart
  · refine ProcessGraph.mem_ids.mpr ⟨taskNode a, h.mem_nodes_of_mem (mem_fixedNodes.mpr ?_), rfl⟩
    exact .inr (.inl ⟨a, (List.mem_cons.mp ha).resolve_left heq, heq, rfl⟩)

/-- Every node of the graph may be an anchor. -/
theorem isAnchor (ha : a ∈ g.ids) : IsAnchor names a := by
  obtain ⟨node, hnode, rfl⟩ := ProcessGraph.mem_ids.mp ha
  cases hgateway : node.isGateway with
  | true => exact .inr (h.named node hnode hgateway)
  | false => exact .inl (id_mem_plainAnchors (h.mem_fixedNodes_of_mem hnode hgateway))

theorem insertFlow (hadd : g.canAddFlow s t = true) : Tidy names (g.insertFlow s t) := by
  simp only [canAddFlow, Bool.and_eq_true, contains_iff, Bool.not_eq_true', ← Bool.not_eq_true,
    hasFlow_iff] at hadd
  obtain ⟨⟨⟨⟨⟨⟨hs, ht⟩, -⟩, hnew⟩, -⟩, -⟩, -⟩ := hadd
  exact
    { h with
      flows_nodup := List.Nodup.append h.flows_nodup (List.nodup_singleton _) (by simpa using hnew)
      source_mem := fun hab => (mem_flows_insertFlow.mp hab).elim h.source_mem fun heq => heq.1 ▸ hs
      target_mem := fun hab => (mem_flows_insertFlow.mp hab).elim h.target_mem fun heq => heq.2 ▸ ht }

theorem deleteFlow (s t : String) : Tidy names (g.deleteFlow s t) :=
  { h with
    flows_nodup := h.flows_nodup.filter _
    source_mem := fun hab => h.source_mem (List.mem_of_mem_filter hab)
    target_mem := fun hab => h.target_mem (List.mem_of_mem_filter hab) }

/-- A gateway that is called like one may be added. -/
theorem insertNode (hfresh : node.id ∉ g.ids) (hgateway : node.isGateway = true)
    (hname : GatewayName names node.id) : Tidy names (g.insertNode node) where
  unfrozen := h.unfrozen
  ids_nodup := by
    rw [ids, ProcessGraph.insertNode, List.map_append]
    refine List.Nodup.append h.ids_nodup (List.nodup_singleton _) ?_
    simpa [ids] using hfresh
  flows_nodup := h.flows_nodup
  source_mem hab := mem_ids_insertNode.mpr (.inl (h.source_mem hab))
  target_mem hab := mem_ids_insertNode.mpr (.inl (h.target_mem hab))
  fixed := by
    rw [ProcessGraph.insertNode, List.filter_append, h.fixed]
    simp [hgateway]
  named other hother hgate := by
    rcases List.mem_append.mp hother with hother | hother
    · exact h.named other hother hgate
    · exact List.mem_singleton.mp hother ▸ hname

/-- A gateway may be removed. -/
theorem deleteNode (hnode : node ∈ g.nodes) (hgateway : node.isGateway = true) :
    Tidy names (g.deleteNode node.id) where
  unfrozen := h.unfrozen
  ids_nodup := (List.filter_sublist.map Node.id).nodup h.ids_nodup
  flows_nodup := h.flows_nodup.filter _
  source_mem hab := by
    obtain ⟨hab, hne, -⟩ := mem_flows_deleteNode.mp hab
    exact mem_ids_deleteNode.mpr ⟨h.source_mem hab, hne⟩
  target_mem hab := by
    obtain ⟨hab, -, hne⟩ := mem_flows_deleteNode.mp hab
    exact mem_ids_deleteNode.mpr ⟨h.target_mem hab, hne⟩
  fixed := by
    rw [← h.fixed, ProcessGraph.deleteNode, List.filter_filter]
    refine List.filter_congr fun other hother => ?_
    -- only the gateway itself has its id
    by_cases heq : other.id = node.id
    · obtain rfl := List.inj_on_of_nodup_map h.ids_nodup hother hnode heq
      simp [hgateway]
    · simp [heq]
  named other hother := h.named other (List.mem_of_mem_filter hother)

end Tidy

/-! ## Stable steps -/

/-- A step does not stop on a tidy graph, leaves it tidy, and removes none of the given nodes. -/
def Stable (names known : List String) (step : Drafting α) : Prop :=
  ∀ d, Tidy names d.graph → known ⊆ d.graph.ids →
    Yields step d fun _ d' => Tidy names d'.graph ∧ known ⊆ d'.graph.ids

theorem stable_pure (a : α) : Stable names known (pure a : Drafting α) :=
  fun _ h hknown => ⟨h, hknown⟩

theorem Stable.bind {step : Drafting α} {next : α → Drafting β} (hstep : Stable names known step)
    (hnext : ∀ a, Stable names known (next a)) : Stable names known (step >>= next) := by
  intro d h hknown
  refine yields_bind.mpr ((hstep d h hknown).mono fun a d' h' => ?_)
  exact hnext a d' h'.1 h'.2

theorem stable_get {next : Draft → Drafting β}
    (hnext : ∀ d, Tidy names d.graph → Stable names known (next d)) :
    Stable names known (get >>= next) :=
  fun d h hknown => hnext d h d h hknown

theorem stable_graph {next : ProcessGraph → Drafting β}
    (hnext : ∀ g, Tidy names g → Stable names known (next g)) :
    Stable names known (graph >>= next) :=
  fun d h hknown => hnext d.graph h d h hknown

theorem stable_forM {members : List β} {body : β → Drafting Unit}
    (hbody : ∀ member ∈ members, Stable names known (body member)) :
    Stable names known (members.forM body) := by
  intro d h hknown
  refine yields_forM (fun _ d' => Tidy names d'.graph ∧ known ⊆ d'.graph.ids) ⟨h, hknown⟩ ?_
  intro done member rest d' hsplit h'
  exact hbody member (by simp [hsplit]) d' h'.1 h'.2

theorem stable_foldlM {σ : Type} {members : List β} {body : σ → β → Drafting σ} {start : σ}
    (hbody : ∀ found, ∀ member ∈ members, Stable names known (body found member)) :
    Stable names known (members.foldlM body start) := by
  intro d h hknown
  refine yields_foldlM (fun _ _ d' => Tidy names d'.graph ∧ known ⊆ d'.graph.ids) ⟨h, hknown⟩ ?_
  intro done member rest found d' hsplit h'
  exact hbody found member (by simp [hsplit]) d' h'.1 h'.2

theorem stable_ite {c : Prop} [Decidable c] {step other : Drafting α}
    (hstep : Stable names known step) (hother : Stable names known other) :
    Stable names known (if c then step else other) := by
  split
  · exact hstep
  · exact hother

/-! ## Primitive steps -/

theorem stable_modify {f : Draft → Draft} (hf : ∀ d, (f d).graph = d.graph) :
    Stable names known (modify f : Drafting PUnit) := by
  intro d h hknown
  rw [yields_modify, hf d]
  exact ⟨h, hknown⟩

theorem stable_modify_bind {f : Draft → Draft} {next : PUnit → Drafting β}
    (hf : ∀ d, (f d).graph = d.graph) (hnext : ∀ a, Stable names known (next a)) :
    Stable names known (modify f >>= next) :=
  (stable_modify hf).bind hnext

theorem stable_diagnose (report : Diagnostic) : Stable names known (diagnose report) :=
  stable_modify fun _ => rfl

theorem stable_record (step : SynthesisStep) : Stable names known (record step) :=
  stable_modify fun _ => rfl

theorem stable_addFlow (s t : String) : Stable names known (addFlow s t) :=
  fun _ h hknown => yields_addFlow h.unfrozen (fun hadd => ⟨h.insertFlow hadd, hknown⟩)
    fun _ => ⟨h, hknown⟩

theorem stable_removeFlow (s t : String) : Stable names known (removeFlow s t) :=
  fun _ h hknown => yields_removeFlow h.unfrozen ⟨h.deleteFlow s t, hknown⟩

theorem stable_connect (s t : String) : Stable names known (connect s t) :=
  fun _ h hknown => yields_connect h.unfrozen (fun _ => ⟨h, hknown⟩)
    (fun hadd => ⟨h.insertFlow hadd, hknown⟩) fun _ _ => ⟨h, hknown⟩

/-- An id is asked for, and it is the id of a gateway. -/
theorem stable_gatewayId {next : String → Drafting β} (hplace : place ∈ gatewayPlaces)
    (hanchor : IsAnchor names anchor)
    (hnext : ∀ id, GatewayName names id → Stable names known (next id)) :
    Stable names known (gatewayId kind place anchor >>= next) :=
  fun d h hknown => yields_bind.mpr
    (yields_gatewayId_named hplace hanchor fun id _ hname => hnext id hname d h hknown)

theorem yields_addGateway_tidy (h : Tidy names d.graph) (hname : GatewayName names id) :
    Yields (addGateway kind role id) d fun _ d' =>
      Tidy names d'.graph ∧ d.graph.ids ⊆ d'.graph.ids ∧ id ∈ d'.graph.ids := by
  simp only [addGateway, yields_bind, yields_graph, yields_modify]
  refine yields_addNode_or_present _ h.unfrozen (fun _ hpresent => ?_) fun hfresh => ?_
  · exact ⟨h, List.Subset.refl _, hpresent⟩
  · exact ⟨h.insertNode hfresh rfl hname, fun _ ha => mem_ids_insertNode.mpr (.inl ha),
      mem_ids_insertNode.mpr (.inr rfl)⟩

theorem stable_addGateway (hname : GatewayName names id) :
    Stable names known (addGateway kind role id) := by
  intro d h hknown
  refine (yields_addGateway_tidy h hname).mono fun _ d' h' => ?_
  exact ⟨h'.1, List.Subset.trans hknown h'.2.1⟩

/-! ## Convergence -/

section

variable {plan : SynthesisPlan} {branches : List (List String)} {point : String}

theorem stable_addExit (exits : List String) (last : String) :
    Stable names known (addExit point exits last) := by
  refine stable_graph fun g _ => ?_
  refine stable_ite (stable_pure _) (stable_ite ?_ (stable_pure _))
  exact (stable_diagnose _).bind fun _ => stable_pure _

theorem stable_collectExits : Stable names known (collectExits plan branches point) :=
  stable_graph fun _ _ => stable_foldlM fun exits last _ => stable_addExit exits last

theorem stable_redirect (join exit : String) : Stable names known (redirect point join exit) :=
  (stable_removeFlow _ _).bind fun _ => (stable_addFlow _ _).bind fun _ =>
    stable_ite (stable_diagnose _) (stable_pure _)

theorem stable_fallbackJoin (hplace : place ∈ gatewayPlaces) (hanchor : IsAnchor names anchor) :
    Stable names known (fallbackJoin anchor branches kind place) := by
  refine stable_graph fun g _ => stable_gatewayId hplace hanchor fun join hjoin => ?_
  refine (stable_addGateway hjoin).bind fun _ => stable_forM fun sink _ => ?_
  exact (stable_addFlow _ _).bind fun _ => stable_pure _

theorem stable_joinAt (hplace : place ∈ gatewayPlaces) (hanchor : IsAnchor names anchor)
    (hpoint : IsAnchor names point) :
    Stable names known (joinAt plan anchor branches kind place point) := by
  refine stable_graph fun before _ => ?_
  refine stable_gatewayId hplace (by split <;> assumption) fun join hjoin => ?_
  refine stable_collectExits.bind fun exits => stable_ite (stable_pure _) ?_
  have hexits : Stable names known (joinExits kind point join exits) := by
    refine (stable_addGateway hjoin).bind fun _ => ?_
    refine (stable_forM fun exit _ => stable_redirect join exit).bind fun _ => ?_
    exact (stable_connect _ _).bind fun _ => stable_pure _
  exact hexits.bind fun _ => stable_get fun _ _ => stable_record _

end

/-! ## Expansion -/

section

variable {plan : SynthesisPlan} (hr : plan.relations.Listed)
  {branches : List (List String)} {source : String} {targets : List String}
  {groups : List GatewayGroup} {visit : String → Drafting Unit}

/-- The start event and the activities may be anchors. -/
theorem isAnchor_of_mem (ha : a ∈ startEventId :: names) : IsAnchor names a := by
  refine .inl ?_
  simp only [plainAnchors, List.mem_cons] at ha ⊢
  tauto

/-- A split is opened behind a node that is there, and is there if it was opened. -/
theorem stable_openSplit {split : String} {next : Drafting Unit}
    (hsource : source ∈ startEventId :: (names ++ known)) (hsplit : GatewayName names split)
    (hnext : Stable names (split :: known) next) :
    Stable names known (do if ← openSplit source kind split then next) := by
  intro d h hknown
  have hmem : source ∈ d.graph.ids := by
    rcases List.mem_append.mp (show source ∈ (startEventId :: names) ++ known from hsource) with
      hfixed | hopen
    · exact h.mem_ids_of_mem hfixed
    · exact hknown hopen
  obtain ⟨origin, hfound⟩ : ∃ origin, d.graph.node? source = some origin := by
    obtain ⟨origin, horigin, hid⟩ := ProcessGraph.mem_ids.mp hmem
    exact Option.isSome_iff_exists.mp (List.find?_isSome.mpr ⟨origin, horigin, by simpa using hid⟩)
  simp only [openSplit, node, yields_bind, yields_graph, hfound, yields_pure]
  split
  · exact ⟨h, hknown⟩
  · simp only [yields_bind, yields_pure, if_true]
    refine (yields_addGateway_tidy h hsplit).mono fun _ d₁ h₁ => ?_
    obtain ⟨h₁, hsub, hsplit₁⟩ := h₁
    have hknown₁ : split :: known ⊆ d₁.graph.ids :=
      List.cons_subset.mpr ⟨hsplit₁, List.Subset.trans hknown hsub⟩
    refine (stable_addFlow source split d₁ h₁ hknown₁).mono fun _ d₂ h₂ => ?_
    refine (hnext d₂ h₂.1 h₂.2).mono fun _ d' h' => ⟨h'.1, ?_⟩
    exact (List.cons_subset.mp h'.2).2

include hr

theorem stable_converge (hplace : place ∈ gatewayPlaces)
    (hanchor : IsAnchor plan.relations.order anchor) :
    Stable plan.relations.order known (converge plan anchor branches kind place) := by
  unfold converge
  split
  · exact stable_ite (stable_fallbackJoin hplace hanchor) (stable_pure _)
  · rename_i point rest hpoints
    refine stable_joinAt hplace hanchor (isAnchor_of_mem (.tail _ ?_))
    have hmeets : point ∈ plan.relations.meetingPoints branches := by
      rw [← RelationSets.mem_sortByOrder (r := plan.relations), hpoints]
      exact .head _
    obtain ⟨hne, hall⟩ := RelationSets.mem_common.mp hmeets
    obtain ⟨reached, hreached⟩ := List.exists_mem_of_ne_nil _ hne
    obtain ⟨branch, -, rfl⟩ := List.mem_map.mp hreached
    obtain ⟨head, -, hreach⟩ := List.mem_flatMap.mp (hall _ hreached)
    exact hr.mem_of_mem_reachable hreach

variable (hanchor : anchor ∈ startEventId :: plan.relations.order)
  (hvisit : ∀ t ∈ targets, ∀ known, Stable plan.relations.order known (visit t))
include hanchor hvisit

theorem stable_splitJoin (hsource : source ∈ startEventId :: (plan.relations.order ++ known))
    (hbranches : branches.flatten ⊆ targets) :
    Stable plan.relations.order known (splitJoin plan visit source anchor branches kind) := by
  have hplaces : splitPlace ∈ gatewayPlaces ∧ joinPlace ∈ gatewayPlaces := by decide
  refine stable_gatewayId hplaces.1 (isAnchor_of_mem hanchor) fun split hsplit => ?_
  refine stable_openSplit hsource hsplit ((stable_record _).bind fun _ => ?_)
  refine (stable_forM fun t ht => (hvisit t (hbranches ht) _).bind fun _ => ?_).bind fun _ => ?_
  · exact (stable_connect _ _).bind fun _ => stable_pure _
  · exact stable_converge hr hplaces.2 (isAnchor_of_mem hanchor)

theorem stable_splitGroup {outer : String} {group : GatewayGroup}
    (houter : outer ∈ startEventId :: (plan.relations.order ++ known))
    (hgroup : group.targets ⊆ targets) :
    Stable plan.relations.order known (splitGroup plan visit outer anchor group) := by
  unfold splitGroup
  split
  · rename_i target htarget
    refine (hvisit target (hgroup (by simp [htarget])) _).bind fun _ => ?_
    exact (stable_connect _ _).bind fun _ => stable_pure _
  · exact stable_splitJoin hr hanchor hvisit houter ((flatten_singletons group.targets).symm ▸ hgroup)

/-- Groups that cover the targets, none of which is empty. -/
theorem stable_split (hcover : Grouping.Covers groups targets) :
    Stable plan.relations.order known (split plan visit anchor groups) := by
  have hgroup : ∀ group ∈ groups, group.targets ⊆ targets :=
    fun group hmem t ht => (hcover.1 t).mp ⟨group, hmem, ht⟩
  have hsource : ∀ known, anchor ∈ startEventId :: (plan.relations.order ++ known) :=
    fun known => List.mem_append_left known hanchor
  unfold split
  split
  · refine (stable_connect _ _).bind fun _ => hvisit _ (hgroup _ (.head _) (.head _)) _
  · rename_i kind members _
    refine stable_splitJoin hr hanchor hvisit (hsource _) ?_
    rw [flatten_singletons]
    exact hgroup _ (.head _)
  · have hplaces : mergedSplitPlace ∈ gatewayPlaces ∧ mergedJoinPlace ∈ gatewayPlaces := by decide
    intro d h hknown
    refine yields_bind.mpr ((yields_firstTargets hcover.2).mono fun firsts d₁ hd₁ => ?_)
    subst hd₁
    refine stable_gatewayId hplaces.1 (isAnchor_of_mem hanchor) (fun outer houter => ?_) d₁ h hknown
    refine stable_openSplit (hsource _) houter ((stable_record _).bind fun _ => ?_)
    refine (stable_forM fun group hmem => ?_).bind fun _ =>
      stable_converge hr hplaces.2 (isAnchor_of_mem hanchor)
    exact stable_splitGroup hr hanchor hvisit (by simp) (hgroup group hmem)

theorem stable_buildAfter {strategy : GroupingStrategy} :
    Stable plan.relations.order known (buildAfter plan visit strategy anchor targets) := by
  unfold buildAfter
  split
  · exact stable_pure _
  · exact (stable_connect _ _).bind fun _ => hvisit _ (.head _) _
  · rename_i hne _
    exact stable_split hr hanchor hvisit (strategy.covers_group _ _ hne)

omit hanchor hvisit

theorem stable_expandWithin (fuel : Nat) (ha : a ∈ plan.relations.order) :
    Stable plan.relations.order known (expandWithin plan fuel a) := by
  induction fuel generalizing a known with
  | zero => exact stable_pure _
  | succ fuel ih =>
      have hmark : Stable plan.relations.order known (markProcessed a) :=
        stable_get fun _ _ => stable_ite (stable_pure _)
          (stable_modify_bind (fun _ => rfl) fun _ => stable_pure _)
      refine hmark.bind fun marked => ?_
      have hbuild : Stable plan.relations.order known (buildAfter plan (expandWithin plan fuel)
          plan.options.grouping a (plan.relations.directSuccessors a)) :=
        stable_buildAfter hr (.tail _ ha) fun t ht _ => ih (hr.mem_of_mem_directSuccessors ht)
      split
      · exact hbuild.bind fun _ => stable_record _
      · exact stable_record _

theorem stable_expand (ha : a ∈ plan.relations.order) :
    Stable plan.relations.order known (expand plan a) :=
  stable_expandWithin hr _ ha

theorem stable_expandAll : Stable plan.relations.order known (expandAll plan) :=
  stable_forM fun _ ha => stable_expand hr ha

theorem stable_synthesizeStart : Stable plan.relations.order known (synthesizeStart plan) := by
  refine stable_modify_bind (fun _ => rfl) fun _ => stable_buildAfter hr (.head _) fun t ht _ => ?_
  exact stable_expand hr (RelationSets.mem_startActivities.mp ht).1

/-! ## Stitching -/

omit hr in
/-- The gateway behind a node is in the graph. -/
theorem gatewayAfter?_mem (h : Tidy names g) {gateway successor : String}
    (hfound : g.gatewayAfter? a = some (gateway, successor)) : gateway ∈ g.ids := by
  unfold gatewayAfter? at hfound
  split at hfound
  · rename_i next hnext
    split at hfound
    · split at hfound
      · obtain ⟨rfl, -⟩ := Prod.mk.inj (Option.some.inj hfound)
        exact h.target_mem (mem_outgoing.mp (hnext ▸ List.mem_singleton_self _))
      · exact absurd hfound (by simp)
    · exact absurd hfound (by simp)
  · exact absurd hfound (by simp)

theorem stable_branchOff {gateway successor : String} {members : List String}
    (hgateway : IsAnchor plan.relations.order gateway)
    (hmembers : ∀ m ∈ members, m ∈ plan.relations.order) :
    Stable plan.relations.order known (branchOff plan gateway successor members) := by
  refine stable_graph fun g _ => stable_gatewayId (by decide) hgateway fun split hsplit => ?_
  refine (stable_addGateway hsplit).bind fun _ => (stable_removeFlow _ _).bind fun _ => ?_
  refine (stable_addFlow _ _).bind fun _ => (stable_addFlow _ _).bind fun _ => ?_
  refine stable_forM fun m hm => (stable_expand hr (hmembers m hm)).bind fun _ => ?_
  exact (stable_connect _ _).bind fun _ => stable_pure _

theorem stable_attachToOpen {members : List String} (ha : a ∈ plan.relations.order)
    (hmembers : ∀ m ∈ members, m ∈ plan.relations.order) :
    Stable plan.relations.order known (attachToOpen plan a members) := by
  unfold attachToOpen
  split
  · exact (stable_connect _ _).bind fun _ => stable_expand hr (hmembers _ (.head _))
  · refine stable_splitJoin hr (.tail _ ha) (fun t ht _ => stable_expand hr (hmembers t ht))
      (List.mem_append_left known (List.mem_cons_of_mem _ ha)) ?_
    rw [flatten_singletons]
    exact List.Subset.refl _

theorem stable_attachGroup {anchor : Option String} {members : List String}
    (hanchor : ∀ a, anchor = some a → a ∈ plan.relations.order)
    (hmembers : ∀ m ∈ members, m ∈ plan.relations.order) :
    Stable plan.relations.order known (attachGroup plan anchor members) := by
  refine stable_graph fun g hg => stable_get fun d _ => stable_ite (stable_pure _) ?_
  cases anchor with
  | none => exact stable_diagnose _
  | some a =>
      refine stable_ite (stable_attachToOpen hr (hanchor a rfl) hmembers) ?_
      split
      · exact stable_diagnose _
      · rename_i gateway successor hfound
        exact stable_branchOff hr (hg.isAnchor (gatewayAfter?_mem hg hfound)) hmembers

theorem stable_attachOrphans : Stable plan.relations.order known (attachOrphans plan) := by
  refine stable_get fun d _ => stable_forM ?_
  rintro ⟨anchor, members⟩ hgroup
  have hmem : ∀ m ∈ members, m ∈ plan.relations.order ∧
      plan.relations.latestCommonPredecessor [m] = anchor := by
    intro m hm
    obtain ⟨b, hb, heq⟩ := List.mem_map.mp ((mem_of_mem_groupInOrder hgroup).mp hm)
    obtain ⟨rfl, rfl⟩ := Prod.mk.inj heq
    exact ⟨List.mem_of_mem_filter hb, rfl⟩
  refine stable_attachGroup hr (fun a ha => ?_) fun m hm => (hmem m hm).1
  obtain ⟨m, hm⟩ := (mem_groupInOrder.mp hgroup).1
  have hpredecessor := (hmem m ((mem_of_mem_groupInOrder hgroup).mpr hm)).2
  exact hr.mem_of_latestCommonPredecessor (hpredecessor.trans ha)

omit hr

/-- A join takes in the flows into a node and those from further feeders. -/
theorem stable_joinInFront {existing feeders : List String} {join target : String}
    {body : String → Drafting Unit} (hjoin : GatewayName names join)
    (hbody : ∀ feeder, Stable names known (body feeder)) :
    Stable names known (do
      addGateway kind joinRole join
      existing.forM fun feeder => do
        let _ ← removeFlow feeder target
      feeders.forM body
      let _ ← addFlow join target) := by
  refine (stable_addGateway hjoin).bind fun _ => (stable_forM fun feeder _ => ?_).bind fun _ => ?_
  · exact (stable_removeFlow _ _).bind fun _ => stable_pure _
  · refine (stable_forM fun feeder _ => hbody feeder).bind fun _ => ?_
    exact (stable_addFlow _ _).bind fun _ => stable_pure _

theorem stable_feed (join feeder : String) : Stable names known (feed join feeder) :=
  (stable_addFlow _ _).bind fun _ => stable_ite (stable_diagnose _) (stable_pure _)

theorem stable_insertFlow (s t : String) : Stable names known (do let _ ← addFlow s t) :=
  (stable_addFlow _ _).bind fun _ => stable_pure _

theorem stable_mergeInto {target : String} {sources : List String}
    (htarget : IsAnchor names target) : Stable names known (mergeInto plan target sources) := by
  refine stable_graph fun g hg => (stable_forM fun _ _ => stable_record _).bind fun _ => ?_
  dsimp only
  split
  · exact stable_pure _
  · exact stable_insertFlow _ _
  · have hplaces : joinAfterPlace ∈ gatewayPlaces ∧ joinPlace ∈ gatewayPlaces := by decide
    split
    · rename_i first rest hfirst
      have hmem : (first, target) ∈ g.flows := mem_incoming.mp (hfirst ▸ .head _)
      refine stable_gatewayId hplaces.1 (hg.isAnchor (hg.source_mem hmem)) fun join hjoin => ?_
      exact stable_joinInFront hjoin (stable_feed join)
    · refine stable_gatewayId hplaces.2 htarget fun join hjoin => ?_
      exact stable_joinInFront hjoin (stable_feed join)

/-- A flow is only merged into a node that is there. -/
theorem contains_of_mergeable {flow : Flow} (h : g.pendingFate flow = .mergeable) :
    flow.2 ∈ g.ids := by
  obtain ⟨source, target⟩ := flow
  by_contra hmissing
  have hcontains : g.contains target = false := by simpa [← Bool.not_eq_true] using hmissing
  simp only [pendingFate, hcontains, Bool.not_false, if_true, ite_self] at h
  cases h

theorem stable_resolvePending : Stable names known (resolvePending plan) := by
  refine stable_get fun d hd => (stable_forM fun _ _ => stable_diagnose _).bind fun _ => ?_
  refine stable_modify_bind (fun _ => rfl) fun _ => stable_forM ?_
  rintro ⟨target, sources⟩ hgroup
  obtain ⟨s, hs⟩ := (mem_groupInOrder.mp hgroup).1
  have hmergeable := (mem_mergeGroups hgroup).mp ((mem_of_mem_groupInOrder hgroup).mpr hs)
  exact stable_mergeInto (hd.isAnchor (contains_of_mergeable hmergeable.2))

end

/-! ## The ends -/

section

variable {plan : SynthesisPlan}

theorem stable_attachHeads : Stable names known (attachHeads plan) := by
  refine stable_graph fun g _ => stable_ite (stable_pure _) ?_
  refine (stable_forM fun _ _ => stable_diagnose _).bind fun _ => ?_
  dsimp only
  split
  · exact stable_insertFlow _ _
  · refine stable_gatewayId (by decide) (isAnchor_of_mem (.head _)) fun split hsplit => ?_
    refine (stable_addGateway hsplit).bind fun _ => (stable_forM fun _ _ => ?_).bind fun _ => ?_
    · exact (stable_removeFlow _ _).bind fun _ => stable_pure _
    · refine (stable_addFlow _ _).bind fun _ => stable_forM fun _ _ => stable_insertFlow _ _

theorem stable_synthesizeEnd : Stable names known (synthesizeEnd plan) := by
  refine stable_graph fun g _ => ?_
  dsimp only
  split
  · refine stable_ite ?_ (stable_pure _)
    exact stable_insertFlow _ _
  · split
    · exact stable_insertFlow _ _
    · have hend : IsAnchor names endAnchor := .inl (by simp [plainAnchors])
      refine stable_gatewayId (by decide) hend fun join hjoin => ?_
      exact stable_joinInFront hjoin fun feeder => stable_insertFlow _ _

end

/-! ## Cleanup -/

theorem stable_insertJoinBefore (hsplit : IsAnchor names s) :
    Stable names known (insertJoinBefore kind s) := by
  refine stable_graph fun g _ => stable_gatewayId (by decide) hsplit fun join hjoin => ?_
  refine (stable_addGateway hjoin).bind fun _ => (stable_forM fun source _ => ?_).bind fun _ => ?_
  · exact (stable_removeFlow _ _).bind fun _ => stable_insertFlow _ _
  · exact stable_insertFlow _ _

theorem stable_insertSplitAfter (hjoin : IsAnchor names s) :
    Stable names known (insertSplitAfter kind s) := by
  refine stable_graph fun g _ => stable_gatewayId (by decide) hjoin fun split hsplit => ?_
  refine (stable_addGateway hsplit).bind fun _ => (stable_forM fun target _ => ?_).bind fun _ => ?_
  · exact (stable_removeFlow _ _).bind fun _ => stable_insertFlow _ _
  · exact stable_insertFlow _ _

/-- A gateway is removed, and flows are added between its neighbours. -/
theorem yields_bypass_tidy (h : Tidy names d.graph) (hnode : node ∈ d.graph.nodes)
    (hgateway : node.isGateway = true) :
    Yields (bypass node.id) d fun _ d' => Tidy names d'.graph := by
  simp only [bypass, yields_bind, yields_graph]
  refine yields_removeNode h.unfrozen ?_
  have hconnect : Stable names [] ((d.graph.incoming node.id).forM fun source =>
      (d.graph.outgoing node.id).forM fun target => do
        if (← graph).hasFlow source target then return
        if !(← addFlow source target) then diagnose (.lostFlow source target node.id)) := by
    refine stable_forM fun source _ => stable_forM fun target _ => stable_graph fun g _ => ?_
    refine stable_ite (stable_pure _) ((stable_addFlow _ _).bind fun _ => ?_)
    exact stable_ite (stable_diagnose _) (stable_pure _)
  exact (hconnect _ (h.deleteNode hnode hgateway) (List.nil_subset _)).mono fun _ _ h' => h'.1

/-- A repair that is due leaves the graph tidy. -/
theorem yields_carryOut_tidy {repair : GatewayRepair} (h : Tidy names d.graph)
    (hdue : d.graph.nextRepair? = some repair) :
    Yields (carryOut repair) d fun _ d' => Tidy names d'.graph := by
  obtain ⟨node, hnode, hrepair⟩ := List.exists_of_findSome?_eq_some hdue
  have hanchor := h.isAnchor (mem_ids_of_mem hnode)
  rcases repair?_eq_some hrepair with ⟨kind, rfl, -⟩ | ⟨kind, rfl, -⟩ | ⟨rfl, hgateway, -⟩
  · exact (stable_insertJoinBefore hanchor d h (List.nil_subset _)).mono fun _ _ h' => h'.1
  · exact (stable_insertSplitAfter hanchor d h (List.nil_subset _)).mono fun _ _ h' => h'.1
  · exact yields_bypass_tidy h hnode hgateway

theorem stable_repairWithin (fuel : Nat) : Stable names [] (repairWithin fuel) := by
  induction fuel with
  | zero => exact stable_pure _
  | succ fuel ih =>
      intro d h hknown
      simp only [repairWithin, yields_bind, yields_graph]
      cases hdue : d.graph.nextRepair? with
      | none => exact ⟨h, hknown⟩
      | some repair =>
          refine yields_bind.mpr ((yields_carryOut_tidy h hdue).mono fun _ d₁ h₁ => ?_)
          exact ih d₁ h₁ (List.nil_subset _)

theorem stable_cleanup : Stable names [] cleanup :=
  stable_graph fun _ _ => stable_repairWithin _

/-! ## Whole runs -/

/-- The nodes alone are tidy. -/
theorem tidy_fixedNodes (hnodup : names.Nodup) :
    Tidy names { acyclic := true, nodes := fixedNodes names } where
  unfrozen := rfl
  ids_nodup := by
    have hids : (fixedNodes names).map Node.id = startEventId ::
        (names.filter (· ≠ startEventId) ++ if endEventId ∈ names then [] else [endEventId]) := by
      by_cases hend : endEventId ∈ names <;>
        simp [fixedNodes, hend, startNode, endNode, taskNode, Function.comp_def]
    have hevents : startEventId ≠ endEventId := by decide
    show ((fixedNodes names).map Node.id).Nodup
    rw [hids, List.nodup_cons]
    refine ⟨by split <;> simp [hevents], ?_⟩
    split
    · simpa using hnodup.filter _
    · rename_i hend
      refine List.Nodup.append (hnodup.filter _) (List.nodup_singleton _) ?_
      simpa using fun hmem => absurd hmem hend
  flows_nodup := List.nodup_nil
  source_mem hab := absurd hab List.not_mem_nil
  target_mem hab := absurd hab List.not_mem_nil
  fixed := List.filter_eq_self.mpr fun node hnode => by
    rcases mem_fixedNodes.mp hnode with rfl | ⟨a, -, -, rfl⟩ | ⟨-, rfl⟩ <;> rfl
  named node hnode hgateway := by
    rcases mem_fixedNodes.mp hnode with rfl | ⟨a, -, -, rfl⟩ | ⟨-, rfl⟩ <;> cases hgateway

/-- Whatever the activities are called, a run does not stop, and ends with a tidy graph. -/
theorem yields_phases_tidy {plan : SynthesisPlan} (hr : plan.relations.Listed) :
    Yields (Synthesis.phases plan) Synthesis.blankDraft fun _ d =>
      Tidy plan.relations.order d.graph := by
  have hrest : Stable plan.relations.order [] (do
      synthesizeStart plan
      record .started
      expandAll plan
      attachOrphans plan
      stitchingPhases plan
      attachHeads plan
      closingPhases plan) := by
    refine (stable_synthesizeStart hr).bind fun _ => (stable_record _).bind fun _ => ?_
    refine (stable_expandAll hr).bind fun _ => (stable_attachOrphans hr).bind fun _ => ?_
    refine Stable.bind ?_ fun _ => stable_attachHeads.bind fun _ => ?_
    · refine (stable_record _).bind fun _ => stable_resolvePending.bind fun _ => ?_
      exact (stable_record _).bind fun _ => stable_cleanup.bind fun _ => stable_record _
    · refine (stable_record _).bind fun _ => stable_synthesizeEnd.bind fun _ => ?_
      exact (stable_record _).bind fun _ => stable_cleanup.bind fun _ => stable_record _
  simp only [phases_eq, expansionPhases, bind_assoc]
  refine yields_bind.mpr ((yields_addNodes_of_nodup hr.nodup).mono fun _ d hd => ?_)
  subst hd
  exact (hrest _ (tidy_fixedNodes hr.nodup) (List.nil_subset _)).mono fun _ _ h' => h'.1

end ActivityMatrix.Drafting
