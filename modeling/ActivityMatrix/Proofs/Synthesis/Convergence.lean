import ActivityMatrix.Synthesis.Convergence
import ActivityMatrix.Proofs.Synthesis.Building

/-!
# Branches converge

Bringing branches together keeps the invariant of the expansion (`yields_converge`), if the first
activities of the branches are done. What is joined are nodes without an outgoing flow and nodes
that feed the meeting point already, and none of them lies behind the point. So the new join takes
the place of the point for all of them, and then leads to the point, unless the point is fed by a
flow from elsewhere: then nothing was removed, and the flow from the join to the point is pending
(`Joins`). For every node of the branches that feeds the point is one of those that are joined.
-/

namespace ActivityMatrix

open ActivityMatrix.Digraph

namespace ProcessGraph

variable {names : List String} {g : ProcessGraph} {a b id : String}

/-- A join that a flow enters. -/
def IsEnteredJoin (g : ProcessGraph) (id : String) : Prop :=
  g.isJoin id = true ∧ ∃ u, (u, id) ∈ g.flows

/-- Following joins ends at the start or at a join that was entered on the way. -/
theorem followJoinsFrom_spec (h : g.Sound names) (seen : List String) (fuel : Nat)
    (hid : id ∈ g.ids) :
    g.followJoinsFrom seen id fuel ∈ g.ids ∧ (g.followJoinsFrom seen id fuel = id ∨
      g.IsEnteredJoin (g.followJoinsFrom seen id fuel)) := by
  induction fuel generalizing seen id with
  | zero => exact ⟨hid, .inl rfl⟩
  | succ fuel ih =>
      unfold followJoinsFrom
      split
      · rename_i next hnext
        split
        · rename_i hjoin
          have hflow : (id, next) ∈ g.flows := mem_outgoing.mp (hnext ▸ List.mem_singleton_self next)
          obtain ⟨hmem, hend⟩ := ih (next :: seen) (h.target_mem hflow)
          refine ⟨hmem, .inr ?_⟩
          rcases hend with hend | hend
          · rw [hend]
            exact ⟨(Bool.and_eq_true_iff.mp hjoin).1, id, hflow⟩
          · exact hend
        · exact ⟨hid, .inl rfl⟩
      · exact ⟨hid, .inl rfl⟩

theorem followJoins_spec (h : g.Sound names) (hid : id ∈ g.ids) :
    g.followJoins id ∈ g.ids ∧ (g.followJoins id = id ∨ g.IsEnteredJoin (g.followJoins id)) :=
  followJoinsFrom_spec h [id] g.nodes.length hid

/-- Nodes in the scope of heads are heads or entered. -/
theorem mem_scope {heads : List String} (h : a ∈ g.scope heads) :
    a ∈ heads ∨ ∃ u, (u, a) ∈ g.flows := by
  rcases List.mem_append.mp h with h | h
  · exact .inl h
  · obtain ⟨head, -, hreach⟩ := List.mem_flatMap.mp h
    obtain ⟨u, -, hu⟩ := (mem_reachable.mp hreach).2.exists_last
    exact .inr ⟨u, hu⟩

theorem mem_openEnds (h : g.Sound names) {branch : List String} (ha : a ∈ g.openEnds branch) :
    a ∈ g.ids ∧ a ≠ endEventId ∧ (∀ b, (a, b) ∉ g.flows) ∧
      (a ∈ branch ∨ ∃ u, (u, a) ∈ g.flows) := by
  obtain ⟨node, hnode, rfl⟩ := List.mem_map.mp ha
  simp only [List.mem_filter, Bool.and_eq_true, Bool.or_eq_true, List.contains_iff_mem,
    List.isEmpty_iff, outgoing_eq_nil] at hnode
  obtain ⟨hmem, ⟨hscope, hrole⟩, hopen⟩ := hnode
  refine ⟨mem_ids_of_mem hmem, fun hend => ?_, hopen, mem_scope hscope⟩
  rcases hrole with htask | hjoin
  · exact h.end_notMem (hend ▸ (h.fits node hmem).isTask_iff.mp htask)
  · have hgate := (h.fits node hmem).isGateway_iff.mp (Node.isGateway_of_isJoin hjoin)
    exact hgate (by simp [hend])

end ProcessGraph

namespace Drafting

open ProcessGraph

variable {plan : SynthesisPlan} {A : Set String} {d d' : Draft} {point exit : String}
  {branches : List (List String)}

/-! ## Exits -/

/-- A node that may feed a join in front of a meeting point. -/
structure IsExit (r : RelationSets) (d : Draft) (point exit : String) : Prop where
  mem : exit ∈ d.graph.ids
  ne_end : exit ≠ endEventId
  ne_point : point ≠ exit
  not_leads : ¬ d.graph.Leads point exit
  processed : exit ∈ r.order → exit ∈ d.processed
  fed : d.graph.Fed r.order exit
  free : (exit, point) ∈ d.graph.flows ∨ ∀ b, (exit, b) ∉ d.graph.flows

/-- The first activities of the branches are done. -/
def HeadsDone (A : Set String) (d : Draft) (branches : List (List String)) : Prop :=
  ∀ head ∈ branches.flatten, head ∈ d.processed ∧ head ∉ A

/-- What lies behind the heads by the relations is done. -/
theorem HeadsDone.done (h : HeadsDone A d branches) (hb : Building plan.relations A d)
    (hr : Acyclic plan.relations.edges) {a : String}
    (ha : a ∈ branches.flatten ++ branches.flatten.flatMap plan.relations.reachable) :
    a ∈ d.processed ∧ a ∉ A := by
  rcases List.mem_append.mp ha with ha | ha
  · exact h a ha
  · obtain ⟨head, hhead, hreach⟩ := List.mem_flatMap.mp ha
    obtain ⟨hprocessed, hopen⟩ := h head hhead
    exact hb.done_of_leads hr hprocessed hopen ((RelationSets.mem_reachable_of_acyclic hr).mp hreach)

/-- A node that feeds the meeting point is an exit. -/
theorem isExit_of_feeds (hb : Building plan.relations A d)
    (hflow : (exit, point) ∈ d.graph.flows) : IsExit plan.relations d point exit where
  mem := hb.sound.source_mem hflow
  ne_end heq := hb.sound.out_of_end point (heq ▸ hflow)
  ne_point := (hb.sound.ne_of_mem hflow).symm
  not_leads hback := hb.sound.acyclic _ (hback.tail hflow)
  processed hname := hb.of_left hflow hname
  fed := hb.rooted hflow
  free := .inl hflow

/-- What following joins from a done activity ends at is an exit, if it has no flow out and does not
lie behind the point. -/
theorem isExit_of_followJoins (hb : Building plan.relations A d) {last : String}
    (hlast : last ∈ d.processed) (hfree : (d.graph.outgoing (d.graph.followJoins last)).isEmpty)
    (hbehind : ¬ (d.graph.followJoins last = point ∨
      d.graph.canReach point (d.graph.followJoins last) = true)) :
    IsExit plan.relations d point (d.graph.followJoins last) := by
  have hname := hb.processed_mem hlast
  obtain ⟨hmem, hend⟩ := followJoins_spec hb.sound (hb.target_mem_ids hname)
  rw [not_or, hb.sound.canReach_iff] at hbehind
  -- the end is the activity itself or an entered join, which decides each part
  refine ⟨hmem, fun heq => ?_, fun heq => hbehind.1 heq.symm, hbehind.2, fun hexit => ?_, ?_,
    .inr (outgoing_eq_nil.mp (List.isEmpty_iff.mp hfree))⟩
  · rcases hend with hend | ⟨hjoin, -⟩
    · exact hb.sound.end_notMem ((hend.symm.trans heq) ▸ hname)
    · obtain ⟨node, hnode, hid, hrole⟩ := hb.sound.isJoin_iff.mp hjoin
      have hgate := (hb.sound.fits node hnode).isGateway_iff.mp (Node.isGateway_of_isJoin hrole)
      exact hgate (by simp [hid, heq])
  · rcases hend with hend | ⟨hjoin, -⟩
    · rw [hend]
      exact hlast
    · exact absurd hexit (hb.sound.notMem_names_of_isJoin hjoin)
  · rcases hend with hend | ⟨-, hentered⟩
    · exact .inl (hend.symm ▸ hname)
    · exact .inr (.inr hentered)

/-- The nodes that are to feed a join in front of a meeting point of branches: each once, and among them
every node of the branches that feeds the point. -/
structure AreExits (r : RelationSets) (d : Draft) (branches : List (List String)) (point : String)
    (exits : List String) : Prop where
  nodup : exits.Nodup
  isExit : ∀ exit ∈ exits, IsExit r d point exit
  feeders : ∀ a ∈ d.graph.scope branches.flatten, (a, point) ∈ d.graph.flows → a ∈ exits

/-- One exit more. -/
theorem AreExits.append {r : RelationSets} {exits : List String}
    (h : AreExits r d branches point exits) (hexit : IsExit r d point exit) (hnew : exit ∉ exits) :
    AreExits r d branches point (exits ++ [exit]) where
  nodup := List.Nodup.append h.nodup (List.nodup_singleton _) (by simpa using hnew)
  isExit other hother := by
    rcases List.mem_append.mp hother with hother | hother
    · exact h.isExit other hother
    · exact List.mem_singleton.mp hother ▸ hexit
  feeders a ha hflow := List.mem_append_left _ (h.feeders a ha hflow)

/-- The nodes of the branches that feed the point are exits. -/
theorem areExits_feeders (hb : Building plan.relations A d) :
    AreExits plan.relations d branches point
      ((d.graph.incoming point).filter ((d.graph.scope branches.flatten).contains ·)) where
  nodup := (nodup_predecessors hb.sound.flows_nodup point).filter _
  isExit _ hexit := isExit_of_feeds hb (mem_incoming.mp (List.mem_of_mem_filter hexit))
  feeders _ ha hflow :=
    List.mem_filter.mpr ⟨mem_incoming.mpr hflow, List.contains_iff_mem.mpr ha⟩

/-- Exits are found without touching the graph, and only ends that lie behind the point are
reported. -/
theorem yields_collectExits (hb : Building plan.relations A d)
    (hr : Acyclic plan.relations.edges) (hheads : HeadsDone A d branches) :
    Yields (collectExits plan branches point) d fun exits d' =>
      d' = { d with diagnostics := d'.diagnostics } ∧
        (∀ report ∈ d'.diagnostics, report.IsBehindPoint) ∧
          AreExits plan.relations d branches point exits := by
  simp only [collectExits, yields_bind, yields_graph]
  refine yields_foldlM (fun _ (exits : List String) d' =>
    d' = { d with diagnostics := d'.diagnostics } ∧
      (∀ report ∈ d'.diagnostics, report.IsBehindPoint) ∧
        AreExits plan.relations d branches point exits)
    ⟨rfl, hb.reports, areExits_feeders hb⟩ ?_
  rintro done last rest exits d₁ hsplit ⟨hd₁, hreports, hexits⟩
  -- what the branches reach by precedences is expanded by now
  have hlast : last ∈ d.processed := by
    have hmem : last ∈ (plan.relations.directPredecessors point).filter
        ((branches.flatten ++ branches.flatten.flatMap plan.relations.reachable).contains ·) :=
      hsplit ▸ List.mem_append_right _ (.head _)
    exact (hheads.done hb hr (by simpa using (List.mem_filter.mp hmem).2)).1
  have hgraph : d₁.graph = d.graph := by rw [hd₁]
  simp only [addExit, yields_bind, yields_graph, hgraph]
  split
  · exact ⟨hd₁, hreports, hexits⟩
  · rename_i hopen
    simp only [Bool.or_eq_true, Bool.not_eq_true', Bool.not_eq_false, not_or,
      List.contains_iff_mem] at hopen
    split
    · refine ⟨by rw [hd₁], fun report hreport => ?_, hexits⟩
      rcases List.mem_append.mp hreport with hreport | hreport
      · exact hreports report hreport
      · exact ⟨_, _, List.mem_singleton.mp hreport⟩
    · rename_i hbehind
      exact ⟨hd₁, hreports,
        hexits.append (isExit_of_followJoins hb hlast hopen.1 (by simpa using hbehind)) hopen.2⟩

/-! ## Joins -/

/-- Exits may be led to the point through a join, if all flows into the point come from exits. -/
theorem reroutable_exits {exits : List String} (hb : Building plan.relations A d)
    (hpoint : point ∈ plan.relations.order) (hexits : AreExits plan.relations d branches point exits)
    (hfed : ∀ a, (a, point) ∈ d.graph.flows → a ∈ exits) :
    Reroutable plan.relations.order d.graph exits [point] where
  nodup_sources := hexits.nodup
  nodup_targets := List.nodup_singleton _
  source_mem s hs := (hexits.isExit s hs).mem
  target_mem t ht := List.mem_singleton.mp ht ▸ hb.target_mem_ids hpoint
  source_ne_end hend := (hexits.isExit _ hend).ne_end rfl
  target_ne_start hstart := hb.sound.start_notMem (List.mem_singleton.mp hstart ▸ hpoint)
  target_of_source s hs hname b hsb := by
    rcases (hexits.isExit s hs).free with hflow | hfree
    · exact List.mem_singleton.mpr (hb.sound.single_out hname hsb hflow)
    · exact absurd hsb (hfree b)
  source_of_target t ht _ a hat := hfed a (List.mem_singleton.mp ht ▸ hat)
  ne s hs t ht := List.mem_singleton.mp ht ▸ (hexits.isExit s hs).ne_point
  not_leads s hs t ht := List.mem_singleton.mp ht ▸ (hexits.isExit s hs).not_leads

/-- Nodes may be led into a new gateway, if no activity among them has a flow out. -/
theorem reroutable_sinks {names sinks : List String} {g : ProcessGraph} (hnodup : sinks.Nodup)
    (hsinks : ∀ s ∈ sinks, s ∈ g.ids ∧ s ≠ endEventId ∧ (s ∈ names → ∀ b, (s, b) ∉ g.flows)) :
    Reroutable names g sinks [] where
  nodup_sources := hnodup
  nodup_targets := List.nodup_nil
  source_mem s hs := (hsinks s hs).1
  target_mem _ ht := absurd ht List.not_mem_nil
  source_ne_end hend := (hsinks _ hend).2.1 rfl
  target_ne_start := List.not_mem_nil
  target_of_source s hs hname b hsb := absurd hsb ((hsinks s hs).2.2 hname b)
  source_of_target _ ht := absurd ht List.not_mem_nil
  ne _ _ _ ht := absurd ht List.not_mem_nil
  not_leads _ _ _ ht := absurd ht List.not_mem_nil

/-- A node with a single flow into it. -/
theorem incoming_eq_singleton {g : ProcessGraph} {a b : String} (hnodup : g.flows.Nodup)
    (h : ∀ u, (u, b) ∈ g.flows ↔ u = a) : g.incoming b = [a] := by
  refine List.perm_singleton.mp ((List.perm_ext_iff_of_nodup (nodup_predecessors hnodup b)
    (List.nodup_singleton a)).mpr fun u => ?_)
  rw [mem_predecessors, List.mem_singleton, h]

/-- The new gateway brings flows together. -/
theorem Reroutes.hasJoin {names sources targets : List String} {kind : GatewayKind} {join : String}
    (h : Reroutes names (gatewayNode kind joinRole join) sources targets d d') :
    d'.graph.HasJoin join :=
  ⟨_, h.rerouted.nodes ▸ List.mem_append_right d.graph.nodes (List.mem_singleton_self _), rfl, rfl⟩

/-- Just the sources enter a new node. -/
theorem Reroutes.mem_into_node {names sources targets : List String} {node : Node} {a : String}
    (h : Reroutes names node sources targets d d') (hd : d.graph.Sound names)
    (hfresh : node.id ∉ d.graph.ids) (htargets : node.id ∉ targets) :
    (a, node.id) ∈ d'.graph.flows ↔ a ∈ sources := by
  rw [h.rerouted.detour a node.id]
  constructor
  · rintro (⟨hflow, -⟩ | ⟨hsource, -⟩ | ⟨-, htarget⟩)
    · exact absurd (hd.target_mem hflow) hfresh
    · exact hsource
    · exact absurd htarget htargets
  · exact fun hsource => .inr (.inl ⟨hsource, rfl⟩)

/-- The new node alone enters a target that was entered from sources only. -/
theorem Reroutes.mem_into_target {names sources targets : List String} {node : Node} {a t : String}
    (h : Reroutes names node sources targets d d') (ht : t ∈ targets) (hne : t ≠ node.id)
    (hfed : ∀ u, (u, t) ∈ d.graph.flows → u ∈ sources) :
    (a, t) ∈ d'.graph.flows ↔ a = node.id := by
  rw [h.rerouted.detour a t]
  constructor
  · rintro (⟨hflow, hkept⟩ | ⟨-, heq⟩ | ⟨heq, -⟩)
    · exact absurd ⟨hfed a hflow, ht⟩ hkept
    · exact absurd heq hne
    · exact heq
  · exact fun heq => .inr (.inr ⟨heq, ht⟩)

variable (hb : Building plan.relations A d)
include hb

section

variable {exits : List String} {kind : GatewayKind} {join : String} {d₁ : Draft}
  (hfresh : join ∉ d.graph.ids) (hpoint : point ∈ d.processed ∧ point ∉ Spared plan.relations A [])
  (hne : exits ≠ []) (hexits : AreExits plan.relations d branches point exits)
  (h₁ : Halfway plan.relations.order (gatewayNode kind joinRole join) [] [] [] d d₁)
include hfresh hpoint hne hexits h₁

/-- If all flows into the point come from exits, the join takes their place. -/
theorem yields_redirect_fed (hfed : ∀ a, (a, point) ∈ d.graph.flows → a ∈ exits) :
    Yields (do exits.forM (redirect point join); let _ ← connect join point) d₁ fun _ d' =>
      Building plan.relations A d' ∧ Progress (Spared plan.relations A []) d d' ∧
        Joins d.graph d'.graph branches point join exits d'.pending := by
  have hname := hb.processed_mem hpoint.1
  have hjoin : point ≠ join := fun heq => hfresh (heq ▸ hb.target_mem_ids hname)
  have hsite : Site plan.relations.order (gatewayNode kind joinRole join) exits [point] d.graph :=
    ⟨hb.sound, hfresh, reroutable_exits hb hname hexits hfed⟩
  refine yields_bind.mpr ((yields_moveAll_into hsite (feeds_orReport join) h₁
    (List.Subset.refl _) hjoin).mono fun _ d₂ h₂ => yields_bind.mpr ?_)
  obtain ⟨hadd, h₃⟩ := h₂.reach hsite (.head _) List.not_mem_nil (List.Subset.refl _)
    fun _ s hs _ => List.mem_map.mpr ⟨s, hs, rfl⟩
  -- every flow from an exit to the point was moved, so the moves are one rerouting
  have hdone := h₃.reroutes fun a b _ => by simp [eq_comm, and_comm]
  refine yields_connect h₂.unfrozen (fun hthere => ?_) (fun _ => ?_)
    fun _ hrefused => absurd (hadd.symm.trans hrefused) (by decide)
  · exact absurd ((h₂.midway.target_mem_iff hb.sound hfresh).mp hthere) List.not_mem_nil
  · obtain ⟨hb', hprogress⟩ := hb.reroute hdone hfresh
      (fun exit hexit => ⟨(hexits.isExit exit hexit).processed, (hexits.isExit exit hexit).fed⟩)
      (fun t ht => List.mem_singleton.mp ht ▸ hpoint) fun _ => hne
    refine ⟨hb', hprogress, hfresh, hdone.hasJoin, hne, fun a => ?_, .inl ?_⟩
    · exact hdone.mem_into_node hb.sound hfresh fun hmem => hjoin (List.mem_singleton.mp hmem).symm
    · exact incoming_eq_singleton hdone.sound.flows_nodup fun u =>
        hdone.mem_into_target (.head _) hjoin hfed

/-- If another node feeds the point, no exit does, and the flow from the join is refused. -/
theorem yields_redirect_refused {a : String} (ha : (a, point) ∈ d.graph.flows)
    (hother : a ∉ exits) :
    Yields (do exits.forM (redirect point join); let _ ← connect join point) d₁ fun _ d' =>
      Building plan.relations A d' ∧ Progress (Spared plan.relations A []) d d' ∧
        Joins d.graph d'.graph branches point join exits d'.pending := by
  have hname := hb.processed_mem hpoint.1
  have hjoin : point ≠ join := fun heq => hfresh (heq ▸ hb.target_mem_ids hname)
  have hfree : ∀ exit ∈ exits, ∀ b, (exit, b) ∉ d.graph.flows := by
    intro exit hexit
    refine (hexits.isExit exit hexit).free.resolve_left fun hflow => hother ?_
    rwa [hb.sound.single_in hname ha hflow]
  have hsite : Site plan.relations.order (gatewayNode kind joinRole join) exits [] d.graph :=
    ⟨hb.sound, hfresh, reroutable_sinks hexits.nodup fun exit hexit =>
      ⟨(hexits.isExit exit hexit).mem, (hexits.isExit exit hexit).ne_end,
        fun _ => hfree exit hexit⟩⟩
  refine yields_bind.mpr ((yields_moveAll_into hsite (feeds_orReport join) h₁
    (List.nil_subset _) hjoin).mono fun _ d₂ h₂ => yields_bind.mpr ?_)
  have hdone : Reroutes plan.relations.order (gatewayNode kind joinRole join) exits [] d d₂ := by
    refine h₂.reroutes fun s t hst => ?_
    simp only [List.mem_map, Prod.mk.injEq, List.not_mem_nil, and_false, iff_false]
    rintro ⟨s', hs', rfl, rfl⟩
    exact hfree s' hs' _ hst
  obtain ⟨hb₂, hprogress⟩ := hb.reroute hdone hfresh
    (fun exit hexit => ⟨(hexits.isExit exit hexit).processed, (hexits.isExit exit hexit).fed⟩)
    (fun _ ht => absurd ht List.not_mem_nil) fun _ => hne
  have hstill : ∀ u, (u, point) ∈ d₂.graph.flows ↔ (u, point) ∈ d.graph.flows := fun u =>
    hdone.rerouted.detour.mem_iff_of_notMem_targets List.not_mem_nil hjoin
  refine yields_connect h₂.unfrozen (fun hthere => ?_) (fun hadd => ?_) fun _ _ => ?_
  · exact absurd ((h₂.midway.target_mem_iff hb.sound hfresh).mp hthere) List.not_mem_nil
  · exact absurd ((hstill a).mpr ha) ((h₂.midway.sound.canAddFlow_iff.mp hadd).2.2.2.2.2.1 hname a)
  · have hname' : join ∉ plan.relations.order := fun hmem => hfresh (hb.target_mem_ids hmem)
    have hend : join ≠ endEventId := fun heq => hfresh (heq ▸ hb.sound.known _ (by simp))
    -- the join is entered from the exits, so the flow out of it may be kept
    obtain ⟨exit, hexit⟩ := List.exists_mem_of_ne_nil exits hne
    have hfed : d₂.graph.Fed plan.relations.order join :=
      .inr (.inr ⟨exit, hdone.rerouted.detour.source_mem hexit⟩)
    have hkept := hb₂.keepPending (hdone.rerouted.mem_ids.mpr (.inr rfl)) hend hjoin.symm hname
      (fun hfirst => hpoint.2 (.inr ⟨hfirst, List.not_mem_nil⟩)) (.inl hdone.hasJoin) hfed
      fun h => absurd h hname'
    have honly : ∀ u, (u, point) ∈ d.graph.flows ↔ u = a := fun u =>
      ⟨fun hu => hb.sound.single_in hname hu ha, fun heq => heq ▸ ha⟩
    refine ⟨hkept, hprogress.trans ?_, hfresh, hdone.hasJoin, hne, fun u => ?_, .inr ⟨a, ?_, ?_, ?_, ?_⟩⟩
    · exact progress_of_graph_eq rfl (List.Subset.refl _) (List.subset_append_left _ _)
        (List.Subset.refl _)
    · exact hdone.mem_into_node hb.sound hfresh List.not_mem_nil
    · exact fun hscope => hother (hexits.feeders a hscope ha)
    · exact incoming_eq_singleton hb.sound.flows_nodup honly
    · exact incoming_eq_singleton hdone.sound.flows_nodup fun u => (hstill u).trans (honly u)
    · exact List.mem_append_right _ (.head _)

end

/-- The exits are led to the point through a join. -/
theorem yields_joinExits {exits : List String} {kind : GatewayKind} {join : String}
    (hfresh : join ∉ d.graph.ids) (hpoint : point ∈ d.processed ∧ point ∉ Spared plan.relations A [])
    (hne : exits ≠ []) (hexits : AreExits plan.relations d branches point exits) :
    Yields (joinExits kind point join exits) d fun _ d' =>
      Building plan.relations A d' ∧ Progress (Spared plan.relations A []) d d' ∧
        Joins d.graph d'.graph branches point join exits d'.pending := by
  refine yields_bind.mpr ((yields_addGateway_halfway hb.sound hfresh (.inr rfl)).mono
    fun _ d₁ h₁ => ?_)
  by_cases hfed : ∀ a, (a, point) ∈ d.graph.flows → a ∈ exits
  · exact yields_redirect_fed hb hfresh hpoint hne hexits h₁ hfed
  · obtain ⟨a, ha, hother⟩ : ∃ a, (a, point) ∈ d.graph.flows ∧ a ∉ exits := by
      simpa using hfed
    exact yields_redirect_refused hb hfresh hpoint hne hexits h₁ ha hother

theorem yields_joinAt {anchor place : String} {kind : GatewayKind}
    (hr : Acyclic plan.relations.edges) (hheads : HeadsDone A d branches)
    (hpoint : point ∈ d.processed ∧ point ∉ Spared plan.relations A []) :
    Yields (joinAt plan anchor branches kind place point) d fun _ d' =>
      Building plan.relations A d' ∧ Progress (Spared plan.relations A []) d d' := by
  simp only [joinAt]
  refine yields_bind.mpr (yields_graph.mpr (yields_bind.mpr (yields_gatewayId fun join hfresh => ?_)))
  refine yields_bind.mpr ((yields_collectExits hb hr hheads).mono fun exits d₁ h₁ => ?_)
  obtain ⟨hd₁, hreports, hexits⟩ := h₁
  -- the search for exits leaves reports only
  have hgraph : d₁.graph = d.graph := by rw [hd₁]
  have hprocessed : d₁.processed = d.processed := by rw [hd₁]
  have hpending : d₁.pending = d.pending := by rw [hd₁]
  have hlog : d₁.log = d.log := by rw [hd₁]
  have hb₁ : Building plan.relations A d₁ := hb.congr hgraph hprocessed hpending hreports hlog
  have hprogress : Progress (Spared plan.relations A []) d d₁ :=
    progress_of_graph_eq hgraph (hprocessed ▸ List.Subset.refl _) (hpending ▸ List.Subset.refl _)
      (hlog ▸ List.Subset.refl _)
  split
  · exact ⟨hb₁, hprogress⟩
  · rename_i hne
    have hexits₁ : AreExits plan.relations d₁ branches point exits := by
      refine ⟨hexits.nodup, fun exit hexit => ?_, hgraph ▸ hexits.feeders⟩
      obtain ⟨hmem, hend, hne, hleads, hdone, hfed, hfree⟩ := hexits.isExit exit hexit
      exact ⟨hgraph ▸ hmem, hend, hne, hgraph ▸ hleads, hprocessed ▸ hdone, hgraph ▸ hfed,
        hgraph ▸ hfree⟩
    refine yields_bind.mpr ((yields_joinExits hb₁ (hgraph ▸ hfresh) (hprocessed ▸ hpoint)
      (by simpa using hne) hexits₁).mono fun _ d₂ h₂ => ?_)
    obtain ⟨hb₂, hprogress₂, hjoins⟩ := h₂
    exact ⟨hb₂.record (hgraph ▸ hjoins), (hprogress.trans hprogress₂).trans (progress_record _)⟩

/-- The open ends of the branches are led into a join. -/
theorem yields_fallbackJoin {anchor place : String} {kind : GatewayKind}
    (hheads : HeadsDone A d branches) :
    Yields (fallbackJoin anchor branches kind place) d fun _ d' =>
      Building plan.relations A d' ∧ Progress (Spared plan.relations A []) d d' := by
  -- an open end was reached from a head, or is one, and nothing follows it
  have hsinks : ∀ s ∈ distinct (branches.flatMap d.graph.openEnds),
      s ∈ d.graph.ids ∧ s ≠ endEventId ∧ (∀ b, (s, b) ∉ d.graph.flows) ∧
        (s ∈ plan.relations.order → s ∈ d.processed) ∧
          d.graph.Fed plan.relations.order s := by
    intro s hs
    obtain ⟨branch, hbranch, hs⟩ := List.mem_flatMap.mp (mem_distinct.mp hs)
    obtain ⟨hmem, hend, hfree, hscope⟩ := mem_openEnds hb.sound hs
    rcases hscope with hhead | ⟨u, hu⟩
    · have hdone := (hheads s (List.mem_flatten.mpr ⟨branch, hbranch, hhead⟩)).1
      exact ⟨hmem, hend, hfree, fun _ => hdone, .inl (hb.processed_mem hdone)⟩
    · exact ⟨hmem, hend, hfree, hb.of_entered hu, .inr (.inr ⟨u, hu⟩)⟩
  simp only [fallbackJoin, yields_bind, yields_graph]
  refine yields_gatewayId fun join hfresh => ?_
  have hsite : Site plan.relations.order (gatewayNode kind joinRole join)
      (distinct (branches.flatMap d.graph.openEnds)) [] d.graph :=
    ⟨hb.sound, hfresh, reroutable_sinks (nodup_distinct _)
      fun s hs => ⟨(hsinks s hs).1, (hsinks s hs).2.1, fun _ => (hsinks s hs).2.2.1⟩⟩
  refine (yields_addGateway_halfway hb.sound hfresh (.inr rfl)).mono fun _ d₁ h₁ => ?_
  refine (yields_feedAll hsite (feeds_addFlow join) h₁ (List.nil_subset _)
    fun _ _ _ _ ht => absurd ht List.not_mem_nil).mono fun _ d' h' => ?_
  exact hb.reroute (h'.reroutes fun a b _ => by simp) hfresh (fun s hs => (hsinks s hs).2.2.2)
    (fun _ ht => absurd ht List.not_mem_nil) fun hne => absurd rfl hne

/-- Bringing branches together keeps the invariant. -/
theorem yields_converge {anchor place : String} {kind : GatewayKind}
    (hr : Acyclic plan.relations.edges) (hheads : HeadsDone A d branches) :
    Yields (converge plan anchor branches kind place) d fun _ d' =>
      Building plan.relations A d' ∧ Progress (Spared plan.relations A []) d d' := by
  unfold converge
  split
  · split
    · exact yields_fallbackJoin hb hheads
    · exact ⟨hb, .refl _ d⟩
  · rename_i point rest hpoint
    -- the meeting point lies behind a head of some branch, so it is done and does not start the process
    have hmeets : point ∈ plan.relations.meetingPoints branches := by
      rw [← RelationSets.mem_sortByOrder (r := plan.relations), hpoint]
      exact .head _
    obtain ⟨hne, hall⟩ := RelationSets.mem_common.mp hmeets
    obtain ⟨branch, hbranch⟩ := List.exists_mem_of_ne_nil branches (by simpa using hne)
    obtain ⟨head, hhead, hreach⟩ := List.mem_flatMap.mp
      (hall _ (List.mem_map.mpr ⟨branch, hbranch, rfl⟩))
    have hhead := List.mem_flatten.mpr ⟨branch, hbranch, hhead⟩
    obtain ⟨hdone, hopen⟩ := hheads.done hb hr
      (List.mem_append_right _ (List.mem_flatMap.mpr ⟨head, hhead, hreach⟩))
    refine yields_joinAt hb hr hheads ⟨hdone, ?_⟩
    rintro (hmem | ⟨hfirst, -⟩)
    · exact hopen hmem
    · obtain ⟨u, -, hu⟩ := ((RelationSets.mem_reachable_of_acyclic hr).mp hreach).exists_last
      exact (RelationSets.mem_startActivities.mp hfirst).2 u hu

end Drafting

end ActivityMatrix
