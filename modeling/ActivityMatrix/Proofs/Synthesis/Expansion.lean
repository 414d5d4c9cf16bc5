import ActivityMatrix.Synthesis.Expansion
import ActivityMatrix.Proofs.Gateway.Grouping
import ActivityMatrix.Proofs.Synthesis.Convergence

/-!
# The expansion builds everything that follows

Building what follows an open node keeps the invariant and places all targets
(`yields_buildAfter`), for every way to expand a target that does the same for what follows the
target. From this the expansion of an activity follows by induction on the fuel
(`yields_expandWithin`): each level of the recursion expands a target of a precedence that was not
expanded before, so the fuel is larger than the number of precedences whose target is still to be
expanded (`Suffices`).
-/

namespace ActivityMatrix.Drafting

open ProcessGraph ActivityMatrix.Digraph

variable {plan : SynthesisPlan} {r : RelationSets} {A : Set String} {d d' : Draft}
  {a s t anchor : String} {targets base : List String} {visit : String → Drafting Unit}

/-! ## Entering an activity -/

/-- An activity lies behind all open activities. -/
structure Behind (r : RelationSets) (A : Set String) (t : String) : Prop where
  mem : t ∈ r.order
  leads : ∀ v ∈ A, v ∈ r.order → Leads r.edges v t

theorem Behind.notMem (h : Behind r A t) (hr : Acyclic r.edges) : t ∉ A :=
  fun hopen => hr t (h.leads t hopen h.mem)

theorem Behind.notMem_spared (h : Behind r A t) (hr : Acyclic r.edges) : t ∉ Spared r A [t] := by
  rintro (hopen | ⟨-, hnew⟩)
  · exact h.notMem hr hopen
  · exact hnew (.head _)

/-- A split does not count among the open activities. -/
theorem Behind.insert (h : Behind r A t) (hs : s ∉ r.order) : Behind r (insert s A) t where
  mem := h.mem
  leads := by
    rintro v (rfl | hv) hname
    · exact absurd hname hs
    · exact h.leads v hv hname

/-- An activity can be expanded: it is done, or it can be opened and has nothing behind it. -/
structure Enterable (r : RelationSets) (A : Set String) (t : String) (d : Draft) : Prop where
  behind : Behind r A t
  state : t ∈ d.processed ∧ Building r A d ∨ t ∉ d.processed ∧
    Building r (insert t A) { d with processed := d.processed ++ [t] } ∧
    (∀ v, (t, v) ∉ d.graph.flows) ∧ ∀ y, (t, y) ∉ d.pending

theorem Building.enterable (hb : Building r A d) (ht : Behind r A t) : Enterable r A t d := by
  refine ⟨ht, ?_⟩
  by_cases hprocessed : t ∈ d.processed
  · exact .inl ⟨hprocessed, hb⟩
  · refine .inr ⟨hprocessed, hb.openActivity ht.mem hprocessed, fun v hflow => ?_, fun y hy => ?_⟩
    · exact hprocessed (hb.of_left hflow ht.mem)
    · exact hprocessed ((hb.pending_source hy).2.2.2 ht.mem)

/-- An activity was expanded while the nodes of `A` were open. -/
structure Expanded (r : RelationSets) (A : Set String) (d d' : Draft) (t : String) : Prop where
  building : Building r A d'
  progress : Progress (Spared r A []) d d'
  processed : t ∈ d'.processed

/-- A step expands an activity whenever it can be expanded, and the activities of `base` were. -/
def Visits (r : RelationSets) (base : List String) (visit : String → Drafting Unit)
    (t : String) : Prop :=
  ∀ A d, base ⊆ d.processed → Enterable r A t d →
    Yields (visit t) d fun _ d' => Expanded r A d d' t

/-- The targets are different from each other, and those that start the process are not entered yet. -/
structure Awaits (r : RelationSets) (d : Draft) (targets : List String) : Prop where
  nodup : targets.Nodup
  unentered : ∀ t ∈ targets, t ∈ r.startActivities → ∀ u, (u, t) ∉ d.graph.flows

/-- When some targets are done, the others are not entered yet. -/
theorem Awaits.progress {done rest : List String} (h : Awaits r d (done ++ rest))
    (hprogress : Progress (Spared r A done) d d') : Awaits r d' rest where
  nodup := h.nodup.of_append_right
  unentered t ht hfirst u hflow := by
    have hnew : t ∉ done := fun hdone => List.disjoint_of_nodup_append h.nodup hdone ht
    refine h.unentered t (List.mem_append_right _ ht) hfirst u ?_
    exact hprogress.fixed (.inl (.inr ⟨hfirst, hnew⟩)) hflow

theorem Awaits.of_subset {members : List String} (h : Awaits r d targets) (hnodup : members.Nodup)
    (hsub : members ⊆ targets) : Awaits r d members :=
  ⟨hnodup, fun t ht => h.unentered t (hsub ht)⟩

theorem Awaits.left {done rest : List String} (h : Awaits r d (done ++ rest)) : Awaits r d done :=
  h.of_subset h.nodup.of_append_left (List.subset_append_left _ _)

/-! ## Connecting an open node -/

/-- A flow from an open node to an activity that nothing enters is not refused. -/
theorem Building.canAddFlow (hb : Building r A d) (hs : s ∈ A) (ht : t ∈ r.order) (hopen : t ∉ A)
    (hfree : s ∈ r.order → ∀ b, (s, b) ∉ d.graph.flows) (hnone : ∀ a, (a, t) ∉ d.graph.flows) :
    d.graph.canAddFlow s t = true := by
  refine hb.sound.canAddFlow_iff.mpr ⟨(hb.open_mem hs).1, hb.target_mem_ids ht,
    fun heq => hopen (heq ▸ hs), hnone s, hfree, fun _ => hnone, fun hback => ?_⟩
  exact hopen (hb.mem_of_leads hback hs)

/-- An open node that stems from an activity is connected with an expanded activity, or the flow is
kept for later: in both cases the activity is placed. -/
theorem yields_connect_placed (hr : Acyclic r.edges) (hb : Building r A d) (ht : Behind r A t)
    (hprocessed : t ∈ d.processed) (hfollows : Follows r a t) (hs : s ∈ A)
    (hstems : d.graph.Stems a s) (hawait : Awaits r d [t])
    (hfree : s ∈ r.order → (∀ b, (s, b) ∉ d.graph.flows) ∧ ∀ y, (s, y) ∉ d.pending) :
    Yields (connect s t) d fun _ d' =>
      Building r A d' ∧ Progress (Spared r A [t]) d d' ∧ Placed d' a t := by
  have hopen := ht.notMem hr
  have hleads : ∀ {g : ProcessGraph}, g.Stems a s → g.Leads s t → g.Leads a t := by
    intro g hstems hst
    exact leads_or_eq_trans hstems.leads hst
  refine yields_connect hb.sound.unfrozen (fun hflow => ?_) (fun hadd => ?_) fun _ hrefused => ?_
  · exact ⟨hb, .refl _ d, hprocessed, ⟨s, hflow⟩, .inl (hleads hstems (.single hflow))⟩
  · have hprogress := progress_insertFlow (s := s) hb.sound ht.mem (ht.notMem_spared hr)
    have hflow : (s, t) ∈ (d.graph.insertFlow s t).flows := mem_flows_insertFlow.mpr (.inr ⟨rfl, rfl⟩)
    have hfirst : t ∈ r.startActivities → d.graph.Stems startEventId s :=
      fun hmem => hfollows.eq_start hmem ▸ hstems
    exact ⟨hb.insertFlow hadd hs hprocessed hfirst hprogress, hprogress, hprocessed, ⟨s, hflow⟩,
      .inl (hleads (hprogress.stems hstems) (.single hflow))⟩
  · -- were nothing to enter the target, the flow would not have been refused
    have hentered : ∃ u, (u, t) ∈ d.graph.flows := by
      by_contra hnone
      have hadd := hb.canAddFlow hs ht.mem hopen (fun hname => (hfree hname).1)
        fun u hu => hnone ⟨u, hu⟩
      exact absurd (hadd.symm.trans hrefused) (by decide)
    obtain ⟨u, hu⟩ := hentered
    have hlater : t ∉ r.startActivities := fun hfirst => hawait.unentered t (.head _) hfirst u hu
    -- so the flow waits for its merge
    refine ⟨hb.keepPending (hb.open_mem hs).1 (hb.open_mem hs).2 (fun heq => hopen (heq ▸ hs))
      ht.mem hlater (.inr ⟨a, hstems, hfollows⟩) (hb.open_fed hs)
      fun hname => ⟨hb.open_processed hs hname, (hfree hname).2⟩, ?_, hprocessed, ⟨u, hu⟩,
      .inr ⟨s, hstems, List.mem_append_right _ (.head _)⟩⟩
    exact progress_of_graph_eq rfl (List.Subset.refl _) (List.subset_append_left _ _)
      (List.Subset.refl _)

/-- A node is connected with a target before the target is expanded. -/
theorem yields_connect_visit (hr : Acyclic r.edges) (hvisit : Visits r base visit t)
    (hbase : base ⊆ d.processed) (hb : Building r A d) (ht : Behind r A t)
    (hfollows : Follows r a t) (ha : a ∈ A) (hawait : Awaits r d [t])
    (hfree : a ∈ r.order → (∀ b, (a, b) ∉ d.graph.flows) ∧ ∀ y, (a, y) ∉ d.pending) :
    Yields (do let _ ← connect a t; visit t) d fun _ d' =>
      Building r A d' ∧ Progress (Spared r A [t]) d d' ∧ Placed d' a t := by
  have hopen := ht.notMem hr
  by_cases hprocessed : t ∈ d.processed
  · refine yields_bind.mpr ((yields_connect_placed hr hb ht hprocessed hfollows ha .self hawait
      hfree).mono fun _ d₁ h₁ => ?_)
    obtain ⟨hb₁, hprogress₁, hplaced⟩ := h₁
    have hbase₁ := List.Subset.trans hbase hprogress₁.processed
    refine (hvisit A d₁ hbase₁ (hb₁.enterable ht)).mono fun _ d' h' => ?_
    exact ⟨h'.building, hprogress₁.trans (h'.progress.spares subset_rfl (List.nil_subset _)),
      hplaced.progress h'.progress⟩
  · -- nothing enters the target, so the flow is added
    have hnone : ∀ u, (u, t) ∉ d.graph.flows := fun u hu => hprocessed (hb.of_entered hu ht.mem)
    have hadd := hb.canAddFlow ha ht.mem hopen (fun hname => (hfree hname).1) hnone
    refine yields_bind.mpr (yields_connect hb.sound.unfrozen (fun hflow => ?_) (fun _ => ?_)
      fun _ hrefused => absurd (hadd.symm.trans hrefused) (by decide))
    · exact absurd hflow (hnone a)
    · have hprogress := progress_insertFlow (s := a) hb.sound ht.mem (ht.notMem_spared hr)
      have hfirst : t ∈ r.startActivities → d.graph.Stems startEventId a :=
        fun hmem => hfollows.eq_start hmem ▸ .self
      have hflow : (a, t) ∈ (d.graph.insertFlow a t).flows :=
        mem_flows_insertFlow.mpr (.inr ⟨rfl, rfl⟩)
      have henter : Enterable r A t { d with graph := d.graph.insertFlow a t } := by
        refine ⟨ht, .inr ⟨hprocessed, ?_, fun v hv => ?_, fun y hy => ?_⟩⟩
        · refine (hb.openActivity ht.mem hprocessed).insertFlow (B := ∅) hadd (.inr ha)
            (List.mem_append_right _ (.head _)) hfirst ?_
          exact progress_insertFlow hb.sound ht.mem (Set.notMem_empty t)
        · rcases mem_flows_insertFlow.mp hv with hv | ⟨heq, -⟩
          · exact hprocessed (hb.of_left hv ht.mem)
          · exact hopen (heq ▸ ha)
        · exact hprocessed ((hb.pending_source hy).2.2.2 ht.mem)
      refine (hvisit A { d with graph := d.graph.insertFlow a t } hbase henter).mono
        fun _ d' h' => ?_
      obtain ⟨hb', hprogress', hdone⟩ := h'
      exact ⟨hb', hprogress.trans (hprogress'.spares subset_rfl (List.nil_subset _)), hdone,
        hprogress'.entered ⟨a, hflow⟩, .inl (hprogress'.leads (.single hflow))⟩

/-! ## Filling a split -/

/-- Every target is expanded and then connected with a split. -/
theorem yields_fill (targets : List String) (hr : Acyclic r.edges)
    (hvisit : ∀ t ∈ targets, Visits r base visit t)
    (hbase : base ⊆ d.processed) (hb : Building r A d) (hbehind : ∀ t ∈ targets, Behind r A t)
    (hfollows : ∀ t ∈ targets, Follows r a t) (hs : s ∈ A) (hname : s ∉ r.order)
    (hstems : d.graph.Stems a s) (hawait : Awaits r d targets) :
    Yields (targets.forM fun target => do visit target; let _ ← connect s target) d fun _ d' =>
      Building r A d' ∧ Progress (Spared r A targets) d d' ∧ ∀ t ∈ targets, Placed d' a t := by
  refine yields_forM (fun done d' =>
    Building r A d' ∧ Progress (Spared r A done) d d' ∧ ∀ t ∈ done, Placed d' a t)
    ⟨hb, .refl _ d, by simp⟩ ?_
  -- the targets before are placed, and what places the next one spares those after it
  rintro done target rest d₁ hsplit ⟨hb₁, hprogress₁, hplaced⟩
  have htarget : target ∈ targets := by simp [hsplit]
  have hbehind := hbehind target htarget
  have hbase₁ := List.Subset.trans hbase hprogress₁.processed
  refine yields_bind.mpr ((hvisit target htarget A d₁ hbase₁ (hb₁.enterable hbehind)).mono
    fun _ d₂ h₂ => ?_)
  obtain ⟨hb₂, hprogress₂, hprocessed⟩ := h₂
  have hstems₂ := hprogress₂.stems (hprogress₁.stems hstems)
  have hawait₁ : Awaits r d₁ ([target] ++ rest) := Awaits.progress (hsplit ▸ hawait) hprogress₁
  have hawait₂ : Awaits r d₂ [target] := hawait₁.left.progress hprogress₂
  refine yields_bind.mpr ((yields_connect_placed hr hb₂ hbehind hprocessed
    (hfollows target htarget) hs hstems₂ hawait₂ fun h => absurd h hname).mono fun _ d' h' => ?_)
  obtain ⟨hb', hprogress', hplaced'⟩ := h'
  refine ⟨hb', ?_, fun t ht => ?_⟩
  · exact (hprogress₁.spares subset_rfl (List.subset_append_left _ _)).trans
      ((hprogress₂.spares subset_rfl (List.nil_subset _)).trans
        (hprogress'.spares subset_rfl (List.subset_append_right _ _)))
  · rcases List.mem_append.mp ht with ht | ht
    · exact ((hplaced t ht).progress hprogress₂).progress hprogress'
    · exact List.mem_singleton.mp ht ▸ hplaced'

/-- A split is opened behind an open node that has no flow out if it is an activity. -/
theorem yields_openSplit {kind : GatewayKind} {split : String} (hb : Building r A d) (hs : s ∈ A)
    (hfresh : split ∉ d.graph.ids) (hstems : d.graph.Stems a s)
    (hfree : s ∈ r.order → ∀ b, (s, b) ∉ d.graph.flows) :
    Yields (openSplit s kind split) d fun opened d' => opened = true ∧
      Building r (insert split A) d' ∧ Progress (Spared r A []) d d' ∧ d'.graph.Stems a split := by
  obtain ⟨hmem, hend⟩ := hb.open_mem hs
  have hsite : Site r.order (gatewayNode kind splitRole split) [s] [] d.graph := by
    refine ⟨hb.sound, hfresh, reroutable_sinks (List.nodup_singleton s) fun u hu => ?_⟩
    obtain rfl := List.mem_singleton.mp hu
    exact ⟨hmem, hend, hfree⟩
  simp only [openSplit, yields_bind]
  refine yields_node hb.sound hmem fun origin horigin hid => ?_
  -- the source is no task, or it is a task that nothing follows yet
  have hclear : ¬ (origin.isTask && !(d.graph.outgoing s).isEmpty) = true := by
    intro hblocked
    obtain ⟨htask, hout⟩ := Bool.and_eq_true_iff.mp hblocked
    have hname := (hb.sound.fits origin horigin).isTask_iff.mp htask
    rw [outgoing_eq_nil.mpr (hfree (hid ▸ hname))] at hout
    exact absurd hout (by decide)
  simp only [yields_graph, if_neg hclear, yields_bind, yields_pure]
  refine (yields_addGateway_halfway hb.sound hfresh (.inl rfl)).mono fun _ d₁ h₁ => ?_
  obtain ⟨hadd, h₂⟩ := h₁.feed hsite (.head _) List.not_mem_nil (List.nil_subset _)
    fun _ t ht => absurd ht List.not_mem_nil
  refine yields_addFlow_of_canAddFlow h₁.unfrozen hadd ⟨trivial, ?_⟩
  have hdone : Reroutes r.order (gatewayNode kind splitRole split) [s] [] d _ :=
    h₂.reroutes fun a b _ => by simp
  have hsources : ∀ u ∈ [s], (u ∈ r.order → u ∈ d.processed) ∧ d.graph.Fed r.order u := by
    intro u hu
    obtain rfl := List.mem_singleton.mp hu
    exact ⟨hb.open_processed hs, hb.open_fed hs⟩
  -- adding the split is leading flows through it, with no targets so far
  obtain ⟨hb', hprogress⟩ := hb.reroute hdone hfresh hsources
    (fun _ ht => absurd ht List.not_mem_nil) fun hne => absurd rfl hne
  have hmem' : gatewayNode kind splitRole split ∈ _ := hdone.rerouted.nodes ▸
    List.mem_append_right d.graph.nodes (List.mem_singleton_self _)
  have hentered : ∀ u, (u, split) ∈ _ ↔ u ∈ [s] := fun u =>
    h₂.midway.source_mem_iff hb.sound hfresh
  refine ⟨hb'.openNode (hdone.rerouted.mem_ids.mpr (.inr rfl))
    (fun heq => hfresh (heq ▸ hb.sound.known _ (by simp)))
    (fun hname => hfresh (hb.target_mem_ids hname)) (fun u hu => ?_)
    (.inr (.inr ⟨s, (hentered s).mpr (.head _)⟩)), hprogress, ?_⟩
  · exact List.mem_singleton.mp ((hentered u).mp hu) ▸ hs
  · refine .split ⟨_, hmem', rfl, rfl⟩ ((hentered s).mpr (.head _)) (fun u hu => ?_)
      (hprogress.stems hstems)
    exact List.mem_singleton.mp ((hentered u).mp hu)

/-- An entry in the log leaves what is known of an opened split. -/
theorem yields_recordOpened {B C : Set String}
    (h : Building r B d' ∧ Progress C d d' ∧ d'.graph.Stems a s) (step : SynthesisStep)
    (hstep : ∀ g, Expands g step) :
    Yields (record step) d' fun _ d'' => Building r B d'' ∧ Progress C d d'' ∧ d''.graph.Stems a s :=
  ⟨h.1.record (hstep _), h.2.1.trans (progress_record step), h.2.2⟩

/-- A split is closed again. -/
theorem Building.closeSplit {split : String} (hb : Building r A d)
    (hb' : Building r (insert split A) d') (hprogress : Progress A d d') (hsplit : split ∉ r.order) :
    Building r A d' := by
  refine hb'.close (Set.subset_insert split A) (fun hflow hv => ?_) fun hx hmem hclosed _ => ?_
  · exact hb.sealed (hprogress.fixed (.inl hv) hflow) hv
  · rcases hmem with rfl | hmem
    · exact absurd (hb'.processed_mem hx) hsplit
    · exact absurd hmem hclosed

/-- The branches behind a split are brought together while the split is open, and the split is
closed. -/
theorem yields_converge_closeSplit {branches : List (List String)} {kind : GatewayKind}
    {split place : String} (hr : Acyclic plan.relations.edges) (hb : Building plan.relations A d)
    (hsplit : split ∉ plan.relations.order)
    (hprogress : Progress (Spared plan.relations A branches.flatten) d d')
    (hb' : Building plan.relations (insert split A) d')
    (hplaced : ∀ t ∈ branches.flatten, Placed d' a t)
    (hbehind : ∀ t ∈ branches.flatten, Behind plan.relations (insert split A) t) :
    Yields (converge plan anchor branches kind place) d' fun _ d'' =>
      Building plan.relations A d'' ∧ Progress (Spared plan.relations A branches.flatten) d d'' ∧
        ∀ t ∈ branches.flatten, Placed d'' a t := by
  have hheads : HeadsDone (insert split A) d' branches :=
    fun t ht => ⟨(hplaced t ht).processed, (hbehind t ht).notMem hr⟩
  refine (yields_converge hb' hr hheads).mono fun _ d'' h'' => ?_
  obtain ⟨hb'', hprogress'⟩ := h''
  have hall := hprogress.trans (hprogress'.spares (Set.subset_insert split A) (List.nil_subset _))
  exact ⟨hb.closeSplit hb'' hall.of_spared hsplit, hall,
    fun t ht => (hplaced t ht).progress hprogress'⟩

/-- What places its targets behind an open split does so between a split that is opened and the
convergence of its branches, after which the split is closed. -/
theorem yields_insideSplit {branches : List (List String)} {kind : GatewayKind} {split place : String}
    {step : SynthesisStep} {body : Drafting Unit} (hr : Acyclic plan.relations.edges)
    (hb : Building plan.relations A d) (hs : s ∈ A) (hfresh : split ∉ d.graph.ids)
    (hstems : d.graph.Stems a s) (hfree : s ∈ plan.relations.order → ∀ b, (s, b) ∉ d.graph.flows)
    (hstep : ∀ g, Expands g step)
    (hbehind : ∀ t ∈ branches.flatten, Behind plan.relations A t)
    (hawait : Awaits plan.relations d branches.flatten)
    (hbody : ∀ d₁, split ∉ plan.relations.order → Building plan.relations (insert split A) d₁ →
      d.processed ⊆ d₁.processed → d₁.graph.Stems a split →
      Awaits plan.relations d₁ branches.flatten →
      Yields body d₁ fun _ d₂ => Building plan.relations (insert split A) d₂ ∧
        Progress (Spared plan.relations (insert split A) branches.flatten) d₁ d₂ ∧
        ∀ t ∈ branches.flatten, Placed d₂ a t) :
    Yields (do
      if ← openSplit s kind split then
        record step
        body
        converge plan anchor branches kind place) d fun _ d' =>
      Building plan.relations A d' ∧ Progress (Spared plan.relations A branches.flatten) d d' ∧
        ∀ t ∈ branches.flatten, Placed d' a t := by
  have hname : split ∉ plan.relations.order := fun h => hfresh (hb.target_mem_ids h)
  refine yields_bind.mpr ((yields_openSplit hb hs hfresh hstems hfree).mono fun opened d₁ h₁ => ?_)
  obtain ⟨rfl, hopened⟩ := h₁
  rw [if_pos rfl]
  refine yields_bind.mpr ((yields_recordOpened hopened step hstep).mono fun _ d₁ h₁ => ?_)
  obtain ⟨hb₁, hprogress₁, hstems₁⟩ := h₁
  refine yields_bind.mpr ((hbody d₁ hname hb₁ hprogress₁.processed hstems₁
    (hawait.progress hprogress₁)).mono fun _ d₂ h₂ => ?_)
  obtain ⟨hb₂, hprogress₂, hplaced⟩ := h₂
  have hprogress := (hprogress₁.spares subset_rfl (List.nil_subset _)).trans
    (hprogress₂.spares (Set.subset_insert split A) (List.Subset.refl _))
  -- what the branches changed counts from the draft before the split
  exact yields_converge_closeSplit hr hb hname hprogress hb₂ hplaced
    fun t ht => (hbehind t ht).insert hname

/-! ## Building what follows -/

theorem flatten_singletons (targets : List String) : (targets.map ([·])).flatten = targets := by
  simp [← List.flatMap_def]

/-- No group is empty, so each has a first target. -/
theorem yields_firstTargets {groups : List GatewayGroup} (h : ∀ group ∈ groups, group.targets ≠ []) :
    Yields (groups.mapM firstTarget) d fun _ d' => d' = d := by
  induction groups with
  | nil => rfl
  | cons group rest ih =>
      rw [List.mapM_cons, yields_bind]
      have hfirst : Yields (firstTarget group) d fun _ d' => d' = d := by
        obtain ⟨target, others, htargets⟩ := List.exists_cons_of_ne_nil (h group (.head _))
        simp only [firstTarget, htargets]
        rfl
      refine hfirst.mono fun _ d₁ h₁ => ?_
      subst h₁
      refine yields_bind.mpr ((ih fun g hg => h g (.tail _ hg)).mono fun _ d' h' => ?_)
      exact h'

section

variable (hr : Acyclic plan.relations.edges)
  (hvisit : ∀ t ∈ targets, Visits plan.relations base visit t)
  (hbehind : ∀ t ∈ targets, Behind plan.relations A t)
  (hfollows : ∀ t ∈ targets, Follows plan.relations anchor t)
  (hb : Building plan.relations A d) (hbase : base ⊆ d.processed)
include hr hvisit hbehind hfollows hb hbase

/-- A split behind a node that stems from the anchor, its branches, and their convergence. -/
theorem yields_splitJoin (branches : List (List String)) (kind : GatewayKind)
    (hbranches : branches.flatten ⊆ targets) (hs : s ∈ A) (hstems : d.graph.Stems anchor s)
    (hawait : Awaits plan.relations d branches.flatten)
    (hfree : s ∈ plan.relations.order → ∀ b, (s, b) ∉ d.graph.flows) :
    Yields (splitJoin plan visit s anchor branches kind) d fun _ d' =>
      Building plan.relations A d' ∧ Progress (Spared plan.relations A branches.flatten) d d' ∧
        ∀ t ∈ branches.flatten, Placed d' anchor t := by
  simp only [splitJoin]
  refine yields_bind.mpr (yields_gatewayId fun split hfresh => ?_)
  refine yields_insideSplit hr hb hs hfresh hstems hfree (fun _ => trivial)
    (fun t ht => hbehind t (hbranches ht)) hawait fun d₁ hname hb₁ hprocessed hstems₁ hawait₁ => ?_
  exact yields_fill branches.flatten hr (fun t ht => hvisit t (hbranches ht))
    (List.Subset.trans hbase hprocessed) hb₁ (fun t ht => (hbehind t (hbranches ht)).insert hname)
    (fun t ht => hfollows t (hbranches ht)) (Set.mem_insert split A) hname hstems₁ hawait₁

/-- A group behind the split over all groups. -/
theorem yields_splitGroup {outer : String} {group : GatewayGroup}
    (hgroup : group.targets ⊆ targets) (houter : outer ∈ A) (hname : outer ∉ plan.relations.order)
    (hstems : d.graph.Stems anchor outer) (hawait : Awaits plan.relations d group.targets) :
    Yields (splitGroup plan visit outer anchor group) d fun _ d' =>
      Building plan.relations A d' ∧ Progress (Spared plan.relations A group.targets) d d' ∧
        ∀ t ∈ group.targets, Placed d' anchor t := by
  unfold splitGroup
  split
  · rename_i target htarget
    have hfill := yields_fill [target] hr
      (fun t ht => hvisit t (hgroup (htarget ▸ ht))) hbase hb
      (fun t ht => hbehind t (hgroup (htarget ▸ ht))) (fun t ht => hfollows t (hgroup (htarget ▸ ht)))
      houter hname hstems (htarget ▸ hawait)
    simpa only [htarget, List.forM, yields_bind, yields_pure] using hfill
  · have hjoin := yields_splitJoin hr hvisit hbehind hfollows hb hbase (group.targets.map ([·])) group.kind
      ((flatten_singletons group.targets).symm ▸ hgroup) houter hstems
      ((flatten_singletons group.targets).symm ▸ hawait) fun h => absurd h hname
    simpa only [flatten_singletons] using hjoin

/-- All groups, one after the other, behind the split over them. -/
theorem yields_splitGroups {outer : String} {groups : List GatewayGroup}
    (hgroups : ∀ group ∈ groups, group.targets ⊆ targets) (houter : outer ∈ A)
    (hname : outer ∉ plan.relations.order) (hstems : d.graph.Stems anchor outer)
    (hawait : Awaits plan.relations d (groups.map GatewayGroup.targets).flatten) :
    Yields (groups.forM (splitGroup plan visit outer anchor)) d fun _ d' =>
      Building plan.relations A d' ∧
        Progress (Spared plan.relations A (groups.map GatewayGroup.targets).flatten) d d' ∧
        ∀ group ∈ groups, ∀ t ∈ group.targets, Placed d' anchor t := by
  refine yields_forM (fun (done : List GatewayGroup) d' => Building plan.relations A d' ∧
    Progress (Spared plan.relations A (done.map GatewayGroup.targets).flatten) d d' ∧
    ∀ group ∈ done, ∀ t ∈ group.targets, Placed d' anchor t) ⟨hb, .refl _ d, by simp⟩ ?_
  rintro done group rest d₁ hsplit ⟨hb₁, hprogress₁, hplaced⟩
  have hawait₁ : Awaits plan.relations d₁
      (group.targets ++ (rest.map GatewayGroup.targets).flatten) := by
    refine Awaits.progress ?_ hprogress₁
    simpa [hsplit] using hawait
  have hbase₁ := List.Subset.trans hbase hprogress₁.processed
  refine (yields_splitGroup hr hvisit hbehind hfollows hb₁ hbase₁ (hgroups group (by simp [hsplit]))
    houter hname (hprogress₁.stems hstems) hawait₁.left).mono fun _ d' h' => ?_
  obtain ⟨hb', hprogress', hplaced'⟩ := h'
  refine ⟨hb', ?_, fun other hother t ht => ?_⟩
  · rw [List.map_append, List.flatten_append, List.map_singleton, List.flatten_singleton]
    exact (hprogress₁.spares subset_rfl (List.subset_append_left _ _)).trans
      (hprogress'.spares subset_rfl (List.subset_append_right _ _))
  · rcases List.mem_append.mp hother with hother | hother
    · exact (hplaced other hother t ht).progress hprogress'
    · exact hplaced' t (List.mem_singleton.mp hother ▸ ht)

/-- Groups of targets behind a node. -/
theorem yields_split {groups : List GatewayGroup} (hcover : Grouping.Covers groups targets)
    (hapart : (groups.map GatewayGroup.targets).flatten.Nodup) (ha : anchor ∈ A)
    (hawait : Awaits plan.relations d targets)
    (hfree : anchor ∈ plan.relations.order →
      (∀ b, (anchor, b) ∉ d.graph.flows) ∧ ∀ y, (anchor, y) ∉ d.pending) :
    Yields (split plan visit anchor groups) d fun _ d' =>
      Building plan.relations A d' ∧ Progress (Spared plan.relations A targets) d d' ∧
        ∀ t ∈ targets, Placed d' anchor t := by
  have hflatten : ∀ t, t ∈ (groups.map GatewayGroup.targets).flatten ↔ t ∈ targets := by
    intro t
    rw [← hcover.1 t]
    simp
  have hsub : (groups.map GatewayGroup.targets).flatten ⊆ targets := fun t => (hflatten t).mp
  have hawaits := hawait.of_subset hapart hsub
  unfold split
  split
  -- a single target, a single group, or several groups
  · rename_i kind target
    have hmem : ∀ t, t ∈ targets ↔ t = target := fun t => by simp [← hcover.1 t]
    have htarget := (hmem target).mpr rfl
    refine (yields_connect_visit hr (hvisit target htarget) hbase hb (hbehind target htarget)
      (hfollows target htarget) ha (by simpa using hawaits) hfree).mono fun _ d' h' => ?_
    exact ⟨h'.1, h'.2.1.spares subset_rfl (by simpa using htarget),
      fun t ht => (hmem t).mp ht ▸ h'.2.2⟩
  · rename_i kind members _
    have hmem : ∀ t, t ∈ targets ↔ t ∈ members := fun t => by simp [← hcover.1 t]
    have hjoin := yields_splitJoin hr hvisit hbehind hfollows hb hbase (members.map ([·])) kind
      (fun t ht => (hmem t).mpr (flatten_singletons members ▸ ht)) ha .self
      (by simpa [flatten_singletons] using hawaits) fun hname => (hfree hname).1
    rw [flatten_singletons] at hjoin
    exact hjoin.mono fun _ d' h' => ⟨h'.1, h'.2.1.spares subset_rfl fun t ht => (hmem t).mpr ht,
      fun t ht => h'.2.2 t ((hmem t).mp ht)⟩
  · have hgroups : ∀ group ∈ groups, group.targets ⊆ targets :=
      fun group hmem t ht => (hcover.1 t).mp ⟨group, hmem, ht⟩
    refine yields_bind.mpr ((yields_firstTargets hcover.2).mono fun firsts d₀ h₀ => ?_)
    subst h₀
    refine yields_bind.mpr (yields_gatewayId fun outer hfresh => ?_)
    refine (yields_insideSplit hr hb ha hfresh .self (fun h => (hfree h).1) ?_
      (fun t ht => hbehind t (hsub ht)) hawaits ?_).mono fun _ d' h' => ?_
    · exact fun _ => trivial
    · intro d₁ hname hb₁ hprocessed hstems₁ hawaits₁
      refine (yields_splitGroups hr hvisit (fun t ht => (hbehind t ht).insert hname) hfollows hb₁
        (List.Subset.trans hbase hprocessed) hgroups (Set.mem_insert outer A) hname hstems₁
        hawaits₁).mono fun _ d₂ h₂ => ⟨h₂.1, h₂.2.1, fun t ht => ?_⟩
      obtain ⟨group, hmem, ht⟩ := (hcover.1 t).mpr ((hflatten t).mp ht)
      exact h₂.2.2 group hmem t ht
    · exact ⟨h'.1, h'.2.1.spares subset_rfl hsub, fun t ht => h'.2.2 t ((hflatten t).mpr ht)⟩

/-- What follows a node is built, whatever the strategy. -/
theorem yields_buildAfter {strategy : GroupingStrategy} (ha : anchor ∈ A)
    (hawait : Awaits plan.relations d targets)
    (hfree : anchor ∈ plan.relations.order →
      (∀ b, (anchor, b) ∉ d.graph.flows) ∧ ∀ y, (anchor, y) ∉ d.pending) :
    Yields (buildAfter plan visit strategy anchor targets) d fun _ d' =>
      Building plan.relations A d' ∧ Progress (Spared plan.relations A targets) d d' ∧
        ∀ t ∈ targets, Placed d' anchor t := by
  unfold buildAfter
  split
  · exact ⟨hb, .refl _ d, fun t ht => absurd ht List.not_mem_nil⟩
  · rename_i target
    refine (yields_connect_visit hr (hvisit target (.head _)) hbase hb (hbehind target (.head _))
      (hfollows target (.head _)) ha hawait hfree).mono fun _ d' h' => ?_
    exact ⟨h'.1, h'.2.1, fun t ht => List.mem_singleton.mp ht ▸ h'.2.2⟩
  · rename_i hne _
    exact yields_split hr hvisit hbehind hfollows hb hbase (strategy.covers_group _ _ hne)
      (strategy.nodup_group _ _ hawait.nodup) ha hawait hfree

end

/-! ## Expanding an activity -/

/-- How many precedences there are whose target is not expanded. -/
def waiting (r : RelationSets) (processed : List String) : Nat :=
  r.edges.countP fun edge => edge.2 ∉ processed

theorem waiting_le (processed : List String) : waiting r processed ≤ r.edges.length :=
  List.countP_le_length

theorem waiting_mono {processed more : List String} (h : processed ⊆ more) :
    waiting r more ≤ waiting r processed := by
  refine List.countP_mono_left fun edge _ hmore => ?_
  simp only [decide_eq_true_eq] at hmore ⊢
  exact fun hmem => hmore (h hmem)

/-- Expanding the target of a precedence leaves fewer of them. -/
theorem waiting_append_lt {processed : List String} (hat : (a, t) ∈ r.edges) (ht : t ∉ processed) :
    waiting r (processed ++ [t]) < waiting r processed := by
  refine countP_lt hat (fun edge _ hedge => ?_) (by simpa using ht) (by simp)
  simp only [List.mem_append, List.mem_singleton, not_or, decide_eq_true_eq] at hedge ⊢
  exact hedge.1

/-- The fuel suffices to expand an activity: that is done, or more fuel is left than precedences are
waiting after it. -/
def Suffices (r : RelationSets) (processed : List String) (t : String) (fuel : Nat) : Prop :=
  t ∈ processed ∧ 0 < fuel ∨ waiting r (processed ++ [t]) + 1 < fuel

theorem Suffices.pos {processed : List String} {fuel : Nat} (h : Suffices r processed t fuel) : 0 < fuel := by
  unfold Suffices at h
  omega

theorem suffices_of_le {processed : List String} {fuel : Nat} (h : r.edges.length + 2 ≤ fuel) :
    Suffices r processed t fuel := by
  have hwaiting := waiting_le (r := r) (processed ++ [t])
  exact .inr (by omega)

/-- Then one less suffices for a direct successor, however many activities were expanded since. -/
theorem Suffices.next {processed since : List String} {fuel : Nat} (h : Suffices r processed t (fuel + 1))
    (ht : t ∉ processed) (hsince : processed ++ [t] ⊆ since) (hts : r.Direct t s) :
    Suffices r since s fuel := by
  have hwaiting : waiting r (processed ++ [t]) < fuel := by
    rcases h with ⟨hdone, -⟩ | hfuel
    · exact absurd hdone ht
    · omega
  by_cases hdone : s ∈ since
  · exact .inl ⟨hdone, by omega⟩
  · have hless := waiting_append_lt hts.mem_edges hdone
    have hmono := waiting_mono (r := r) hsince
    exact .inr (by omega)

/-- What follows an activity directly lies behind it. -/
theorem behind_of_direct (hr : r.Drawable) (ht : Behind r A t) (hty : r.Direct t s) :
    Behind r (insert t A) s := by
  have hedge := hty.mem_edges
  refine ⟨hr.target_mem hedge, ?_⟩
  rintro v (rfl | hv) hname
  · exact .single hedge
  · exact (ht.leads v hv hname).tail hedge

/-- Direct successors are different from each other, and none of them starts the process. -/
theorem awaits_directSuccessors (a : String) :
    Awaits r d (r.directSuccessors a) where
  nodup := RelationSets.nodup_directSuccessors r a
  unentered _ ht hfirst :=
    absurd (RelationSets.Direct.mem_edges ht) ((RelationSets.mem_startActivities.mp hfirst).2 a)

/-- An activity that had no flow out is closed when all its direct successors are placed. -/
theorem Building.closeActivity (hb : Building r (insert t A) d) (hr : r.Drawable)
    (ht : Behind r A t) (hfree : ∀ v, (t, v) ∉ d.graph.flows)
    (hb' : Building r (insert t A) d') (hprogress : Progress (insert t A) d d')
    (hplaced : ∀ y, r.Direct t y → Placed d' t y) : Building r A d' := by
  refine hb'.close (Set.subset_insert t A) (fun {u v} hflow hv => ?_) fun {x y} _ hx hclosed hxy => ?_
  · have hold := hprogress.fixed (.inl (.inr hv)) hflow
    rcases hb.sealed hold (.inr hv) with rfl | hu
    · exact absurd hold (hfree v)
    · exact hu
  · obtain rfl : x = t := hx.resolve_right hclosed
    have hedge := hxy.mem_edges
    refine ⟨fun hy => ?_, hplaced y hxy⟩
    exact hr.acyclic.asymm (.single hedge) (ht.leads y hy (hr.target_mem hedge))

theorem yields_recordExpanded (h : Expanded r A d d' t) :
    Yields (record (.expanded t)) d' fun _ d'' =>
      Expanded r A d d'' t ∧ ∃ g, ⟨.expanded t, g⟩ ∈ d''.log := by
  exact ⟨⟨h.building.record trivial, h.progress.trans (progress_record _), h.processed⟩, d'.graph,
    List.mem_append_right _ (.head _)⟩

/-- An activity that can be expanded is expanded, if the fuel suffices. -/
theorem yields_expandWithin (hr : plan.relations.Drawable) (fuel : Nat) {t : String}
    (ht : Enterable plan.relations A t d) (hfuel : Suffices plan.relations d.processed t fuel) :
    Yields (expandWithin plan fuel t) d fun _ d' =>
      Expanded plan.relations A d d' t ∧ ∃ g, ⟨.expanded t, g⟩ ∈ d'.log := by
  -- every level expands the target of a precedence, so fewer of them are waiting below it
  induction fuel generalizing A d t with
  | zero => exact absurd hfuel.pos (Nat.lt_irrefl 0)
  | succ fuel ih =>
      simp only [expandWithin, markProcessed, yields_bind, yields_get]
      rcases ht.state with ⟨hdone, hb⟩ | ⟨hnew, hb, hfree, hpending⟩
      · rw [if_pos (by simpa using hdone)]
        simp only [yields_pure, Bool.false_eq_true, if_false]
        exact yields_recordExpanded ⟨hb, .refl _ d, hdone⟩
      · rw [if_neg (by simpa using hnew)]
        simp only [yields_bind, yields_modify, yields_pure, if_true]
        have hvisit : ∀ y ∈ plan.relations.directSuccessors t,
            Visits plan.relations (d.processed ++ [t]) (expandWithin plan fuel) y := by
          intro y hy A₁ d₁ hbase henter
          exact (ih henter (hfuel.next hnew hbase hy)).mono fun _ _ h' => h'.1
        refine (yields_buildAfter hr.acyclic hvisit (fun y hy => behind_of_direct hr ht.behind hy)
          (fun y hy => .inr hy) hb (List.Subset.refl _) (Set.mem_insert t A)
          (awaits_directSuccessors t) fun _ => ⟨hfree, hpending⟩).mono fun _ d' h' => ?_
        obtain ⟨hb', hprogress', hplaced⟩ := h'
        have hmarked : Progress (Spared plan.relations A []) d
            { d with processed := d.processed ++ [t] } :=
          progress_of_graph_eq rfl (List.subset_append_left _ _) (List.Subset.refl _)
            (List.Subset.refl _)
        refine yields_recordExpanded ⟨?_, hmarked.trans (hprogress'.mono ?_), ?_⟩
        · exact hb.closeActivity hr ht.behind hfree hb' hprogress'.of_spared hplaced
        · -- no direct successor starts the process
          rintro v (hv | ⟨hfirst, -⟩)
          · exact .inl (.inr hv)
          · exact .inr ⟨hfirst, fun hv => (RelationSets.mem_startActivities.mp hfirst).2 t
              (RelationSets.Direct.mem_edges hv)⟩
        · exact hprogress'.processed (List.mem_append_right _ (.head _))

/-- An activity that can be expanded is expanded. -/
theorem yields_expand (hr : plan.relations.Drawable) {t : String}
    (ht : Enterable plan.relations A t d) :
    Yields (expand plan t) d fun _ d' =>
      Expanded plan.relations A d d' t ∧ ∃ g, ⟨.expanded t, g⟩ ∈ d'.log := by
  exact yields_expandWithin hr _ ht (suffices_of_le (Nat.le_refl _))

end ActivityMatrix.Drafting
