import ActivityMatrix.Proofs.Synthesis.Expansion
import ActivityMatrix.Synthesis.Stitching

/-!
# Everything is expanded from the start

The nodes are added to an empty graph (`yields_addNodes`), and what follows the start event is built
while the start event is the only open node. The activities that nothing precedes are expanded and
entered then, and so is every activity behind them, hence every activity (`Complete`). So expanding
all activities once more only keeps the invariant, and no activity is left over to be attached.
-/

namespace ActivityMatrix.Drafting

open ProcessGraph ActivityMatrix.Digraph

variable {plan : SynthesisPlan} {r : RelationSets} {d d' : Draft} {a b : String}

/-! ## The nodes -/

/-- The graph of the two events and the activities, without flows. -/
def nodesOnly (order : List String) : ProcessGraph :=
  { acyclic := true, nodes := startNode :: (order.map taskNode ++ [endNode]) }

theorem ids_nodesOnly (order : List String) :
    (nodesOnly order).ids = startEventId :: (order ++ [endEventId]) := by
  have hids : (order.map taskNode).map Node.id = order := by
    rw [List.map_map]
    exact List.map_id _
  simp [nodesOnly, ids, hids, startNode, endNode]

/-- The nodes that are there before any gateway. An activity that is called like the start event has
no node of its own, since the event is there first; an activity that is called like the end event
takes the place of the event, which is added last. -/
def fixedNodes (order : List String) : List Node :=
  startNode :: ((order.filter (· ≠ startEventId)).map taskNode ++
    if endEventId ∈ order then [] else [endNode])

theorem fixedNodes_eq {order : List String} (hstart : startEventId ∉ order)
    (hend : endEventId ∉ order) : fixedNodes order = (nodesOnly order).nodes := by
  have hfilter : order.filter (· ≠ startEventId) = order :=
    List.filter_eq_self.mpr fun a ha => by
      simpa using fun heq : a = startEventId => hstart (heq ▸ ha)
  rw [fixedNodes, hfilter, if_neg hend]
  rfl

/-- Whatever the activities are called, each is added once, unless there is a node with its id. -/
theorem yields_addNodes_of_nodup (hnodup : plan.relations.order.Nodup) :
    Yields (addNodes plan) { graph := { acyclic := true } } fun _ d' =>
      d' = { graph := { acyclic := true, nodes := fixedNodes plan.relations.order } } := by
  -- the draft once these activities have been added
  let added (done : List String) : Draft :=
    { graph := { acyclic := true
                 nodes := startNode :: (done.filter (· ≠ startEventId)).map taskNode } }
  have hids : ∀ done a, a ∈ (added done).graph.ids ↔ a = startEventId ∨ a ∈ done := by
    intro done a
    have hnodes : (added done).graph.ids = startEventId :: done.filter (· ≠ startEventId) := by
      simp [added, ids, startNode, taskNode, Function.comp_def]
    by_cases ha : a = startEventId <;> simp [hnodes, ha]
  unfold addNodes
  refine yields_bind.mpr (yields_addNode startNode rfl List.not_mem_nil ?_)
  refine yields_bind.mpr ((yields_forM (fun done d => d = added done) rfl ?_).mono
    fun _ d hd => ?_)
  · rintro done activity rest _ hsplit rfl
    have hnew : activity ∉ done := notMem_of_nodup_split hnodup hsplit
    refine yields_bind.mpr (yields_addNode_or_present (taskNode activity) rfl
      (fun _ hpresent => ?_) fun hfresh => ?_)
    · -- the activities before are others, so the node that is there is the start event
      have hactivity := ((hids done activity).mp hpresent).resolve_right hnew
      show added done = added (done ++ [activity])
      simp [added, hactivity]
    · have hactivity : activity ≠ startEventId :=
        fun heq => hfresh ((hids done activity).mpr (.inl heq))
      show (_ : Draft) = added (done ++ [activity])
      simp [added, insertNode, hactivity]
  · subst hd
    have hend : endNode.id ∈ (added plan.relations.order).graph.ids ↔
        endEventId ∈ plan.relations.order :=
      (hids _ endEventId).trans (or_iff_right (by decide))
    refine yields_bind.mpr (yields_addNode_or_present endNode rfl (fun _ hpresent => ?_)
      fun hfresh => ?_)
    · simp [added, fixedNodes, hend.mp hpresent]
    · simp [added, fixedNodes, mt hend.mpr hfresh, insertNode]

theorem yields_addNodes (hr : plan.relations.Drawable) :
    Yields (addNodes plan) { graph := { acyclic := true } } fun _ d' =>
      d' = { graph := nodesOnly plan.relations.order } := by
  refine (yields_addNodes_of_nodup hr.nodup).mono fun _ d' hd' => ?_
  rw [hd', fixedNodes_eq hr.start_notMem hr.end_notMem]
  rfl

theorem sound_nodesOnly (hr : r.Drawable) : (nodesOnly r.order).Sound r.order where
  checked := rfl
  unfrozen := rfl
  ids_nodup := by
    have hevents : startEventId ≠ endEventId := by decide
    have hstart := hr.start_notMem
    have hend := hr.end_notMem
    -- no activity is called like an event
    rw [ids_nodesOnly, List.nodup_cons, List.nodup_append]
    simp only [List.mem_append, List.mem_singleton, List.nodup_singleton, not_or]
    refine ⟨⟨hstart, hevents⟩, hr.nodup, trivial, ?_⟩
    rintro a ha _ rfl rfl
    exact hend ha
  flows_nodup := List.nodup_nil
  source_mem hab := absurd hab List.not_mem_nil
  target_mem hab := absurd hab List.not_mem_nil
  single_out _ hab := absurd hab List.not_mem_nil
  single_in _ hac := absurd hac List.not_mem_nil
  acyclic := acyclic_nil
  into_start _ := List.not_mem_nil
  out_of_end _ := List.not_mem_nil
  fits := by
    intro node hnode
    simp only [nodesOnly, List.mem_cons, List.mem_append, List.mem_map, List.not_mem_nil,
      or_false] at hnode
    rcases hnode with rfl | ⟨activity, hactivity, rfl⟩ | rfl
    · exact ⟨rfl, hr.start_notMem⟩
    · exact hactivity
    · exact ⟨rfl, hr.end_notMem⟩
  known id hid := by
    rw [ids_nodesOnly]
    simp only [List.mem_cons, List.mem_append, List.not_mem_nil, or_false] at hid ⊢
    tauto
  start_notMem := hr.start_notMem
  end_notMem := hr.end_notMem

/-- At first the start event alone is open. -/
theorem building_nodesOnly (hr : r.Drawable) :
    Building r {startEventId} { graph := nodesOnly r.order } where
  sound := sound_nodesOnly hr
  open_mem := by
    rintro v rfl
    exact ⟨(sound_nodesOnly hr).known _ (.head _), by decide⟩
  open_processed := by
    rintro v rfl hname
    exact absurd hname hr.start_notMem
  sealed hflow := absurd hflow List.not_mem_nil
  processed_mem ha := absurd ha List.not_mem_nil
  of_entered hflow := absurd hflow List.not_mem_nil
  of_left hflow := absurd hflow List.not_mem_nil
  closed ha := absurd ha List.not_mem_nil
  pending_source hst := absurd hst List.not_mem_nil
  pending_target hst := absurd hst List.not_mem_nil
  pending_unique _ hst := absurd hst List.not_mem_nil
  pending_origin hst := absurd hst List.not_mem_nil
  pending_later hst := absurd hst List.not_mem_nil
  first_entered hflow := absurd hflow List.not_mem_nil
  rooted hflow := absurd hflow List.not_mem_nil
  open_fed hv := .inr (.inl hv)
  pending_fed hst := absurd hst List.not_mem_nil
  reports _ hreport := absurd hreport List.not_mem_nil
  log _ hentry := absurd hentry List.not_mem_nil

/-! ## What follows the start event -/

/-- Every activity is expanded and entered, and only the start event is open. -/
structure Complete (r : RelationSets) (d : Draft) : Prop where
  building : Building r {startEventId} d
  processed : ∀ a ∈ r.order, a ∈ d.processed
  entered : ∀ a ∈ r.order, ∃ u, (u, a) ∈ d.graph.flows

/-- Every activity lies behind the start event, since no precedence mentions that event. -/
theorem behind_start (hr : r.Drawable) (ha : a ∈ r.order) : Behind r {startEventId} a where
  mem := ha
  leads := by
    rintro v rfl hname
    exact absurd hname hr.start_notMem

/-- What is expanded and entered is handed on from the activities that nothing precedes to all. -/
theorem Building.complete (hb : Building r {startEventId} d) (hr : r.Drawable)
    (hstart : ∀ a ∈ r.startActivities, a ∈ d.processed ∧ ∃ u, (u, a) ∈ d.graph.flows) :
    Complete r d := by
  suffices hall : ∀ a ∈ r.order, a ∈ d.processed ∧ ∃ u, (u, a) ∈ d.graph.flows from
    ⟨hb, fun a ha => (hall a ha).1, fun a ha => (hall a ha).2⟩
  intro a
  -- along the precedences: what comes before an activity is expanded and entered
  induction a using hr.acyclic.wellFounded.induction with
  | _ a ih =>
      intro ha
      by_cases hfirst : ∃ b, (b, a) ∈ r.edges
      · obtain ⟨b, hb'⟩ := hfirst
        obtain ⟨p, hpa⟩ := RelationSets.exists_direct_of_mem_edges hr.acyclic hb'
        have hedge := hpa.mem_edges
        have hp := hr.source_mem hedge
        have hclosed : p ∉ ({startEventId} : Set String) := by
          rintro rfl
          exact hr.start_notMem hp
        obtain ⟨-, hplaced⟩ := hb.closed (ih p hedge hp).1 hclosed hpa
        exact ⟨hplaced.processed, hplaced.entered⟩
      · exact hstart a (RelationSets.mem_startActivities.mpr ⟨ha, fun b hb' => hfirst ⟨b, hb'⟩⟩)

theorem yields_synthesizeStart (hr : plan.relations.Drawable)
    (hb : Building plan.relations {startEventId} d) (hempty : d.graph.flows = []) :
    Yields (synthesizeStart plan) d fun _ d' => Complete plan.relations d' := by
  simp only [synthesizeStart, yields_bind, yields_modify]
  have hbehind : ∀ t ∈ plan.relations.startActivities,
      Behind plan.relations {startEventId} t :=
    fun t ht => behind_start hr (RelationSets.mem_startActivities.mp ht).1
  have hvisit : ∀ t ∈ plan.relations.startActivities, Visits plan.relations [] (expand plan) t :=
    fun t _ A d _ hd => (yields_expand hr hd).mono fun _ _ h => h.1
  have hb₀ : Building plan.relations {startEventId}
      { d with startCandidates := plan.relations.startActivities } := hb.congr rfl rfl rfl hb.reports rfl
  have hawait : Awaits plan.relations { d with startCandidates := plan.relations.startActivities }
      plan.relations.startActivities :=
    ⟨hr.nodup.filter _, fun _ _ _ _ => by simp [hempty]⟩
  refine (yields_buildAfter hr.acyclic hvisit hbehind (fun _ _ => .inl rfl) hb₀
    (List.nil_subset _) rfl hawait fun hname => absurd hname hr.start_notMem).mono fun _ d' h' => ?_
  obtain ⟨hb', -, hplaced⟩ := h'
  exact hb'.complete hr fun t ht => ⟨(hplaced t ht).processed, (hplaced t ht).entered⟩

/-- Now that the activities are entered, flows leave only nodes that are entered, too. -/
theorem Complete.fed (h : Complete r d) (hs : d.graph.Fed r.order a) : d.graph.Fed [] a := by
  rcases hs with hname | hs
  · exact .inr (.inr (h.entered a hname))
  · exact .inr hs

/-! ## Nothing is left to do -/

theorem Complete.record (h : Complete r d) (step : SynthesisStep) (hstep : Expands d.graph step) :
    Complete r { d with log := d.log ++ [⟨step, d.graph⟩] } :=
  { h with building := h.building.record hstep }

theorem yields_expandAll (hr : plan.relations.Drawable) (h : Complete plan.relations d) :
    Yields (expandAll plan) d fun _ d' => Complete plan.relations d' ∧ d.log ⊆ d'.log ∧
      ∀ a ∈ plan.relations.order, ∃ g, ⟨.expanded a, g⟩ ∈ d'.log := by
  refine yields_forM (fun done d' => Complete plan.relations d' ∧ d.log ⊆ d'.log ∧
    ∀ a ∈ done, ∃ g, ⟨.expanded a, g⟩ ∈ d'.log) ⟨h, List.Subset.refl _, by simp⟩ ?_
  rintro done t rest d₁ hsplit ⟨h₁, hlog, hdone⟩
  have ht : t ∈ plan.relations.order := by simp [hsplit]
  have henter : Enterable plan.relations {startEventId} t d₁ :=
    ⟨behind_start hr ht, .inl ⟨h₁.processed t ht, h₁.building⟩⟩
  refine (yields_expand hr henter).mono fun _ d' h' => ?_
  obtain ⟨⟨hb', hprogress, -⟩, hentry⟩ := h'
  refine ⟨⟨hb', fun a ha => hprogress.processed (h₁.processed a ha),
    fun a ha => hprogress.entered (h₁.entered a ha)⟩, List.Subset.trans hlog hprogress.log, ?_⟩
  intro a ha
  rcases List.mem_append.mp ha with ha | ha
  · obtain ⟨g, hg⟩ := hdone a ha
    exact ⟨g, hprogress.log hg⟩
  · exact List.mem_singleton.mp ha ▸ hentry

theorem yields_attachOrphans (h : Complete plan.relations d) :
    Yields (attachOrphans plan) d fun _ d' => d' = d := by
  have hnone : (plan.relations.order.filter fun a =>
      (d.graph.incoming a).isEmpty && !d.startCandidates.contains a) = [] := by
    refine List.filter_eq_nil_iff.mpr fun a ha hopen => ?_
    obtain ⟨u, hu⟩ := h.entered a ha
    have hempty := List.isEmpty_iff.mp (Bool.and_eq_true_iff.mp hopen).1
    exact incoming_eq_nil.mp hempty u hu
  simp only [attachOrphans, yields_bind, yields_get, hnone]
  rfl

end ActivityMatrix.Drafting
