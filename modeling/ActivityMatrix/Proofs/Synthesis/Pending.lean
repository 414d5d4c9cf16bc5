import ActivityMatrix.Proofs.ProcessGraph.Gathering
import ActivityMatrix.Proofs.Synthesis.Stitching

/-!
# What becomes of refused flows

Flows that a graph refused may be merged later, in any guarded graph without cycles and whatever the flows
are, as long as none leads from a node to itself. The merges keep all paths, and each flow has one of four
fates when its target has had its turn (`Fate`). Two of them are fine: a path shows the flow, or a report
says that the new join in front of its target refuses its source. The other two are quiet. A source that an
earlier merge has put behind the target is passed over, and a source that is a task with a flow out is not
joined to a target that nothing enters.

* `yields_mergeInto_of_workable`: one merge gives each of its flows a fate and leaves the flows into all
  other nodes as they are (`MergedInto`).
* `yields_mergeGroups`: so the fates stay while the other targets have their turn (`MergedAll`).
* `resolvePending_settles`: in the end the flows that are neither shown nor reported are exactly those that
  were lost in one of the two quiet ways and are not reported (`Settlement`). A frozen graph stops the
  merges, unless nothing is to be merged.
-/

namespace ActivityMatrix.Drafting

open ProcessGraph ActivityMatrix.Digraph

variable {plan : SynthesisPlan} {g : ProcessGraph} {d d' d'' : Draft} {gate : Node}
  {s t target join : String} {sources done fed : List String} {groups : List (String × List String)}

/-! ## Reports -/

/-- The reports that were recorded between two drafts. -/
def reportsSince (d d' : Draft) : List Diagnostic :=
  d'.diagnostics.drop d.diagnostics.length

theorem reportsSince_eq {reports : List Diagnostic}
    (h : d'.diagnostics = d.diagnostics ++ reports) : reportsSince d d' = reports := by
  rw [reportsSince, h, List.drop_left]

theorem reportsSince_subset (h : d.diagnostics <+: d'.diagnostics)
    (h' : d'.diagnostics <+: d''.diagnostics) :
    reportsSince d d' ⊆ reportsSince d d'' ∧ reportsSince d' d'' ⊆ reportsSince d d'' := by
  obtain ⟨first, hfirst⟩ := h
  obtain ⟨more, hmore⟩ := h'
  have hall : d''.diagnostics = d.diagnostics ++ (first ++ more) := by
    rw [← hmore, ← hfirst, List.append_assoc]
  rw [reportsSince_eq hfirst.symm, reportsSince_eq hmore.symm, reportsSince_eq hall]
  exact ⟨List.subset_append_left _ _, List.subset_append_right _ _⟩

/-! ## Feeding a join -/

/-- Some feeders had their turn at a new join in front of a node: they feed it, or the refusal was
reported. -/
structure Feeding (gate : Node) (target : String) (done fed : List String) (d d' : Draft) : Prop where
  gathering : Gathering gate ((d.graph.incoming target).map (·, target)) fed d.graph d'.graph
  fed_subset : fed ⊆ done
  fate : ∀ s ∈ done, s ∈ fed ∨ (s, target) ∉ d.graph.flows ∧
    .cannotFeed s gate.id ∈ reportsSince d d'
  reports : d.diagnostics <+: d'.diagnostics
  pending : d'.pending = d.pending

/-- Sources from which new flows into a node are asked for. -/
structure Gatherable (g : ProcessGraph) (target : String) (sources : List String) : Prop where
  target_mem : target ∈ g.ids
  nodup : sources.Nodup
  source_mem : ∀ s ∈ sources, s ∈ g.ids
  ne : ∀ s ∈ sources, target ≠ s
  new : ∀ s ∈ sources, (s, target) ∉ g.flows

theorem Gatherable.filter (h : Gatherable g target sources) (p : String → Bool) :
    Gatherable g target (sources.filter p) where
  target_mem := h.target_mem
  nodup := h.nodup.filter p
  source_mem s hs := h.source_mem s (List.mem_of_mem_filter hs)
  ne s hs := h.ne s (List.mem_of_mem_filter hs)
  new s hs := h.new s (List.mem_of_mem_filter hs)

/-- The flows into the target are gone, and a new gateway waits for its feeders. -/
theorem yields_clearTarget (kind : GatewayKind) (hg : d.graph.Workable) (htarget : target ∈ d.graph.ids)
    (hfresh : join ∉ d.graph.ids) :
    Yields (do
        addGateway kind joinRole join
        (d.graph.incoming target).forM fun feeder => do
          let _ ← removeFlow feeder target) d
      fun _ d' => Feeding (gatewayNode kind joinRole join) target [] [] d d' := by
  rw [yields_bind]
  refine yields_addGateway hg.unfrozen hfresh ?_
  have hstart : Gathering (gatewayNode kind joinRole join) [] [] d.graph _ :=
    gathering_insertNode hg hfresh
  -- done: the sources whose flows into the target are gone
  let inv (done : List String) (d' : Draft) : Prop :=
    d' = { d with graph := d'.graph, additions := d'.additions } ∧ Gathering (gatewayNode kind joinRole join)
      (done.map (·, target)) [] d.graph d'.graph
  have hinv : inv [] (d.insertGateway (gatewayNode kind joinRole join)) :=
    ⟨rfl, hstart⟩
  refine (yields_forM inv hinv ?_).mono fun _ d' hdone => ?_
  · rintro done member rest d' - ⟨hrest, hgathering⟩
    refine yields_bind.mpr (yields_removeFlow hgathering.workable.unfrozen ?_)
    have hnext := hgathering.delete (s := member) htarget hfresh
    refine ⟨by rw [hrest], ?_⟩
    simpa using hnext
  · obtain ⟨hrest, hgathering⟩ := hdone
    refine ⟨hgathering, List.nil_subset _, fun s hs => absurd hs List.not_mem_nil, ?_, ?_⟩
    · rw [hrest]
    · rw [hrest]

/-- One more feeder has its turn. -/
theorem yields_feed (h : Feeding gate target done fed d d') (hg : d.graph.Workable)
    (hfresh : gate.id ∉ d.graph.ids) (hgate : gate.isTask = false) (hs : s ∈ d.graph.ids)
    (hnew : s ∉ done) :
    Yields (feed gate.id s) d' fun _ d'' =>
      ∃ fed', Feeding gate target (done ++ [s]) fed' d d'' := by
  have hcan := h.gathering.canFeed hg hfresh hgate hs fun hfed => hnew (h.fed_subset hfed)
  refine yields_bind.mpr (yields_addFlow h.gathering.workable.unfrozen (fun hadd => ?_) fun hadd => ?_)
  · refine ⟨fed ++ [s], h.gathering.feed hg hfresh hadd, ?_, fun v hv => ?_, h.reports, h.pending⟩
    · exact List.append_subset.mpr ⟨fun v hv => List.mem_append_left _ (h.fed_subset hv), by simp⟩
    · rcases List.mem_append.mp hv with hv | hv
      · exact (h.fate v hv).imp_left (List.mem_append_left _)
      · exact .inl (List.mem_append_right _ hv)
  · have hmore : d'.diagnostics <+: d'.diagnostics ++ [.cannotFeed s gate.id] := List.prefix_append _ _
    refine ⟨fed, h.gathering, fun v hv => List.mem_append_left _ (h.fed_subset hv), fun v hv => ?_,
      h.reports.trans hmore, h.pending⟩
    rcases List.mem_append.mp hv with hv | hv
    · refine (h.fate v hv).imp_right fun ⟨hnone, hreport⟩ => ⟨hnone, ?_⟩
      exact (reportsSince_subset h.reports hmore).1 hreport
    · obtain rfl := List.mem_singleton.mp hv
      refine .inr ⟨fun hflow => ?_, ?_⟩
      · -- a task that flows into the target has no other flow, and that one is gone
        have hgone : d.graph.isTask v = true → ∀ b, (v, b) ∈ d.graph.flows →
            (v, b) ∈ (d.graph.incoming target).map (·, target) := fun htask b hb => by
          rw [hg.single_out htask hb hflow]
          exact List.mem_map_of_mem (mem_incoming.mpr hflow)
        rw [hcan.mpr hgone] at hadd
        cases hadd
      · refine (reportsSince_subset h.reports hmore).2 ?_
        rw [reportsSince_eq rfl]
        exact .head _

/-! ## What becomes of a flow -/

/-- What keeps while flows are merged. -/
structure Widened (d d' : Draft) : Prop where
  workable : d'.graph.Workable
  nodes : d.graph.nodes ⊆ d'.graph.nodes
  leads : ∀ {a b}, d.graph.Leads a b → d'.graph.Leads a b
  reports : d.diagnostics <+: d'.diagnostics
  pending : d'.pending = d.pending

theorem Widened.refl (hg : d.graph.Workable) : Widened d d :=
  ⟨hg, List.Subset.refl _, id, List.prefix_rfl, rfl⟩

theorem Widened.trans (h : Widened d d') (h' : Widened d' d'') : Widened d d'' where
  workable := h'.workable
  nodes := List.Subset.trans h.nodes h'.nodes
  leads hab := h'.leads (h.leads hab)
  reports := h.reports.trans h'.reports
  pending := h'.pending.trans h.pending

theorem Widened.mem_ids (h : Widened d d') (hs : s ∈ d.graph.ids) : s ∈ d'.graph.ids :=
  List.map_subset Node.id h.nodes hs

/-- What has become of a flow between two drafts: it is shown by a path, its source lies behind its target,
a new join in front of its target refused it and that was reported, or its source, a task, has another flow
out and its target none in. -/
inductive Fate (d d' : Draft) (s t : String) : Prop
  | shown (hleads : d'.graph.Leads s t)
  | overtaken (hback : d'.graph.Leads t s)
  | refused (join : String) (hfresh : join ∉ d.graph.ids) (hjoin : (join, t) ∈ d'.graph.flows)
      (hreport : .cannotFeed s join ∈ reportsSince d d')
  | starved (htask : d.graph.isTask s = true) (htaken : ∃ b, (s, b) ∈ d'.graph.flows)
      (hbare : ∀ u, (u, t) ∉ d'.graph.flows)

/-- The flows from some sources into a node were merged, and nothing else has changed at the other
nodes. -/
structure MergedInto (target : String) (sources : List String) (d d' : Draft) : Prop where
  widened : Widened d d'
  into : ∀ {u v}, v ∈ d.graph.ids → v ≠ target →
    ((u, v) ∈ d'.graph.flows ↔ (u, v) ∈ d.graph.flows)
  fate : ∀ s ∈ sources, Fate d d' s target

/-! ## Merging the flows into one node -/

theorem mergedInto_of_feeding (hg : d.graph.Workable) (hgather : Gatherable d.graph target sources)
    (hahead : ∀ s ∈ sources, ¬ d.graph.Leads target s)
    (hfresh : gate.id ∉ d.graph.ids) (hgate : gate.isTask = false)
    (h : Feeding gate target (d.graph.incoming target ++ sources) fed d d') :
    d'.graph.canAddFlow gate.id target = true ∧
      MergedInto target sources d { d' with graph := d'.graph.insertFlow gate.id target } := by
  -- what fed the target before is not refused by the join
  have hincoming : ∀ a, (a, target) ∈ d.graph.flows → a ∈ fed := fun a ha => by
    have hdone : a ∈ d.graph.incoming target ++ sources := List.mem_append_left _ (mem_incoming.mpr ha)
    exact (h.fate a hdone).resolve_right fun hrefused => hrefused.1 ha
  have hbehind : ∀ s ∈ fed, target ≠ s ∧ ¬ d.graph.Leads target s := fun s hs => by
    rcases List.mem_append.mp (h.fed_subset hs) with hs | hs
    · exact hg.ahead_of_mem (mem_incoming.mp hs)
    · exact ⟨hgather.ne s hs, hahead s hs⟩
  have hadd : d'.graph.canAddFlow gate.id target = true :=
    h.gathering.canReachTarget hg hfresh hgate hgather.target_mem
      (fun a ha => List.mem_map_of_mem (mem_incoming.mpr ha)) hbehind
  have hback := h.gathering.target_not_leads hg hfresh hgather.target_mem hbehind
  have hdetour : IsDetour d.graph.flows (d'.graph.insertFlow gate.id target).flows fed [target] gate.id :=
    h.gathering.isDetour (fun _ _ => mem_map_incoming) hincoming
  refine ⟨hadd, ⟨h.gathering.workable.insertFlow hadd hback, h.gathering.nodes_subset, hdetour.leads, h.reports,
    h.pending⟩, fun hv hne => ?_, fun s hs => ?_⟩
  · exact hdetour.mem_iff_of_notMem_targets (by simpa using hne) fun heq => hfresh (heq ▸ hv)
  · rcases h.fate s (List.mem_append_right _ hs) with hfed | ⟨-, hreport⟩
    · exact .shown (hdetour.leads_across hfed (.head _))
    · exact .refused gate.id hfresh (hdetour.target_mem (.head _)) hreport

/-- All feeders have their turn. -/
theorem yields_feedEach (h : Feeding gate target [] [] d d') (hg : d.graph.Workable)
    (hgather : Gatherable d.graph target sources) (hfresh : gate.id ∉ d.graph.ids)
    (hgate : gate.isTask = false) :
    Yields ((d.graph.incoming target ++ sources).forM (feed gate.id)) d' fun _ d'' =>
      ∃ fed, Feeding gate target (d.graph.incoming target ++ sources) fed d d'' := by
  have hnodup : (d.graph.incoming target ++ sources).Nodup := by
    refine List.Nodup.append (nodup_predecessors hg.guarded.flows_nodup target) hgather.nodup ?_
    exact fun s hs hs' => hgather.new s hs' (mem_incoming.mp hs)
  refine yields_forM (fun done d'' => ∃ fed, Feeding gate target done fed d d'') ⟨[], h⟩ ?_
  rintro done member rest d'' hsplit ⟨fed, hfeeding⟩
  have hmember : member ∈ d.graph.ids := by
    have hmem : member ∈ d.graph.incoming target ++ sources := by simp [hsplit]
    rcases List.mem_append.mp hmem with hmem | hmem
    · exact (hg.guarded.joins (mem_incoming.mp hmem)).1
    · exact hgather.source_mem member hmem
  exact yields_feed hfeeding hg hfresh hgate hmember (notMem_of_nodup_split hnodup hsplit)

/-- The flows into a node and those from further sources are led through a new join. -/
theorem yields_gather (kind : GatewayKind) (hg : d.graph.Workable)
    (hgather : Gatherable d.graph target sources)
    (hahead : ∀ s ∈ sources, ¬ d.graph.Leads target s) (hfresh : join ∉ d.graph.ids) :
    Yields (do
        addGateway kind joinRole join
        (d.graph.incoming target).forM fun feeder => do
          let _ ← removeFlow feeder target
        (d.graph.incoming target ++ sources).forM (feed join)
        let _ ← addFlow join target) d
      fun _ d' => MergedInto target sources d d' := by
  have hclear := yields_bind.mp (yields_clearTarget kind hg hgather.target_mem hfresh)
  simp only [yields_bind]
  refine hclear.mono fun _ d₁ h₁ => h₁.mono fun _ d₂ h₂ => ?_
  refine (yields_feedEach h₂ hg hgather hfresh rfl).mono fun _ d₃ hfed => ?_
  obtain ⟨fed, h₃⟩ := hfed
  obtain ⟨hadd, hmerged⟩ := mergedInto_of_feeding hg hgather hahead hfresh rfl h₃
  exact yields_addFlow_of_canAddFlow h₃.gathering.workable.unfrozen hadd hmerged

/-- A flow from the only source is added, or the source is a task that flows elsewhere. -/
theorem yields_mergeOne (hg : d.graph.Workable) (hgather : Gatherable d.graph target [s])
    (hahead : ¬ d.graph.Leads target s) (hbare : ∀ u, (u, target) ∉ d.graph.flows) :
    Yields (do let _ ← addFlow s target) d fun _ d' => MergedInto target [s] d d' := by
  refine yields_bind.mpr (yields_addFlow hg.unfrozen (fun hadd => ?_) fun hadd => ?_)
  · refine ⟨⟨hg.insertFlow hadd hahead, List.Subset.refl _, fun hab => hab.mono (List.subset_append_left _ _),
      List.prefix_rfl, rfl⟩, fun _ hne => ?_, fun v hv => ?_⟩
    · rw [mem_flows_insertFlow, or_iff_left fun heq => hne heq.2]
    · obtain rfl := List.mem_singleton.mp hv
      exact .shown (.single (mem_flows_insertFlow.mpr (.inr ⟨rfl, rfl⟩)))
  · refine ⟨.refl hg, fun _ _ => Iff.rfl, fun v hv => ?_⟩
    obtain rfl := List.mem_singleton.mp hv
    -- nothing else can have made the guard refuse the flow
    have htaken : ¬ (d.graph.isTask v = true → ∀ b, (v, b) ∉ d.graph.flows) := fun hfree => by
      have hcan := hg.canAddFlow_iff.mpr ⟨hgather.source_mem v (.head _), hgather.target_mem,
        (hgather.ne v (.head _)).symm, hbare v, hfree, fun _ => hbare, fun _ => hahead⟩
      rw [hcan] at hadd
      cases hadd
    push Not at htaken
    exact .starved htaken.1 htaken.2 hbare

/-- A flow whose source lies behind the target is passed over, which the log alone notes. -/
theorem MergedInto.of_filter (log : List LogEntry) (hg : d.graph.Workable)
    (h : MergedInto target (sources.filter (!d.graph.canReach target ·)) { d with log } d') :
    MergedInto target sources d d' where
  widened := { h.widened with }
  into := h.into
  fate s hs := by
    by_cases hback : d.graph.Leads target s
    · exact .overtaken (h.widened.leads hback)
    · have hmem : s ∈ sources.filter (!d.graph.canReach target ·) := by
        refine List.mem_filter.mpr ⟨hs, ?_⟩
        rw [Bool.not_eq_true', ← Bool.not_eq_true, hg.canReach_iff]
        exact hback
      cases h.fate s hmem with
      | shown hleads => exact .shown hleads
      | overtaken hback => exact .overtaken hback
      | refused join hfresh hjoin hreport => exact .refused join hfresh hjoin hreport
      | starved htask htaken hbare => exact .starved htask htaken hbare

/-- Each source whose flow is asked for has a fate. -/
theorem yields_mergeInto_of_workable (hg : d.graph.Workable) (hgather : Gatherable d.graph target sources) :
    Yields (mergeInto plan target sources) d fun _ d' => MergedInto target sources d d' := by
  have hfiltered := hgather.filter (!d.graph.canReach target ·)
  have hahead : ∀ s ∈ sources.filter (!d.graph.canReach target ·), ¬ d.graph.Leads target s := by
    intro s hs hback
    have hblocked := (List.mem_filter.mp hs).2
    rw [hg.canReach_iff.mpr hback] at hblocked
    cases hblocked
  simp only [mergeInto, yields_bind, yields_graph]
  refine (yields_recordAll _ (SynthesisStep.passedOver · target)).mono fun _ d₁ hd₁ => ?_
  subst hd₁
  let noted : Draft := { d with log := d.log ++ passedOver d.graph target sources }
  suffices hmerge : Yields _ noted fun _ d' =>
      MergedInto target (sources.filter (!d.graph.canReach target ·)) noted d' from
    hmerge.mono fun _ d' h => MergedInto.of_filter noted.log hg h
  generalize sources.filter (!d.graph.canReach target ·) = kept at hfiltered hahead
  split
  · exact yields_pure.mpr ⟨.refl hg, fun _ _ => Iff.rfl, fun s hs => absurd hs List.not_mem_nil⟩
  · rename_i source hnone
    exact yields_mergeOne (d := noted) hg hfiltered (hahead source (.head _)) (incoming_eq_nil.mp hnone)
  · generalize plan.relations.gatewayKind _ = kind
    have hjoin := fun (join : String) (hfresh : join ∉ noted.graph.ids) =>
      yields_gather kind (d := noted) hg hfiltered hahead hfresh
    -- the join is called by the first feeder or by the target, which makes no difference
    split <;> exact yields_bind.mpr (yields_gatewayId hjoin)

/-! ## Merging one target after the other -/

/-- What has become of a flow into one node stays so while other flows are merged into other nodes. -/
theorem Fate.later (h : Fate d d' s t) (hfirst : Widened d d') (hnext : Widened d' d'')
    (hinto : ∀ u, (u, t) ∈ d''.graph.flows ↔ (u, t) ∈ d'.graph.flows) : Fate d d'' s t := by
  cases h with
  | shown hleads => exact .shown (hnext.leads hleads)
  | overtaken hback => exact .overtaken (hnext.leads hback)
  | refused join hfresh hjoin hreport =>
      exact .refused join hfresh ((hinto join).mpr hjoin)
        ((reportsSince_subset hfirst.reports hnext.reports).1 hreport)
  | starved htask htaken hbare =>
      obtain ⟨b, hb⟩ := htaken
      obtain ⟨c, hc, -⟩ := (hnext.leads (.single hb)).exists_first
      exact .starved htask ⟨c, hc⟩ fun u hflow => hbare u ((hinto u).mp hflow)

/-- What becomes of a flow late is what has become of it in all. -/
theorem Fate.earlier (h : Fate d' d'' s t) (hg : d.graph.Workable) (hfirst : Widened d d')
    (hnext : Widened d' d'') (hs : s ∈ d.graph.ids) : Fate d d'' s t := by
  cases h with
  | shown hleads => exact .shown hleads
  | overtaken hback => exact .overtaken hback
  | refused join hfresh hjoin hreport =>
      exact .refused join (fun hjoin' => hfresh (hfirst.mem_ids hjoin')) hjoin
        ((reportsSince_subset hfirst.reports hnext.reports).2 hreport)
  | starved htask htaken hbare =>
      exact .starved ((hg.isTask_iff_of_subset hfirst.workable hfirst.nodes hs).mp htask) htaken hbare

/-- The flows of some groups, each a target with its sources, were merged. -/
structure MergedAll (groups : List (String × List String)) (d d' : Draft) : Prop where
  widened : Widened d d'
  into : ∀ {u v}, v ∈ d.graph.ids → v ∉ groups.map Prod.fst →
    ((u, v) ∈ d'.graph.flows ↔ (u, v) ∈ d.graph.flows)
  fate : ∀ group ∈ groups, ∀ s ∈ group.2, Fate d d' s group.1

/-- New flows into a node stay so while flows are merged into other nodes. -/
theorem MergedAll.gatherable (h : MergedAll groups d d') (hgather : Gatherable d.graph target sources)
    (hnew : target ∉ groups.map Prod.fst) : Gatherable d'.graph target sources where
  target_mem := h.widened.mem_ids hgather.target_mem
  nodup := hgather.nodup
  source_mem s hs := h.widened.mem_ids (hgather.source_mem s hs)
  ne := hgather.ne
  new s hs hflow := hgather.new s hs ((h.into hgather.target_mem hnew).mp hflow)

theorem MergedAll.merge (h : MergedAll groups d d') (hg : d.graph.Workable)
    (hgather : ∀ group ∈ groups, Gatherable d.graph group.1 group.2)
    (hgather' : Gatherable d.graph target sources) (hnew : target ∉ groups.map Prod.fst)
    (hmerged : MergedInto target sources d' d'') :
    MergedAll (groups ++ [(target, sources)]) d d'' where
  widened := h.widened.trans hmerged.widened
  into := by
    intro u v hv hkeys
    simp only [List.map_append, List.map_cons, List.map_nil, List.mem_append, List.mem_singleton,
      not_or] at hkeys
    rw [hmerged.into (h.widened.mem_ids hv) hkeys.2, h.into hv hkeys.1]
  fate := by
    intro group hgroup s hs
    rcases List.mem_append.mp hgroup with hgroup | hgroup
    · have hne : group.1 ≠ target := fun heq => hnew (List.mem_map.mpr ⟨group, hgroup, heq⟩)
      have hmem := h.widened.mem_ids (hgather group hgroup).target_mem
      exact (h.fate group hgroup s hs).later h.widened hmerged.widened fun _ => hmerged.into hmem hne
    · obtain rfl := List.mem_singleton.mp hgroup
      exact (hmerged.fate s hs).earlier hg h.widened hmerged.widened (hgather'.source_mem s hs)

theorem yields_mergeGroups (hg : d.graph.Workable) (hkeys : (groups.map Prod.fst).Nodup)
    (hgather : ∀ group ∈ groups, Gatherable d.graph group.1 group.2) :
    Yields (groups.forM fun (target, sources) => mergeInto plan target sources) d fun _ d' =>
      MergedAll groups d d' := by
  have hstart : MergedAll [] d d :=
    ⟨.refl hg, fun _ _ => Iff.rfl, fun _ hgroup => absurd hgroup List.not_mem_nil⟩
  refine yields_forM (fun done d' => MergedAll done d d') hstart ?_
  rintro done ⟨target, sources⟩ rest d' hsplit h
  have hnew : target ∉ done.map Prod.fst :=
    notMem_of_nodup_split hkeys (by rw [hsplit, List.map_append, List.map_cons])
  have hgather' : Gatherable d.graph target sources := hgather (target, sources) (by simp [hsplit])
  have hdone : ∀ group ∈ done, Gatherable d.graph group.1 group.2 :=
    fun group hgroup => hgather group (by simp [hsplit, hgroup])
  refine (yields_mergeInto_of_workable h.widened.workable (h.gatherable hgather' hnew)).mono
    fun _ d'' hmerged => ?_
  exact h.merge hg hdone hgather' hnew hmerged

/-! ## A frozen graph -/

/-- A step stops before its end. -/
def Stops {α : Type} (step : Drafting α) (d : Draft) : Prop :=
  ∃ fault d', step.run d = .error fault d'

theorem stops_bind {α β : Type} {step : Drafting α} {next : α → Drafting β} (h : Stops step d) :
    Stops (step >>= next) d := by
  obtain ⟨fault, d', hrun⟩ := h
  refine ⟨fault, d', ?_⟩
  rw [EStateM.run_bind, hrun]

theorem stops_bind_of_yields {α β : Type} {step : Drafting α} {next : α → Drafting β}
    (h : Yields step d fun a d' => Stops (next a) d') : Stops (step >>= next) d := by
  obtain ⟨a, d', hrun, fault, d'', hnext⟩ := h.exists_result
  refine ⟨fault, d'', ?_⟩
  rw [EStateM.run_bind, hrun]
  exact hnext

theorem stops_change {α : Type} {step : ProcessGraph → Except GraphError (α × ProcessGraph)}
    {error : GraphError} (h : step d.graph = .error error) : Stops (change step) d :=
  ⟨.graph error, d, change_of_error h⟩

theorem stops_addFlow (hfrozen : d.graph.frozen = true) : Stops (addFlow s t) d :=
  stops_change (if_pos hfrozen)

theorem stops_addGateway {kind : GatewayKind} (hfrozen : d.graph.frozen = true) :
    Stops (addGateway kind joinRole join) d :=
  stops_bind_of_yields (yields_graph.mpr (stops_bind (stops_change (if_pos hfrozen))))

/-- A flow that closes no cycle is merged only into a graph that may be changed. -/
theorem stops_mergeInto (hfrozen : d.graph.frozen = true) (hs : s ∈ sources)
    (hahead : d.graph.canReach target s = false) : Stops (mergeInto plan target sources) d := by
  have hkept : s ∈ sources.filter (!d.graph.canReach target ·) :=
    List.mem_filter.mpr ⟨hs, by simp [hahead]⟩
  refine stops_bind_of_yields (yields_graph.mpr (stops_bind_of_yields ?_))
  refine (yields_recordAll _ (SynthesisStep.passedOver · target)).mono fun _ d₁ hd₁ => ?_
  have hfrozen₁ : d₁.graph.frozen = true := by rw [hd₁, hfrozen]
  dsimp only
  split
  · rename_i heq
    exact absurd (heq ▸ hkept) List.not_mem_nil
  · exact stops_bind (stops_addFlow hfrozen₁)
  · -- whatever the join is called, it cannot be added
    split <;> exact stops_bind_of_yields
      (yields_gatewayId fun _ _ => stops_bind (stops_addGateway hfrozen₁))

/-! ## The account of all refused flows -/

/-- Reports that were made between two drafts say that a flow is not there: it was dropped, or a new join in
front of its target refused its source. -/
inductive Reported (d d' : Draft) (s t : String) : Prop
  | taken (hreport : .sourceTaken s t ∈ reportsSince d d')
  | back (hreport : .leadsBack s t ∈ reportsSince d d')
  | refused (join : String) (hfresh : join ∉ d.graph.ids) (hjoin : (join, t) ∈ d'.graph.flows)
      (hreport : .cannotFeed s join ∈ reportsSince d d')

theorem Reported.ne_nil (h : Reported d d' s t) : reportsSince d d' ≠ [] := by
  cases h with
  | taken hreport => exact List.ne_nil_of_mem hreport
  | back hreport => exact List.ne_nil_of_mem hreport
  | refused _ _ _ hreport => exact List.ne_nil_of_mem hreport

/-- A flow was lost between two drafts: its source was put behind its target, or its source is a task whose
only flow out was given to another node while no flow enters its target. -/
inductive Lost (d d' : Draft) (s t : String) : Prop
  | overtaken (hahead : ¬ d.graph.Leads t s) (hback : d'.graph.Leads t s)
  | starved (htask : d.graph.isTask s = true) (hfree : ∀ b, (s, b) ∉ d.graph.flows)
      (htaken : ∃ b, (s, b) ∈ d'.graph.flows) (hbare : ∀ u, (u, t) ∉ d'.graph.flows)

/-- Refused flows are settled between two drafts: none is left, reports are only added, paths stay, and the
flows that are neither shown by a path nor reported are those that were lost and not reported. -/
structure Settlement (d d' : Draft) : Prop where
  pending : d'.pending = []
  reports : d.diagnostics <+: d'.diagnostics
  leads : ∀ {a b}, d.graph.Leads a b → d'.graph.Leads a b
  balance : ∀ {s t}, (s, t) ∈ d.pending →
    (¬ (d'.graph.Leads s t ∨ Reported d d' s t) ↔ Lost d d' s t ∧ ¬ Reported d d' s t)

/-- A flow that is lost is not shown by a path. -/
theorem Lost.not_leads (h : Lost d d' s t) (hacyclic : Acyclic d'.graph.flows) : ¬ d'.graph.Leads s t := by
  intro hleads
  cases h with
  | overtaken _ hback => exact hacyclic.asymm hleads hback
  | starved _ _ _ hbare =>
      obtain ⟨u, -, hu⟩ := hleads.exists_last
      exact hbare u hu

/-- The draft once the flows that are dropped have been reported. -/
def afterDrops (d : Draft) : Draft :=
  { d with pending := [], diagnostics := d.diagnostics ++ d.graph.dropReports d.pending }

theorem reports_afterDrops (d : Draft) : d.diagnostics <+: (afterDrops d).diagnostics :=
  List.prefix_append _ _

section Account

variable (hacyclic : Acyclic d.graph.flows)
  (hpending : ∀ {s t}, (s, t) ∈ d.pending → s ∈ d.graph.ids ∧ t ∈ d.graph.ids ∧ s ≠ t)
include hacyclic hpending

/-- The fates of the flows that are to be merged settle all. -/
theorem settlement_of_fates (hacyclic' : Acyclic d'.graph.flows) (hnone : d'.pending = [])
    (hreports : (afterDrops d).diagnostics <+: d'.diagnostics)
    (hleads : ∀ {a b}, d.graph.Leads a b → d'.graph.Leads a b)
    (hfates : ∀ {s t}, (s, t) ∈ d.pending → d.graph.pendingFate (s, t) = .mergeable →
      Fate (afterDrops d) d' s t) : Settlement d d' where
  pending := hnone
  reports := (reports_afterDrops d).trans hreports
  leads := hleads
  balance {s t} hst := by
    have hsince := reportsSince_subset (reports_afterDrops d) hreports
    -- of every flow one thing is true; that not two are is the balance
    have hcases : d'.graph.Leads s t ∨ Reported d d' s t ∨ Lost d d' s t := by
      obtain ⟨hs, ht, -⟩ := hpending hst
      have hjustifies := justifies_pendingFate hacyclic hs ht
      cases hfate : d.graph.pendingFate (s, t) with
      | settled =>
          rw [hfate] at hjustifies
          exact .inl (hleads hjustifies)
      | dropped reason =>
          rw [hfate] at hjustifies
          have hreport : reason ∈ reportsSince d d' := by
            refine hsince.1 ?_
            rw [reportsSince_eq rfl]
            exact mem_dropReports.mpr ⟨_, hst, hfate⟩
          rcases hjustifies with rfl | rfl
          · exact .inr (.inl (.taken hreport))
          · exact .inr (.inl (.back hreport))
      | mergeable =>
          rw [hfate] at hjustifies
          cases hfates hst hfate with
          | shown hshown => exact .inl hshown
          | overtaken hback => exact .inr (.inr (.overtaken hjustifies.2.2 hback))
          | refused join hfresh hjoin hreport =>
              exact .inr (.inl (.refused join hfresh hjoin (hsince.2 hreport)))
          | starved htask htaken hbare =>
              exact .inr (.inr (.starved htask (hjustifies.2.1 htask) htaken hbare))
    constructor
    · intro hneither
      rw [not_or] at hneither
      exact ⟨(hcases.resolve_left hneither.1).resolve_left hneither.2, hneither.2⟩
    · rintro ⟨hlost, hquiet⟩ (hshown | hreport)
      -- a path back rules out a path
      · exact hlost.not_leads hacyclic' hshown
      · exact hquiet hreport

theorem justifies_of_mem_mergeGroups {group : String × List String}
    (hgroup : group ∈ d.graph.mergeGroups d.pending) (hs : s ∈ group.2) :
    (s, group.1) ∈ d.pending ∧ Justifies d.graph s group.1 .mergeable := by
  obtain ⟨hst, hfate⟩ := (mem_mergeGroups hgroup).mp hs
  obtain ⟨hsource, htarget, -⟩ := hpending hst
  exact ⟨hst, hfate ▸ justifies_pendingFate hacyclic hsource htarget⟩

/-- The flows of a group can be gathered. -/
theorem gatherable_of_mem_mergeGroups {group : String × List String}
    (hgroup : group ∈ d.graph.mergeGroups d.pending) : Gatherable d.graph group.1 group.2 := by
  have hmem := fun s (hs : s ∈ group.2) => justifies_of_mem_mergeGroups hacyclic hpending hgroup hs
  obtain ⟨s₀, hs₀⟩ := exists_source_of_mem_mergeGroups hgroup
  exact
    { target_mem := (hpending (hmem s₀ hs₀).1).2.1
      nodup := nodup_of_mem_groupInOrder hgroup ((nodup_distinct _).map Prod.swap_injective)
      source_mem := fun s hs => (hpending (hmem s hs).1).1
      ne := fun s hs heq => (hpending (hmem s hs).1).2.2 heq.symm
      new := fun s hs => (hmem s hs).2.1 }

/-- In a graph that may be changed, all refused flows are settled. -/
theorem yields_settlement (plan : SynthesisPlan) (hg : d.graph.Workable) :
    Yields (resolvePending plan) d fun _ d' => Settlement d d' := by
  simp only [resolvePending, yields_bind, yields_get]
  refine (yields_diagnoseAll _ fun reason => reason).mono fun _ d₁ hd₁ => ?_
  rw [List.map_id'] at hd₁
  subst hd₁
  simp only [yields_modify]
  refine (yields_mergeGroups (d := afterDrops d) hg (nodup_keys_groupInOrder _) fun group hgroup =>
    gatherable_of_mem_mergeGroups hacyclic hpending hgroup).mono fun _ d' h => ?_
  refine settlement_of_fates hacyclic hpending h.widened.workable.acyclic h.widened.pending
    h.widened.reports h.widened.leads fun {s t} hst hfate => ?_
  obtain ⟨sources, hgroup, hs⟩ := exists_mem_mergeGroups hst hfate
  exact h.fate (t, sources) hgroup s hs

/-- In a frozen graph nothing can be merged. -/
theorem stops_resolvePending (plan : SynthesisPlan) (hfrozen : d.graph.frozen = true)
    (hgroups : d.graph.mergeGroups d.pending ≠ []) : Stops (resolvePending plan) d := by
  obtain ⟨⟨target, sources⟩, rest, hsplit⟩ := List.exists_cons_of_ne_nil hgroups
  have hgroup : (target, sources) ∈ d.graph.mergeGroups d.pending := by simp [hsplit]
  obtain ⟨s, hs⟩ := exists_source_of_mem_mergeGroups hgroup
  obtain ⟨-, -, -, hnot⟩ := justifies_of_mem_mergeGroups hacyclic hpending hgroup hs
  have hahead : d.graph.canReach target s = false :=
    Bool.eq_false_iff.mpr fun hback => hnot (hacyclic.canReach_iff.mp hback)
  refine stops_bind_of_yields (yields_get.mpr (stops_bind_of_yields ?_))
  refine (yields_diagnoseAll _ fun reason => reason).mono fun _ d₁ hd₁ => ?_
  refine stops_bind_of_yields (yields_modify.mpr ?_)
  rw [hsplit]
  refine stops_bind (stops_mergeInto (s := s) ?_ hs ?_)
  · rw [hd₁, hfrozen]
  · rw [hd₁]
    exact hahead

/-- In a frozen graph the call ends only if there is nothing to merge. -/
theorem settlement_of_frozen (hfrozen : d.graph.frozen = true)
    (hrun : (resolvePending plan).run d = .ok () d') : Settlement d d' := by
  have hnone : d.graph.mergeGroups d.pending = [] := by
    by_contra hsome
    obtain ⟨fault, d₁, hstop⟩ := stops_resolvePending hacyclic hpending plan hfrozen hsome
    rw [hrun] at hstop
    cases hstop
  have hafter : Yields (resolvePending plan) d fun _ d' => d' = afterDrops d := by
    simp only [resolvePending, yields_bind, yields_get]
    refine (yields_diagnoseAll _ fun reason => reason).mono fun _ d₁ hd₁ => ?_
    rw [List.map_id'] at hd₁
    subst hd₁
    simp only [yields_modify, hnone]
    exact yields_pure.mpr rfl
  obtain ⟨_, d₁, hrun₁, rfl⟩ := hafter.exists_result
  rw [hrun] at hrun₁
  cases hrun₁
  refine settlement_of_fates hacyclic hpending hacyclic rfl List.prefix_rfl id fun hst hfate => ?_
  obtain ⟨sources, hgroup, -⟩ := exists_mem_mergeGroups hst hfate
  rw [hnone] at hgroup
  exact absurd hgroup List.not_mem_nil

end Account

/-- Whatever flows were refused in a guarded graph without cycles, none from a node to itself: the merges end
unless the graph is frozen, and when they end, the flows are settled. -/
theorem resolvePending_settles (plan : SynthesisPlan) (d : Draft) (hguarded : d.graph.Guarded)
    (hchecked : d.graph.acyclic = true)
    (hpending : ∀ {s t}, (s, t) ∈ d.pending → s ∈ d.graph.ids ∧ t ∈ d.graph.ids ∧ s ≠ t) :
    (d.graph.frozen = false → ∃ d', (resolvePending plan).run d = .ok () d') ∧
      ∀ d', (resolvePending plan).run d = .ok () d' → Settlement d d' := by
  have hacyclic := hguarded.acyclic hchecked
  cases hfrozen : d.graph.frozen with
  | true =>
      refine ⟨fun hopen => absurd hopen (by decide), fun d' => ?_⟩
      exact settlement_of_frozen hacyclic hpending hfrozen
  | false =>
      have hyields := yields_settlement hacyclic hpending plan ⟨hguarded, hacyclic, hfrozen⟩
      obtain ⟨_, d', hrun, hsettlement⟩ := hyields.exists_result
      refine ⟨fun _ => ⟨d', hrun⟩, fun d'' hrun' => ?_⟩
      rw [hrun] at hrun'
      cases hrun'
      exact hsettlement

/-- A split leads to two tasks, and each of these to one that should flow into the other. -/
def twisted : Draft where
  graph :=
    { acyclic := true
      nodes :=
        [gatewayNode .parallel splitRole "x", taskNode "s1", taskNode "s2", taskNode "t1", taskNode "t2"]
      flows := [("x", "t1"), ("x", "t2"), ("t1", "s2"), ("t2", "s1")] }
  pending := [("s1", "t1"), ("s2", "t2")]

theorem workable_twisted : twisted.graph.Workable :=
  workable_of_order ["x", "t1", "t2", "s2", "s1"] rfl (by decide) (by decide) (by decide) (by decide)
    (by decide) (by decide) (by decide) (by decide)

/-- The first merge puts the second source behind its target, and no report says so. -/
theorem resolvePending_settles_twisted :
    ∃ d', (resolvePending { relations := {} }).run twisted = .ok () d' ∧ Settlement twisted d' ∧
      Lost twisted d' "s2" "t2" ∧ ¬ (d'.graph.Leads "s2" "t2" ∨ Reported twisted d' "s2" "t2") := by
  have hpending : ∀ flow ∈ twisted.pending,
      flow.1 ∈ twisted.graph.ids ∧ flow.2 ∈ twisted.graph.ids ∧ flow.1 ≠ flow.2 := by decide
  obtain ⟨hends, hsettles⟩ := resolvePending_settles { relations := {} } twisted workable_twisted.guarded
    (by decide) fun {s t} hst => hpending (s, t) hst
  have hanswer : Yields (resolvePending { relations := {} }) twisted fun _ d' =>
      d'.graph.canReach "t2" "s2" = true ∧ d'.diagnostics = [] := by decide +kernel
  obtain ⟨d', hrun⟩ := hends (by decide)
  obtain ⟨_, d₁, hrun₁, hreach, hnone⟩ := hanswer.exists_result
  rw [hrun] at hrun₁
  cases hrun₁
  have hsettlement := hsettles d' hrun
  have hahead : ¬ twisted.graph.Leads "t2" "s2" := fun hleads => by
    have hreach : twisted.graph.canReach "t2" "s2" = true := canReach_iff.mpr ⟨by decide, hleads⟩
    exact absurd hreach (by decide +kernel)
  have hlost : Lost twisted d' "s2" "t2" := .overtaken hahead (canReach_iff.mp hreach).2
  have hquiet : ¬ Reported twisted d' "s2" "t2" := fun hreported =>
    hreported.ne_nil (by rw [reportsSince, hnone, List.drop_nil])
  exact ⟨d', hrun, hsettlement, hlost, (hsettlement.balance (by decide)).mpr ⟨hlost, hquiet⟩⟩

/-- A flow from a node to itself does harm: its merge cuts the node off from the one that led to it, and
no report says so. -/
example :
    let d : Draft :=
      { graph :=
          { acyclic := true
            nodes := [gatewayNode .parallel splitRole "u", gatewayNode .parallel splitRole "s"]
            flows := [("u", "s")] }
        pending := [("s", "s")] }
    Yields (resolvePending { relations := {} }) d fun _ d' =>
      d.graph.canReach "u" "s" = true ∧ d'.graph.canReach "u" "s" = false ∧ d'.diagnostics = [] := by
  decide +kernel

end ActivityMatrix.Drafting
