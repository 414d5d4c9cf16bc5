import ActivityMatrix.Proofs.Synthesis.Merging
import ActivityMatrix.Proofs.Synthesis.Start
import Mathlib.Data.List.ProdSigma

/-!
# No refused flow is forgotten

The refused flows are merged one target after the other. A merge leaves the flows into all other
nodes as they were and gives no flow out to a node that is not among its sources, so what makes the
flows of one target mergeable is not touched by the merges before it (`Stitched.mergeable`). In the
end each refused flow leads from its source to its target, or its loss is noted: in a diagnostic, or
in an entry of the log for a source that the merges themselves have put behind the target
(`Resolved`).
-/

namespace ActivityMatrix.Drafting

open ProcessGraph ActivityMatrix.Digraph

variable {names : List String} {g : ProcessGraph} {plan : SynthesisPlan} {r : RelationSets}
  {d d' d'' : Draft} {s t target : String} {sources : List String}
  {pending : List Flow} {groups done : List (String × List String)}

/-! ## Merging one target after the other -/

theorem Merged.progress (h : Merged names target sources d d') (hg : d.graph.Sound names)
    (htarget : target ∈ names) : Progress ∅ d d' where
  nodes := h.nodes
  leads := h.leads
  fixed := by
    rintro u v (hv | hsplit) hflow
    · exact absurd hv (Set.notMem_empty v)
    · refine (h.into hsplit.mem_ids ?_).mp hflow
      rintro rfl
      exact hsplit.notMem_names hg htarget
  processed := by
    rw [h.rest]
    exact List.Subset.refl _
  pending := by
    rw [h.rest]
    exact List.Subset.refl _
  log := by
    rw [h.rest]
    exact List.subset_append_left _ _

/-- A flow was passed over between two drafts, since its source was behind its target. -/
structure Passed (names : List String) (d d' : Draft) (s t : String) (g : ProcessGraph) : Prop where
  sound : g.Sound names
  behind : g.Leads t s
  progress : Progress ∅ d { d with graph := g }
  leads : ∀ {a b}, g.Leads a b → d'.graph.Leads a b

/-- The flows of some groups, each a target with its sources, were merged or passed over. -/
structure Stitched (names : List String) (groups : List (String × List String)) (d d' : Draft) :
    Prop where
  sound : d'.graph.Sound names
  progress : Progress ∅ d d'
  diagnostics : d'.diagnostics = d.diagnostics
  into : ∀ {u v}, v ∈ d.graph.ids → v ∉ groups.map Prod.fst →
    ((u, v) ∈ d'.graph.flows ↔ (u, v) ∈ d.graph.flows)
  out_of : ∀ {u v}, u ∈ d.graph.ids → u ∉ groups.flatMap Prod.snd → (u, v) ∈ d'.graph.flows →
    ∃ w, (u, w) ∈ d.graph.flows
  merged : ∀ group ∈ groups, ∀ s ∈ group.2,
    d'.graph.Leads s group.1 ∨ ∃ g, ⟨.passedOver s group.1, g⟩ ∈ d'.log
  noted : ∀ entry ∈ d'.log, entry ∈ d.log ∨ ∃ group ∈ groups, ∃ s ∈ group.2,
    entry.step = .passedOver s group.1 ∧ Passed names d d' s group.1 entry.graph
  rooted : d.graph.Rooted [] → (∀ group ∈ groups, ∀ s ∈ group.2, d.graph.Fed [] s) →
    d'.graph.Rooted []

theorem Stitched.refl (hg : d.graph.Sound names) : Stitched names [] d d where
  sound := hg
  progress := .refl _ _
  diagnostics := rfl
  into _ _ := Iff.rfl
  out_of _ _ hflow := ⟨_, hflow⟩
  merged _ hgroup := absurd hgroup List.not_mem_nil
  noted _ hentry := .inl hentry
  rooted hrooted _ := hrooted

theorem Stitched.merge (h : Stitched names done d d') (hmerged : Merged names target sources d' d'')
    (htarget : target ∈ names) : Stitched names (done ++ [(target, sources)]) d d'' where
  sound := hmerged.sound
  progress := h.progress.trans (hmerged.progress h.sound htarget)
  diagnostics := by
    rw [hmerged.rest]
    exact h.diagnostics
  into := by
    intro u v hv hkeys
    simp only [List.map_append, List.map_cons, List.map_nil, List.mem_append, List.mem_singleton,
      not_or] at hkeys
    rw [hmerged.into (h.progress.mem_ids hv) hkeys.2, h.into hv hkeys.1]
  out_of := by
    intro u v hu hsources hflow
    simp only [List.flatMap_append, List.flatMap_cons, List.flatMap_nil, List.append_nil,
      List.mem_append, not_or] at hsources
    obtain ⟨w, hw⟩ := hmerged.out_of (h.progress.mem_ids hu) hsources.2 hflow
    exact h.out_of hu hsources.1 hw
  merged := by
    intro group hgroup s hs
    rcases List.mem_append.mp hgroup with hgroup | hgroup
    · refine (h.merged group hgroup s hs).imp hmerged.leads fun ⟨g, hg⟩ => ⟨g, ?_⟩
      rw [hmerged.rest]
      exact List.mem_append_left _ hg
    · obtain rfl := List.mem_singleton.mp hgroup
      -- whether a flow is passed over depends on the graph when its target has its turn
      by_cases hback : d'.graph.Leads target s
      · refine .inr ⟨d'.graph, ?_⟩
        rw [hmerged.rest]
        refine List.mem_append_right _ (List.mem_map.mpr ⟨s, List.mem_filter.mpr ⟨hs, ?_⟩, rfl⟩)
        exact h.sound.canReach_iff.mpr hback
      · exact .inl (hmerged.merged s hs hback)
  noted := by
    intro entry hentry
    rw [hmerged.rest] at hentry
    rcases List.mem_append.mp hentry with hentry | hentry
    · refine (h.noted entry hentry).imp_right ?_
      rintro ⟨group, hgroup, s, hs, hstep, hpassed⟩
      exact ⟨group, List.mem_append_left _ hgroup, s, hs, hstep,
        { hpassed with leads := fun hab => hmerged.leads (hpassed.leads hab) }⟩
    · obtain ⟨s, hs, rfl⟩ := List.mem_map.mp hentry
      obtain ⟨hs, hback⟩ := List.mem_filter.mp hs
      refine .inr ⟨_, List.mem_append_right _ (.head _), s, hs, rfl, h.sound,
        h.sound.canReach_iff.mp hback, ?_, hmerged.leads⟩
      exact ⟨h.progress.nodes, h.progress.leads, h.progress.fixed, List.Subset.refl _,
        List.Subset.refl _, List.Subset.refl _⟩
  rooted := by
    intro hrooted hfed
    refine hmerged.rooted (h.rooted hrooted fun group hgroup => ?_) fun s hs => ?_
    · exact hfed group (List.mem_append_left _ hgroup)
    · exact (hfed _ (List.mem_append_right _ (.head _)) s hs).of_leads h.progress.leads

/-- Flows into an activity stay mergeable while flows from other activities are merged into other
ones. -/
theorem Stitched.mergeable (h : Stitched names done d d')
    (hmerge : Mergeable names d.graph target sources) (hg : d.graph.Sound names)
    (hkeys : target ∉ done.map Prod.fst)
    (hfree : ∀ s ∈ sources, s ∈ names → s ∉ done.flatMap Prod.snd) :
    Mergeable names d'.graph target sources where
  target_mem := hmerge.target_mem
  entered := h.progress.entered hmerge.entered
  nodup := hmerge.nodup
  source_mem s hs := h.progress.mem_ids (hmerge.source_mem s hs)
  source_ne_end := hmerge.source_ne_end
  target_notMem := hmerge.target_notMem
  new s hs hflow := by
    have htarget : target ∈ d.graph.ids := hg.known target (by simp [hmerge.target_mem])
    exact hmerge.new s hs ((h.into htarget hkeys).mp hflow)
  free s hs hname b hflow := by
    obtain ⟨w, hw⟩ := h.out_of (hmerge.source_mem s hs) (hfree s hs hname) hflow
    exact hmerge.free s hs hname w hw

theorem yields_mergeAll (hg : d.graph.Sound names) (hkeys : (groups.map Prod.fst).Nodup)
    (hmerge : ∀ group ∈ groups, Mergeable names d.graph group.1 group.2)
    (hdisjoint : ∀ group ∈ groups, ∀ other ∈ groups, ∀ s ∈ names, s ∈ group.2 → s ∈ other.2 →
      group.1 = other.1) :
    Yields (groups.forM fun (target, sources) => mergeInto plan target sources) d fun _ d' =>
      Stitched names groups d d' := by
  refine yields_forM (fun done d' => Stitched names done d d') (.refl hg) ?_
  rintro done ⟨target, sources⟩ rest d' hsplit h
  have hgroup : (target, sources) ∈ groups := by simp [hsplit]
  have hnew : target ∉ done.map Prod.fst :=
    notMem_of_nodup_split hkeys (by rw [hsplit, List.map_append, List.map_cons])
  have hfree : ∀ s ∈ sources, s ∈ names → s ∉ done.flatMap Prod.snd := by
    intro s hs hname hmem
    obtain ⟨other, hother, hs'⟩ := List.mem_flatMap.mp hmem
    have htarget := hdisjoint _ hgroup other (by simp [hsplit, hother]) s hname hs hs'
    exact hnew (List.mem_map.mpr ⟨other, hother, htarget.symm⟩)
  have hmergeable := h.mergeable (hmerge _ hgroup) hg hnew hfree
  refine (yields_mergeInto h.sound hmergeable).mono fun _ d'' hmerged => ?_
  exact h.merge hmerged hmergeable.target_mem

/-! ## What becomes of a refused flow -/

/-- What a fate says of a refused flow: it is needed no more, or is dropped for one of two reasons, or
it is new, closes no cycle, and a task that it leaves has no other flow out. -/
def Justifies (g : ProcessGraph) (s t : String) : PendingFate → Prop
  | .settled => g.Leads s t
  | .dropped reason => reason = .sourceTaken s t ∨ reason = .leadsBack s t
  | .mergeable => (s, t) ∉ g.flows ∧ (g.isTask s = true → ∀ b, (s, b) ∉ g.flows) ∧ ¬ g.Leads t s

theorem justifies_pendingFate (hg : Acyclic g.flows) (hs : s ∈ g.ids) (ht : t ∈ g.ids) :
    Justifies g s t (g.pendingFate (s, t)) := by
  obtain ⟨node, hfound⟩ : ∃ node, g.node? s = some node := by
    obtain ⟨node, hnode, hid⟩ := mem_ids.mp hs
    exact Option.isSome_iff_exists.mp (List.find?_isSome.mpr ⟨node, hnode, by simpa using hid⟩)
  have htarget : g.contains t = true := contains_iff.mpr ht
  unfold pendingFate
  simp only [hfound, htarget, Bool.not_true, Bool.false_eq_true, if_false]
  -- the cases are those of the definition, in its order
  by_cases hpath : (g.hasFlow s t || g.canReach s t) = true
  · rw [if_pos hpath]
    show g.Leads s t
    rcases Bool.or_eq_true_iff.mp hpath with hflow | hreach
    · exact .single (hasFlow_iff.mp hflow)
    · exact hg.canReach_iff.mp hreach
  · rw [if_neg hpath]
    rw [Bool.or_eq_true, not_or, hasFlow_iff] at hpath
    by_cases hclosed : ((node.isTask || node.isJoin) && !(g.outgoing s).isEmpty) = true
    · rw [if_pos hclosed]
      exact .inl rfl
    · rw [if_neg hclosed]
      by_cases hback : g.canReach t s = true
      · rw [if_pos hback]
        exact .inr rfl
      · rw [if_neg hback]
        refine ⟨hpath.1, fun htask => outgoing_eq_nil.mp ?_, hg.canReach_iff.not.mp hback⟩
        rw [isTask, hfound, Option.any_some] at htask
        simpa [htask] using hclosed

/-- The same where the tasks are the activities. -/
def HasFate (names : List String) (g : ProcessGraph) (s t : String) : PendingFate → Prop
  | .settled => g.Leads s t
  | .dropped reason => reason = .sourceTaken s t ∨ reason = .leadsBack s t
  | .mergeable => (s, t) ∉ g.flows ∧ (s ∈ names → ∀ b, (s, b) ∉ g.flows)

theorem hasFate_pendingFate (hg : g.Sound names) (hs : s ∈ g.ids) (ht : t ∈ g.ids) :
    HasFate names g s t (g.pendingFate (s, t)) := by
  have hjustifies := justifies_pendingFate hg.acyclic hs ht
  cases hfate : g.pendingFate (s, t) with
  | settled => rwa [hfate] at hjustifies
  | dropped reason => rwa [hfate] at hjustifies
  | mergeable =>
      rw [hfate] at hjustifies
      exact ⟨hjustifies.1, fun hname => hjustifies.2.1 (hg.isTask_iff.mpr hname)⟩

theorem mem_mergeGroups {group : String × List String} (h : group ∈ g.mergeGroups pending) :
    s ∈ group.2 ↔ (s, group.1) ∈ pending ∧ g.pendingFate (s, group.1) = .mergeable := by
  rw [mem_of_mem_groupInOrder h, List.mem_map_swap, mem_distinct, List.mem_filter, beq_iff_eq]

/-- A group has a source. -/
theorem exists_source_of_mem_mergeGroups {group : String × List String}
    (h : group ∈ g.mergeGroups pending) : ∃ s, s ∈ group.2 := by
  obtain ⟨s, hs⟩ := (mem_groupInOrder.mp h).1
  exact ⟨s, (mem_of_mem_groupInOrder h).mpr hs⟩

theorem exists_mem_mergeGroups (hst : (s, t) ∈ pending)
    (hfate : g.pendingFate (s, t) = .mergeable) :
    ∃ sources, (t, sources) ∈ g.mergeGroups pending ∧ s ∈ sources := by
  refine exists_mem_groupInOrder ?_
  rw [List.mem_map_swap, mem_distinct, List.mem_filter, beq_iff_eq]
  exact ⟨hst, hfate⟩

theorem mem_dropReports {reason : Diagnostic} :
    reason ∈ g.dropReports pending ↔ ∃ flow ∈ pending, g.pendingFate flow = .dropped reason := by
  simp only [dropReports, List.mem_filterMap]
  refine exists_congr fun flow => and_congr_right fun _ => ?_
  cases g.pendingFate flow <;> simp

/-! ## All refused flows -/

/-- The loss of a flow is noted in a diagnostic or in the log. -/
def Forgone (d : Draft) (s t : String) : Prop :=
  .sourceTaken s t ∈ d.diagnostics ∨ .leadsBack s t ∈ d.diagnostics ∨
    ∃ g, ⟨.passedOver s t, g⟩ ∈ d.log

/-- A report says that a refused flow was dropped. -/
def IsDropped (report : Diagnostic) : Prop :=
  ∃ s t, report = .sourceTaken s t ∨ report = .leadsBack s t

/-- Each refused flow leads from its source to its target, or its loss is noted. -/
structure Resolved (names : List String) (d d' : Draft) : Prop where
  sound : d'.graph.Sound names
  rooted : d'.graph.Rooted []
  reported : ∀ report ∈ d'.diagnostics, report ∈ d.diagnostics ∨ IsDropped report
  leads : ∀ {a b}, d.graph.Leads a b → d'.graph.Leads a b
  into : ∀ {u v}, v ∈ d.graph.ids → (∀ s, (s, v) ∉ d.pending) → (u, v) ∈ d'.graph.flows →
    (u, v) ∈ d.graph.flows
  log_subset : d.log ⊆ d'.log
  settled : ∀ {s t}, (s, t) ∈ d.pending → d'.graph.Leads s t ∨ Forgone d' s t
  noted : ∀ entry ∈ d'.log, entry ∈ d.log ∨ ∃ s t, (s, t) ∈ d.pending ∧
    entry.step = .passedOver s t ∧ Passed names d d' s t entry.graph

/-- When everything is expanded, each refused flow has the fate that is made out for it. -/
theorem Complete.hasFate (h : Complete r d) (hst : (s, t) ∈ d.pending) :
    HasFate r.order d.graph s t (d.graph.pendingFate (s, t)) :=
  hasFate_pendingFate h.building.sound (h.building.pending_source hst).1
    (h.building.target_mem_ids (h.building.pending_target hst))

/-- The flows of a group are mergeable when everything is expanded. -/
theorem Complete.mergeable (h : Complete r d) {group : String × List String}
    (hgroup : group ∈ d.graph.mergeGroups d.pending) :
    Mergeable r.order d.graph group.1 group.2 := by
  have hpending : ∀ {s}, s ∈ group.2 → (s, group.1) ∈ d.pending :=
    fun hs => ((mem_mergeGroups hgroup).mp hs).1
  obtain ⟨s₀, hs₀⟩ := exists_source_of_mem_mergeGroups hgroup
  have htarget := h.building.pending_target (hpending hs₀)
  have hfate : ∀ s ∈ group.2, (s, group.1) ∉ d.graph.flows ∧
      (s ∈ r.order → ∀ b, (s, b) ∉ d.graph.flows) := by
    intro s hs
    obtain ⟨hst, hmergeable⟩ := (mem_mergeGroups hgroup).mp hs
    have hfate := h.hasFate hst
    rwa [hmergeable] at hfate
  exact
    { target_mem := htarget
      entered := h.entered _ htarget
      nodup := by
        refine nodup_of_mem_groupInOrder hgroup ?_
        exact (nodup_distinct _).map Prod.swap_injective
      source_mem := fun s hs => (h.building.pending_source (hpending hs)).1
      source_ne_end := fun hs => (h.building.pending_source (hpending hs)).2.1 rfl
      target_notMem := fun hs => (h.building.pending_source (hpending hs)).2.2.1 rfl
      new := fun s hs => (hfate s hs).1
      free := fun s hs => (hfate s hs).2 }

section Resolved

variable (h : Complete r d) (h' : Stitched r.order (d.graph.mergeGroups d.pending)
  { d with pending := [], diagnostics := d.diagnostics ++ d.graph.dropReports d.pending } d')
include h h'

/-- Once the groups are stitched, a refused flow leads to its target or its loss is noted. -/
theorem Complete.leads_or_forgone (hst : (s, t) ∈ d.pending) :
    d'.graph.Leads s t ∨ Forgone d' s t := by
  have hfate := h.hasFate hst
  cases heq : d.graph.pendingFate (s, t) with
  | settled =>
      rw [heq] at hfate
      exact .inl (h'.progress.leads hfate)
  | dropped reason =>
      rw [heq] at hfate
      have hreport : reason ∈ d'.diagnostics := by
        rw [h'.diagnostics]
        exact List.mem_append_right _ (mem_dropReports.mpr ⟨_, hst, heq⟩)
      rcases hfate with rfl | rfl
      · exact .inr (.inl hreport)
      · exact .inr (.inr (.inl hreport))
  | mergeable =>
      obtain ⟨sources, hgroup, hs⟩ := exists_mem_mergeGroups hst heq
      exact (h'.merged _ hgroup s hs).imp_right fun hpassed => .inr (.inr hpassed)

theorem Complete.resolved : Resolved r.order d d' where
  sound := h'.sound
  rooted := by
    refine h'.rooted (fun hflow => h.fed (h.building.rooted hflow)) fun group hgroup s hs => ?_
    exact h.fed (h.building.pending_fed ((mem_mergeGroups hgroup).mp hs).1)
  reported := by
    intro report hreport
    rw [h'.diagnostics] at hreport
    refine (List.mem_append.mp hreport).imp_right fun hdropped => ?_
    -- a report that is new is the reason of a flow that was dropped
    obtain ⟨⟨s, t⟩, hst, hdrop⟩ := mem_dropReports.mp hdropped
    have hfate := h.hasFate hst
    rw [hdrop] at hfate
    exact ⟨s, t, hfate⟩
  leads := h'.progress.leads
  into := by
    intro u v hv hnone
    refine (h'.into hv fun hkey => ?_).mp
    obtain ⟨group, hgroup, rfl⟩ := List.mem_map.mp hkey
    obtain ⟨s, hs⟩ := exists_source_of_mem_mergeGroups hgroup
    exact hnone s ((mem_mergeGroups hgroup).mp hs).1
  log_subset := h'.progress.log
  settled := h.leads_or_forgone h'
  noted := by
    intro entry hentry
    refine (h'.noted entry hentry).imp_right ?_
    rintro ⟨group, hgroup, s, hs, hstep, hpassed⟩
    refine ⟨s, group.1, ((mem_mergeGroups hgroup).mp hs).1, hstep, hpassed.sound, hpassed.behind,
      ?_, hpassed.leads⟩
    exact ⟨hpassed.progress.nodes, hpassed.progress.leads, hpassed.progress.fixed,
      List.Subset.refl _, List.Subset.refl _, List.Subset.refl _⟩

end Resolved

theorem yields_resolvePending (h : Complete plan.relations d) :
    Yields (resolvePending plan) d fun _ d' => Resolved plan.relations.order d d' := by
  simp only [resolvePending, yields_bind, yields_get]
  refine (yields_diagnoseAll _ fun reason => reason).mono fun _ d₁ hd₁ => ?_
  rw [List.map_id'] at hd₁
  subst hd₁
  simp only [yields_modify]
  have hdisjoint : ∀ group ∈ d.graph.mergeGroups d.pending,
      ∀ other ∈ d.graph.mergeGroups d.pending, ∀ s ∈ plan.relations.order,
        s ∈ group.2 → s ∈ other.2 → group.1 = other.1 := by
    intro group hgroup other hother s hname hs hs'
    exact h.building.pending_unique hname ((mem_mergeGroups hgroup).mp hs).1
      ((mem_mergeGroups hother).mp hs').1
  exact (yields_mergeAll (d := { d with
    pending := [], diagnostics := d.diagnostics ++ d.graph.dropReports d.pending })
    h.building.sound (nodup_keys_groupInOrder _) (fun group hgroup => h.mergeable hgroup)
    hdisjoint).mono fun _ d' h' => h.resolved h'

end ActivityMatrix.Drafting
