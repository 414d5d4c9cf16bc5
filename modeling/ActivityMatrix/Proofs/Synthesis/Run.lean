import ActivityMatrix.Synthesis
import ActivityMatrix.Proofs.Synthesis.Ends
import ActivityMatrix.Proofs.Synthesis.Stitching

/-!
# Whole runs

A run takes the phases one after the other. Up to the stitching the invariant of the expansion
holds; from the stitching on every direct precedence is a path or its flow is lost on record, the
activities that start the process are foremost, and the phases that follow keep that (`Drawn`). At
the end the graph is connected and no gateway needs a repair. The two phases that attach what is
left over find nothing to do: the expansion has entered every activity, and after the stitching
every gateway is entered, too (`exists_stages`).

`Synthesis.Run` is a run from a matrix to a result: the matrix is valid, its relations are
classified, and the synthesis of the relations yields the result. Every run ends in a finished
draft (`Synthesis.Run.exists_finished`), and every valid matrix that names no activity like an
event has a run under all options (`Synthesis.exists_run`).
-/

namespace ActivityMatrix

open ProcessGraph ActivityMatrix.Digraph

/-- It is on record that a flow was lost: the flow was dropped and that was reported, or it was
passed over and came from an activity or a split. -/
def FlowLost (diagnostics : List Diagnostic) (log : List LogEntry) (s t : String) : Prop :=
  .sourceTaken s t ∈ diagnostics ∨ .leadsBack s t ∈ diagnostics ∨
    ∃ g, ⟨.passedOver s t, g⟩ ∈ log ∧ g.isJoin s = false

theorem FlowLost.mono {diagnostics diagnostics' : List Diagnostic} {log log' : List LogEntry}
    {s t : String} (h : FlowLost diagnostics log s t) (hdiagnostics : diagnostics ⊆ diagnostics')
    (hlog : log ⊆ log') : FlowLost diagnostics' log' s t := by
  rcases h with h | h | ⟨g, hg, hjoin⟩
  · exact .inl (hdiagnostics h)
  · exact .inr (.inl (hdiagnostics h))
  · exact .inr (.inr ⟨g, hlog hg, hjoin⟩)

theorem ProcessGraph.Sound.isJoin_eq_false {names : List String} {g : ProcessGraph} {a s : String}
    (h : g.Sound names) (ha : a ∈ names) (hs : g.Stems a s) : g.isJoin s = false := by
  rw [← Bool.not_eq_true]
  intro hjoin
  cases hs with
  | self => exact h.notMem_names_of_isJoin hjoin ha
  | split hsplit =>
      obtain ⟨node, hnode, rfl, hrole⟩ := hsplit
      obtain ⟨other, hother, hid, hrole'⟩ := h.isJoin_iff.mp hjoin
      obtain rfl := List.inj_on_of_nodup_map h.ids_nodup hother hnode hid
      rw [Node.not_isJoin_of_isSplit hrole] at hrole'
      exact absurd hrole' (by decide)

namespace Drafting

variable {plan : SynthesisPlan} {r : RelationSets} {d d' : Draft} {a b s t : String}

/-! ## What the late phases keep -/

/-- What holds of a draft after the refused flows are merged: every direct precedence is a path
unless a flow into its later activity is lost, a flow that is passed over without being that of
a join turns a direct precedence around, the activities that start the process are foremost, and every
join in front of a meeting point left what it should. -/
structure Drawn (r : RelationSets) (d : Draft) : Prop where
  sound : d.graph.Sound r.order
  paths : ∀ entry ∈ d.log,
    KeepsPaths (startEventId :: endEventId :: r.order) entry.graph d.graph
  joins : ∀ {before branches point join exits pending after},
    ⟨.joined before branches point join exits pending, after⟩ ∈ d.log →
      Joins before after branches point join exits pending
  reports : ∀ report ∈ d.diagnostics, report.IsBehindPoint ∨ IsDropped report
  direct : ∀ {a b}, r.Direct a b → d.graph.Leads a b ∨ ∃ s, FlowLost d.diagnostics d.log s b
  reversed : ∀ {s t g}, ⟨.passedOver s t, g⟩ ∈ d.log → g.isJoin s = false →
    ∃ a, r.Direct a t ∧ d.graph.Leads t a
  foremost : ∀ a ∈ r.startActivities, d.graph.Foremost r.order a

/-- No refused flow is merged into an activity that starts the process, nor before it. -/
theorem Complete.foremost (h : Complete r d) (hd : Resolved r.order d d')
    (ha : a ∈ r.startActivities) : d'.graph.Foremost r.order a := by
  have hname := (RelationSets.mem_startActivities.mp ha).1
  have hfirst := foremost_of_stems h.building.sound hname
    fun u hu => h.building.first_entered hu ha
  refine hfirst.of_into h.building.sound hname fun u v hv _ hother => hd.into hv fun s hsv => ?_
  obtain rfl := hother (h.building.pending_target hsv)
  exact h.building.pending_later hsv ha

theorem Complete.drawn (h : Complete r d) (hr : r.Drawable) (hd : Resolved r.order d d') :
    Drawn r d' where
  sound := hd.sound
  paths := by
    intro entry hentry a _ b _ hab
    rcases hd.noted entry hentry with hold | ⟨s, t, -, -, hpassed⟩
    · exact hd.leads ((h.building.log entry hold).1 hab)
    · exact hpassed.leads hab
  joins hentry := by
    rcases hd.noted _ hentry with hold | ⟨s, t, -, hstep, -⟩
    · exact (h.building.log _ hold).2
    · cases hstep
  reports report hreport :=
    (hd.reported report hreport).imp_left (h.building.reports report)
  direct := by
    intro a b hab
    have ha := hr.source_mem hab.mem_edges
    have hclosed : a ∉ ({startEventId} : Set String) := by
      rintro rfl
      exact hr.start_notMem ha
    obtain ⟨-, hplaced⟩ := h.building.closed (h.processed a ha) hclosed hab
    -- the successor is led to already, or a flow to it is pending and finds its fate now
    rcases hplaced.accounted with hpath | ⟨s, hs, hsb⟩
    · exact .inl (hd.leads hpath)
    · rcases hd.settled hsb with hpath | htaken | hback | ⟨g, hg⟩
      · exact .inl (leads_or_eq_trans (hs.leads.imp_right hd.leads) hpath)
      · exact .inr ⟨s, .inl htaken⟩
      · exact .inr ⟨s, .inr (.inl hback)⟩
      · rcases hd.noted _ hg with hold | ⟨s', t', -, hstep, hpassed⟩
        · exact (h.building.log _ hold).2.elim
        · have hstems := hpassed.progress.stems hs
          exact .inr ⟨s, .inr (.inr ⟨g, hg, hpassed.sound.isJoin_eq_false ha hstems⟩)⟩
  reversed := by
    intro s t g hg hjoin
    rcases hd.noted _ hg with hold | ⟨s', t', hst, hstep, hpassed⟩
    · exact (h.building.log _ hold).2.elim
    · obtain ⟨rfl, rfl⟩ : s = s' ∧ t = t' := by simpa using hstep
      have ht := h.building.pending_target hst
      rcases (h.building.pending_origin hst).progress hpassed.progress with hjoin' | ⟨a, hs, ha⟩
      · rw [hpassed.sound.isJoin_iff.mpr hjoin'] at hjoin
        exact absurd hjoin (by decide)
      · -- the source stems from a node that the target follows, so the target leads to that node
        have hback := hs.leads_back hpassed.sound ht hpassed.behind
        rcases ha with rfl | hat
        · rcases hback with rfl | hback
          · exact absurd ht hr.start_notMem
          · obtain ⟨u, -, hu⟩ := hback.exists_last
            exact absurd hu (hpassed.sound.into_start u)
        · rcases hback with rfl | hback
          · exact absurd (.single hat.mem_edges) (hr.acyclic t)
          · exact ⟨a, hat, hpassed.leads hback⟩
  foremost _ := h.foremost hd

theorem Drawn.keeps (h : Drawn r d) (hr : r.Drawable) (hd : Keeps r.order d d')
    (hforemost : ∀ a ∈ r.startActivities, d'.graph.Foremost r.order a) : Drawn r d' where
  sound := hd.sound
  paths entry hentry := (h.paths entry (hd.log ▸ hentry)).trans hd.paths
  joins hentry := h.joins (hd.log ▸ hentry)
  reports := hd.diagnostics ▸ h.reports
  direct := by
    intro a b hab
    have hedge := hab.mem_edges
    refine (h.direct hab).imp (hd.paths a ?_ b ?_) fun ⟨s, hs⟩ => ⟨s, ?_⟩
    · simp [hr.source_mem hedge]
    · simp [hr.target_mem hedge]
    · exact hs.mono (hd.diagnostics ▸ List.Subset.refl _) (hd.log ▸ List.Subset.refl _)
  reversed := by
    intro s t g hg hjoin
    obtain ⟨a, hat, hback⟩ := h.reversed (hd.log ▸ hg) hjoin
    have hedge := hat.mem_edges
    refine ⟨a, hat, hd.paths t ?_ a ?_ hback⟩
    · simp [hr.target_mem hedge]
    · simp [hr.source_mem hedge]
  foremost := hforemost

/-- A cleanup keeps what was drawn. -/
theorem Drawn.repairs (h : Drawn r d) (hr : r.Drawable) (hd : Repairs r.order d d') : Drawn r d' := by
  refine h.keeps hr hd.keeps fun a ha => ?_
  have hname := (RelationSets.mem_startActivities.mp ha).1
  have hfirst := h.foremost a ha
  exact ⟨fun b hb hba => hfirst.unpreceded b hb (hd.faithful b hb a hname hba),
    hd.unjoined a hname hfirst.unjoined⟩

theorem Drawn.record (h : Drawn r d) (step : SynthesisStep)
    (hstep : Expands d.graph step) :
    Drawn r { d with log := d.log ++ [⟨step, d.graph⟩] } where
  sound := h.sound
  paths := by
    intro entry hentry
    rcases List.mem_append.mp hentry with hentry | hentry
    · exact h.paths entry hentry
    · rw [List.mem_singleton.mp hentry]
      exact .refl _ _
  joins hentry := by
    rcases List.mem_append.mp hentry with hentry | hentry
    · exact h.joins hentry
    · obtain ⟨rfl, rfl⟩ := LogEntry.mk.inj (List.mem_singleton.mp hentry)
      exact hstep
  reports := h.reports
  direct hab := (h.direct hab).imp_right fun ⟨s, hs⟩ =>
    ⟨s, hs.mono (List.Subset.refl _) (List.subset_append_left _ _)⟩
  reversed := by
    intro s t g hg hjoin
    rcases List.mem_append.mp hg with hg | hg
    · exact h.reversed hg hjoin
    · obtain ⟨rfl, -⟩ := LogEntry.mk.inj (List.mem_singleton.mp hg)
      exact hstep.elim
  foremost := h.foremost

/-! ## All phases -/

/-- The steps that every run takes. -/
def steps (order : List String) : List SynthesisStep :=
  .started :: (order.map .expanded ++
    [.orphansAttached, .pendingResolved, .cleanedUp, .headsAttached, .endSynthesized])

/-- Some steps are in the log. -/
def Logged (steps : List SynthesisStep) (d : Draft) : Prop :=
  ∀ step ∈ steps, ∃ g, ⟨step, g⟩ ∈ d.log

theorem Logged.mono {steps : List SynthesisStep} (h : Logged steps d) (hlog : d.log ⊆ d'.log) :
    Logged steps d' := by
  intro step hstep
  obtain ⟨g, hg⟩ := h step hstep
  exact ⟨g, hlog hg⟩

theorem Logged.record {steps : List SynthesisStep} (h : Logged steps d) (step : SynthesisStep) :
    Logged (step :: steps) { d with log := d.log ++ [⟨step, d.graph⟩] } := by
  intro other hother
  rcases List.mem_cons.mp hother with rfl | hother
  · exact ⟨d.graph, List.mem_append_right _ (.head _)⟩
  · obtain ⟨g, hg⟩ := h other hother
    exact ⟨g, List.mem_append_left _ hg⟩

theorem Logged.keeps {steps : List SynthesisStep} {names : List String} (h : Logged steps d)
    (hd : Keeps names d d') : Logged steps d' :=
  h.mono (hd.log ▸ List.Subset.refl _)

/-- What a run leaves. -/
structure Finished (r : RelationSets) (d : Draft) : Prop where
  drawn : Drawn r d
  connected : d.graph.Connected
  repaired : d.graph.nextRepair? = none
  logged : Logged (steps r.order) d

/-- The phases up to the expansion of every activity. -/
def expansionPhases (plan : SynthesisPlan) : Drafting Unit := do
  addNodes plan
  synthesizeStart plan
  record .started
  expandAll plan

/-- The phases from the activities left over to the first cleanup. -/
def stitchingPhases (plan : SynthesisPlan) : Drafting Unit := do
  record .orphansAttached
  resolvePending plan
  record .pendingResolved
  cleanup
  record .cleanedUp

/-- The phases from the heads on. -/
def closingPhases (plan : SynthesisPlan) : Drafting Unit := do
  record .headsAttached
  synthesizeEnd plan
  record .endSynthesized
  cleanup
  record .cleanedUp

theorem phases_eq (plan : SynthesisPlan) : Synthesis.phases plan = (do
    expansionPhases plan
    attachOrphans plan
    stitchingPhases plan
    attachHeads plan
    closingPhases plan) := by
  simp only [Synthesis.phases, expansionPhases, stitchingPhases, closingPhases, bind_assoc]

/-- Every activity is expanded and entered. -/
theorem yields_expansionPhases (hr : plan.relations.Drawable) :
    Yields (expansionPhases plan) Synthesis.blankDraft fun _ d => Complete plan.relations d ∧
      Logged (.started :: plan.relations.order.map .expanded) d := by
  simp only [expansionPhases, yields_bind, yields_record]
  refine (yields_addNodes hr).mono fun _ d₁ h₁ => ?_
  subst h₁
  refine (yields_synthesizeStart hr (building_nodesOnly hr) rfl).mono fun _ d₂ h₂ => ?_
  refine (yields_expandAll hr (h₂.record .started trivial)).mono fun _ d₃ h₃ => ?_
  obtain ⟨hcomplete, hlog, hexpanded⟩ := h₃
  refine ⟨hcomplete, fun step hstep => ?_⟩
  rcases List.mem_cons.mp hstep with rfl | hstep
  · exact ⟨d₂.graph, hlog (List.mem_append_right _ (.head _))⟩
  · obtain ⟨a, ha, rfl⟩ := List.mem_map.mp hstep
    exact hexpanded a ha

/-- The refused flows are merged or lost on record, and every node between the events is entered. -/
theorem yields_stitchingPhases (hr : plan.relations.Drawable) {logged : List SynthesisStep}
    (h : Complete plan.relations d) (hlogged : Logged logged d) :
    Yields (stitchingPhases plan) d fun _ d' => Drawn plan.relations d' ∧ Entered d'.graph ∧
      Logged (.cleanedUp :: .pendingResolved :: .orphansAttached :: logged) d' := by
  simp only [stitchingPhases, yields_bind, yields_record]
  have hcomplete := h.record .orphansAttached trivial
  refine (yields_resolvePending hcomplete).mono fun _ d₁ h₁ => ?_
  have hdrawn₁ := (hcomplete.drawn hr h₁).record .pendingResolved trivial
  have hlogged₁ := ((hlogged.record .orphansAttached).mono h₁.log_subset).record .pendingResolved
  refine (yields_cleanup_repairs hdrawn₁.sound).mono fun _ d₂ h₂ => ?_
  refine ⟨(hdrawn₁.repairs hr h₂.1).record .cleanedUp trivial, ?_,
    (hlogged₁.keeps h₂.1.keeps).record .cleanedUp⟩
  refine entered_of_rooted h₂.1.sound (h₂.1.rooted h₁.rooted) (fun a ha => ?_) h₂.2
  -- an activity that is entered lies behind the start event, and paths between the two stay
  obtain ⟨u, hu⟩ := entered_of_leads h₁.leads (h.entered a ha)
  have hwalk := leads_from_start_of_rooted h₁.sound h₁.rooted hu
  obtain ⟨v, -, hv⟩ := (h₂.1.paths _ (.head _) a (by simp [ha]) hwalk).exists_last
  exact ⟨v, hv⟩

/-- The graph is connected and its gateways are repaired. -/
theorem yields_closingPhases (hr : plan.relations.Drawable) {logged : List SynthesisStep}
    (h : Drawn plan.relations d) (hentered : Entered d.graph) (hlogged : Logged logged d) :
    Yields (closingPhases plan) d fun _ d' => Drawn plan.relations d' ∧ d'.graph.Connected ∧
      d'.graph.nextRepair? = none ∧
      Logged (.cleanedUp :: .endSynthesized :: .headsAttached :: logged) d' := by
  simp only [closingPhases, yields_bind, yields_record]
  have hdrawn₁ := h.record .headsAttached trivial
  have hlogged₁ := hlogged.record .headsAttached
  refine (yields_synthesizeEnd hdrawn₁.sound hentered).mono fun _ d₂ h₂ => ?_
  have hforemost : ∀ a ∈ plan.relations.startActivities,
      d₂.graph.Foremost plan.relations.order a := fun a ha =>
    (hdrawn₁.foremost a ha).of_into hdrawn₁.sound (RelationSets.mem_startActivities.mp ha).1
      fun u v hv hend _ => h₂.2.2 u v hv hend
  have hdrawn₂ := (hdrawn₁.keeps hr h₂.1 hforemost).record .endSynthesized trivial
  have hlogged₂ := (hlogged₁.keeps h₂.1).record .endSynthesized
  refine (yields_cleanup_repairs hdrawn₂.sound).mono fun _ d₃ h₃ => ?_
  have hdrawn₃ := (hdrawn₂.repairs hr h₃.1).record .cleanedUp trivial
  exact ⟨hdrawn₃, h₃.1.connected h₂.2.1, h₃.2, (hlogged₂.keeps h₃.1.keeps).record .cleanedUp⟩

/-- The drafts of a run between its phases, with what holds of them. The two phases that attach what
is left over change nothing. -/
structure Stages (plan : SynthesisPlan) (expanded stitched final : Draft) : Prop where
  expansion : (expansionPhases plan).run Synthesis.blankDraft = .ok () expanded
  orphans : (attachOrphans plan).run expanded = .ok () expanded
  stitching : (stitchingPhases plan).run expanded = .ok () stitched
  heads : (attachHeads plan).run stitched = .ok () stitched
  closing : (closingPhases plan).run stitched = .ok () final
  complete : Complete plan.relations expanded
  finished : Finished plan.relations final

/-- The stages make up a run of all phases. -/
theorem Stages.run {expanded stitched final : Draft} (h : Stages plan expanded stitched final) :
    (Synthesis.phases plan).run Synthesis.blankDraft = .ok () final := by
  rw [phases_eq, EStateM.run_bind, h.expansion]
  simp only [EStateM.run_bind, h.orphans, h.stitching, h.heads, h.closing]

theorem exists_stages (hr : plan.relations.Drawable) :
    ∃ expanded stitched final, Stages plan expanded stitched final := by
  obtain ⟨_, expanded, hexpansion, hcomplete, hlogged⟩ := (yields_expansionPhases hr).exists_result
  obtain ⟨_, _, horphans, rfl⟩ := (yields_attachOrphans hcomplete).exists_result
  obtain ⟨_, stitched, hstitching, hdrawn, hentered, hlogged'⟩ :=
    (yields_stitchingPhases hr hcomplete hlogged).exists_result
  obtain ⟨_, _, hheads, rfl⟩ := (yields_attachHeads_of_entered plan hentered).exists_result
  obtain ⟨_, final, hclosing, hfinal, hconnected, hrepaired, hlogged''⟩ :=
    (yields_closingPhases hr hdrawn hentered hlogged').exists_result
  refine ⟨_, _, final, hexpansion, horphans, hstitching, hheads, hclosing, hcomplete,
    hfinal, hconnected, hrepaired, fun step hstep => hlogged'' step ?_⟩
  simp only [steps, List.mem_cons, List.mem_append, List.not_mem_nil, or_false] at hstep ⊢
  tauto

end Drafting

/-! ## From a matrix to a result -/

namespace Synthesis

open Drafting

variable {m : Matrix} {allowed : Option (List String)} {order : List String}
  {options : SynthesisOptions} {relations : RelationSets} {result : SynthesisResult}

/-- A run of the synthesis on the relations of a valid matrix, none of whose activities is named
like an event. -/
structure Run (m : Matrix) (allowed : Option (List String)) (order : List String)
    (options : SynthesisOptions) (relations : RelationSets) (result : SynthesisResult) : Prop where
  valid : m.validate allowed = .ok order
  start_notMem : startEventId ∉ order
  end_notMem : endEventId ∉ order
  classified : RelationSets.ofMatrix m none = .ok relations
  synthesized : synthesize options relations = .ok result

theorem Run.relations_eq (run : Run m allowed order options relations result) :
    relations = RelationSets.ofMatrixWithOrder m order := by
  have heq := run.classified.symm.trans (RelationSets.ofMatrix_of_validate run.valid)
  exact Except.ok.inj heq

theorem Run.order_eq (run : Run m allowed order options relations result) :
    relations.order = order := by
  rw [run.relations_eq]
  rfl

theorem Run.drawable (run : Run m allowed order options relations result) :
    relations.Drawable := by
  rw [run.relations_eq]
  exact RelationSets.drawable_of_validate run.valid run.start_notMem run.end_notMem

/-- The precedences of a run are those that the matrix states. -/
theorem Run.mem_edges_iff (run : Run m allowed order options relations result) {a b : String} :
    (a, b) ∈ relations.edges ↔ (a, b) ∈ relations.chains := by
  rw [run.relations_eq, RelationSets.mem_edges_ofMatrixWithOrder,
    RelationSets.chains_ofMatrixWithOrder]

/-- A result is what is left of the draft after all phases. -/
theorem synthesize_of_run {levels : Levels} {d : Draft}
    (hlevels : Levels.compute options.levelStrategy relations.activities relations.chains =
      .ok levels)
    (hrun : (phases ⟨relations, levels, options⟩).run blankDraft = .ok () d) :
    synthesize options relations = .ok ⟨d.graph.freeze, d.diagnostics, levels, d.log⟩ := by
  have hplan : plan options relations = .ok ⟨relations, levels, options⟩ := by
    rw [plan, hlevels]
    rfl
  simp only [synthesize, hplan, Except.mapError, bind, Except.bind, hrun]
  rfl

/-- Drawable relations with levels have a result, which is what is left of the last draft. -/
theorem exists_result (hr : relations.Drawable) {levels : Levels}
    (hlevels : Levels.compute options.levelStrategy relations.activities relations.chains =
      .ok levels) :
    ∃ expanded stitched final, Stages ⟨relations, levels, options⟩ expanded stitched final ∧
      synthesize options relations =
        .ok ⟨final.graph.freeze, final.diagnostics, levels, final.log⟩ := by
  have hdrawable : (SynthesisPlan.mk relations levels options).relations.Drawable := hr
  obtain ⟨expanded, stitched, final, hstages⟩ := exists_stages hdrawable
  exact ⟨expanded, stitched, final, hstages, synthesize_of_run hlevels hstages.run⟩

theorem Run.exists_stages (run : Run m allowed order options relations result) :
    ∃ expanded stitched final,
      Stages ⟨relations, result.levels, options⟩ expanded stitched final ∧
        result = ⟨final.graph.freeze, final.diagnostics, result.levels, final.log⟩ := by
  obtain ⟨levels, hlevels⟩ :=
    RelationSets.exists_levels_of_validate run.valid options.levelStrategy
  rw [← run.relations_eq] at hlevels
  obtain ⟨expanded, stitched, final, hstages, hresult⟩ := exists_result run.drawable hlevels
  obtain rfl := Except.ok.inj (run.synthesized.symm.trans hresult)
  exact ⟨expanded, stitched, final, hstages, rfl⟩

theorem Run.exists_finished (run : Run m allowed order options relations result) :
    ∃ d, Finished relations d ∧ result.graph = d.graph.freeze ∧
      result.diagnostics = d.diagnostics ∧ result.log = d.log := by
  obtain ⟨_, _, d, hstages, hresult⟩ := run.exists_stages
  rw [hresult]
  exact ⟨d, hstages.finished, rfl, rfl, rfl⟩

/-- A valid matrix that names no activity like an event has a run under all options. -/
theorem exists_run (hvalid : m.validate allowed = .ok order) (hstart : startEventId ∉ order)
    (hend : endEventId ∉ order) (options : SynthesisOptions) :
    ∃ relations result, Run m allowed order options relations result := by
  obtain ⟨levels, hlevels⟩ := RelationSets.exists_levels_of_validate hvalid options.levelStrategy
  obtain ⟨_, _, d, -, hresult⟩ := exists_result
    (RelationSets.drawable_of_validate hvalid hstart hend) hlevels
  exact ⟨_, _, hvalid, hstart, hend, RelationSets.ofMatrix_of_validate hvalid, hresult⟩

/-! ## Asking a run -/

/-- Whether the synthesis of a matrix has a result of which something holds. -/
def answers (m : Matrix) (options : SynthesisOptions) (question : SynthesisResult → Bool) : Bool :=
  match RelationSets.ofMatrix m none with
  | .error _ => false
  | .ok relations =>
      match synthesize options relations with
      | .error _ => false
      | .ok result => question result

theorem Run.of_answers (run : Run m allowed order options relations result)
    (question : SynthesisResult → Bool) (h : answers m options question = true) :
    question result = true := by
  simpa only [answers, run.classified, run.synthesized] using h

end Synthesis

end ActivityMatrix
