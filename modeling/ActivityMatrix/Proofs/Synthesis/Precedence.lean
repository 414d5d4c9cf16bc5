import ActivityMatrix.Proofs.Synthesis.Outcome

/-!
# Precedences in the graph

A precedence of the matrix is a chain of direct ones, and each of these is a path of the graph
unless the flow into its later activity was lost (`FlowLost`): it was dropped because its source was
taken or its target led back, or a merge passed it over because earlier merges had put its source
behind its target. So an earlier activity leads to a later one, and is not led to by it, as long as
no flow into an activity on the way was lost (`leads_of_precedes`). Drops are reported, but nothing
is said about a flow that is passed over. A result without reports therefore shows all precedences
exactly if no flow but those of joins was passed over (`precedences_shown_iff`), and otherwise it turns one
of them around.
-/

namespace ActivityMatrix

open ProcessGraph ActivityMatrix.Digraph

namespace Drafting

variable {r : RelationSets} {d : Draft} {a b : String}

/-- A precedence is a path if no flow into an activity on the way is lost. -/
theorem Drawn.leads (h : Drawn r d) (hr : r.Drawable) (hab : Leads r.edges a b)
    (hkept : ∀ s y, Leads r.edges a y → (y = b ∨ Leads r.edges y b) →
      ¬ FlowLost d.diagnostics d.log s y) : d.graph.Leads a b := by
  -- along the precedences: every activity leads to its direct successor on the way
  induction a using hr.acyclic.wellFounded_swap.induction with
  | _ a ih =>
      obtain ⟨c, hac, hcb⟩ := RelationSets.exists_directSuccessor hr.acyclic hab
      have hedge := hac.mem_edges
      have hfirst : d.graph.Leads a c := by
        refine (h.direct hac).resolve_right ?_
        rintro ⟨s, hlost⟩
        exact hkept s c (.single hedge) hcb hlost
      rcases hcb with rfl | hcb
      · exact hfirst
      · refine hfirst.trans (ih c hedge hcb fun s y hcy hyb => ?_)
        exact hkept s y (.head hedge hcy) hyb

end Drafting

namespace Synthesis

open Drafting

variable {m : Matrix} {allowed : Option (List String)} {order : List String}
  {options : SynthesisOptions} {relations : RelationSets} {result : SynthesisResult} {a b : String}

theorem Run.leads_chains_iff (run : Run m allowed order options relations result) :
    Leads relations.edges a b ↔ Leads relations.chains a b := by
  constructor <;> refine fun hab => hab.lift fun s t hst => .single ?_
  · exact run.mem_edges_iff.mp hst
  · exact run.mem_edges_iff.mpr hst

theorem Run.acyclic (run : Run m allowed order options relations result) :
    Acyclic result.graph.flows := by
  obtain ⟨d, hd, hgraph, -, -⟩ := run.exists_finished
  rw [hgraph]
  exact hd.drawn.sound.acyclic

theorem Run.chains_eq (run : Run m allowed order options relations result) :
    relations.chains = m.precedenceEdges := by
  rw [run.relations_eq, RelationSets.chains_ofMatrixWithOrder]

/-- No flow was passed over. -/
def nonePassedOver (log : List LogEntry) : Bool :=
  log.all fun entry => match entry.step with
    | .passedOver .. => false
    | _ => true

theorem notMem_of_nonePassedOver {log : List LogEntry} (h : nonePassedOver log = true)
    {s t : String} {g : ProcessGraph} : (⟨.passedOver s t, g⟩ : LogEntry) ∉ log :=
  fun hmem => Bool.false_ne_true (List.all_eq_true.mp h _ hmem)

/-! ## Precedences are not turned around -/

theorem Run.leads_of_not_lost (run : Run m allowed order options relations result)
    (hab : Leads relations.chains a b)
    (hkept : ∀ s y, Leads relations.chains a y → (y = b ∨ Leads relations.chains y b) →
      ¬ FlowLost result.diagnostics result.log s y) : result.graph.Leads a b := by
  obtain ⟨d, hd, hgraph, hdiagnostics, hlog⟩ := run.exists_finished
  rw [hdiagnostics, hlog] at hkept
  rw [hgraph]
  refine hd.drawn.leads run.drawable (run.leads_chains_iff.mpr hab) fun s y hay hyb => ?_
  exact hkept s y (run.leads_chains_iff.mp hay) (hyb.imp_right run.leads_chains_iff.mp)

/-- A flow that is passed over, other than that of a join, turns a precedence around. -/
theorem Run.reversed (run : Run m allowed order options relations result) {s t : String}
    {g : ProcessGraph} (hg : ⟨.passedOver s t, g⟩ ∈ result.log) (hsource : g.isJoin s = false) :
    ∃ a, (a, t) ∈ relations.chains ∧ result.graph.Leads t a := by
  obtain ⟨d, hd, hgraph, -, hlog⟩ := run.exists_finished
  obtain ⟨a, hat, hta⟩ := hd.drawn.reversed (hlog ▸ hg) hsource
  rw [hgraph]
  exact ⟨a, run.mem_edges_iff.mp (hat.mem_edges), hta⟩

/-- **Precedences are not turned around.** An earlier activity leads to a later one and is not led to
by it, unless a flow into an activity on the way was lost. -/
theorem leads_of_precedes (run : Run m allowed order options relations result)
    (hab : Leads relations.chains a b)
    (hkept : ∀ s y, Leads relations.chains a y → (y = b ∨ Leads relations.chains y b) →
      ¬ FlowLost result.diagnostics result.log s y) :
    result.graph.Leads a b ∧ ¬ result.graph.Leads b a := by
  have hpath := run.leads_of_not_lost hab hkept
  exact ⟨hpath, run.acyclic.asymm hpath⟩

/-- A flow that is lost may turn its precedence around. -/
theorem reversed_crossing :
    ∃ relations result, Run crossing none crossingOrder {} relations result ∧
      Leads relations.chains "g" "j" ∧ result.graph.Leads "j" "g" ∧
      result.diagnostics = [.leadsBack "g" "j"] := by
  obtain ⟨relations, result, run⟩ := exists_run validate_crossing (by decide) (by decide) {}
  have hanswer := run.of_answers (fun result =>
    result.graph.canReach "j" "g" && result.diagnostics == [.leadsBack "g" "j"]) (by decide +kernel)
  rw [Bool.and_eq_true, beq_iff_eq] at hanswer
  have hchain : ("g", "j") ∈ relations.chains := by
    rw [run.chains_eq]
    decide +kernel
  exact ⟨relations, result, run, .single hchain, (canReach_iff.mp hanswer.1).2, hanswer.2⟩

theorem leads_of_precedes_crossing :
    ∃ relations result, Run crossing none crossingOrder {} relations result ∧
      Leads relations.chains "d" "g" ∧
      (∀ s y, Leads relations.chains "d" y → (y = "g" ∨ Leads relations.chains y "g") →
        ¬ FlowLost result.diagnostics result.log s y) ∧
      (result.graph.Leads "d" "g" ∧ ¬ result.graph.Leads "g" "d") := by
  obtain ⟨relations, result, run⟩ := exists_run validate_crossing (by decide) (by decide) {}
  have hanswer := run.of_answers (fun result =>
    result.diagnostics == [.leadsBack "g" "j"] && nonePassedOver result.log) (by decide +kernel)
  rw [Bool.and_eq_true, beq_iff_eq] at hanswer
  have hchains : relations.chains = crossing.precedenceEdges := run.chains_eq
  have hab : Leads relations.chains "d" "g" := by
    rw [hchains]
    exact (canReach_iff.mp (by decide +kernel)).2
  have hkept : ∀ s y, Leads relations.chains "d" y → (y = "g" ∨ Leads relations.chains y "g") →
      ¬ FlowLost result.diagnostics result.log s y := by
    -- the only flow that is lost leads into an activity that does not precede the later one
    intro s y _ hyb hlost
    obtain ⟨-, rfl⟩ : s = "g" ∧ y = "j" := by
      simpa [FlowLost, hanswer.1, notMem_of_nonePassedOver hanswer.2] using hlost
    rw [hchains] at hyb
    rcases hyb with heq | hback
    · exact absurd heq (by decide)
    · have hreach : canReach crossing.precedenceEdges "j" "g" = true :=
        canReach_iff.mpr ⟨by decide, hback⟩
      exact absurd hreach (by decide +kernel)
  exact ⟨relations, result, run, hab, hkept, leads_of_precedes run hab hkept⟩

/-! ## Complete results -/

/-- **What a result without reports shows.** It shows all precedences exactly if no flow was passed
over but those of joins, and exactly if it turns none of them around. -/
theorem precedences_shown_iff (run : Run m allowed order options relations result)
    (hcomplete : result.isComplete = true) :
    ((∀ a b, (a, b) ∈ relations.chains → result.graph.Leads a b) ↔
        ∀ s t g, ⟨.passedOver s t, g⟩ ∈ result.log → g.isJoin s = true) ∧
      ((∀ a b, (a, b) ∈ relations.chains → result.graph.Leads a b) ↔
        ∀ a b, (a, b) ∈ relations.chains → ¬ result.graph.Leads b a) := by
  have hreports : result.diagnostics = [] := List.isEmpty_iff.mp hcomplete
  -- without reports a precedence can only be lost by passing over
  have hforth : (∀ s t g, ⟨.passedOver s t, g⟩ ∈ result.log → g.isJoin s = true) →
      ∀ a b, (a, b) ∈ relations.chains → result.graph.Leads a b := by
    intro hjoins a b hab
    refine (run.leads_of_not_lost (.single hab) fun s y _ _ hlost => ?_)
    rcases hlost with htaken | hback | ⟨g, hg, hsource⟩
    · exact absurd (hreports ▸ htaken) List.not_mem_nil
    · exact absurd (hreports ▸ hback) List.not_mem_nil
    · rw [hjoins s y g hg] at hsource
      exact absurd hsource (by decide)
  have hback : (∀ a b, (a, b) ∈ relations.chains → ¬ result.graph.Leads b a) →
      ∀ s t g, ⟨.passedOver s t, g⟩ ∈ result.log → g.isJoin s = true := by
    intro hkept s t g hg
    by_contra hsource
    obtain ⟨a, hat, hta⟩ := run.reversed hg (Bool.not_eq_true _ ▸ hsource)
    exact hkept a t hat hta
  have hforward : (∀ a b, (a, b) ∈ relations.chains → result.graph.Leads a b) →
      ∀ a b, (a, b) ∈ relations.chains → ¬ result.graph.Leads b a :=
    fun hshown a b hab => run.acyclic.asymm (hshown a b hab)
  exact ⟨⟨fun h => hback (hforward h), hforth⟩, ⟨hforward, fun h => hforth (hback h)⟩⟩

/-- Eleven activities. The flow from one of them to another is passed over, since an earlier merge
has led the other one back to it. -/
def overtaking : Matrix :=
  .ofPrecedences ["e", "h", "i", "j", "l", "d", "c", "u", "k", "a", "n"]
    [("e", "j"), ("e", "k"), ("h", "i"), ("h", "l"), ("j", "a"), ("j", "n"), ("k", "a"),
      ("k", "n"), ("l", "d"), ("l", "c"), ("j", "d"), ("c", "u"), ("u", "k"), ("i", "u")]

def overtakingOrder : List String := ["e", "h", "i", "j", "l", "c", "d", "u", "k", "a", "n"]

theorem validate_overtaking : overtaking.validate none = .ok overtakingOrder :=
  eq_ok_of_toOption (by decide +kernel)

theorem precedences_shown_iff_overtaking :
    ∃ relations result, Run overtaking none overtakingOrder {} relations result ∧
      result.isComplete = true ∧
      (((∀ a b, (a, b) ∈ relations.chains → result.graph.Leads a b) ↔
          ∀ s t g, ⟨.passedOver s t, g⟩ ∈ result.log → g.isJoin s = true) ∧
        ((∀ a b, (a, b) ∈ relations.chains → result.graph.Leads a b) ↔
          ∀ a b, (a, b) ∈ relations.chains → ¬ result.graph.Leads b a)) ∧
      ("u", "k") ∈ relations.chains ∧ result.graph.Leads "k" "u" := by
  obtain ⟨relations, result, run⟩ := exists_run validate_overtaking (by decide) (by decide) {}
  have hanswer := run.of_answers (fun result =>
    result.isComplete && result.graph.canReach "k" "u") (by decide +kernel)
  rw [Bool.and_eq_true] at hanswer
  have hchain : ("u", "k") ∈ relations.chains := by
    rw [run.chains_eq]
    decide +kernel
  exact ⟨relations, result, run, hanswer.1, precedences_shown_iff run hanswer.1, hchain,
    (canReach_iff.mp hanswer.2).2⟩

end Synthesis

end ActivityMatrix
