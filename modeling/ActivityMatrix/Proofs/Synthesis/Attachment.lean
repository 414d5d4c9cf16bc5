import ActivityMatrix.Proofs.Synthesis.Outcome

/-!
# The expansion attaches every activity

Two phases of a run are there for what the expansion leaves over: activities without a flow in, and
nodes without one after the stitching. They never have anything to do. When every activity has been
expanded, each has exactly one flow in (`Complete.length_incoming`), and the splits and joins that
the stitching and the cleanup leave are entered from somewhere. So no split is ever blocked by a flow
that leaves its source already, and no activity is left without an anchor or detached from the rest:
all that a run reports are ends of branches behind their meeting point and refused flows that it
drops (`expansion_attaches_all`).
-/

namespace ActivityMatrix

open ProcessGraph

/-! ## What a run reports -/

/-- The codes of the reports on activities that could not be attached as intended. -/
def attachmentCodes : List String := ["BLOCKED_SPLIT", "NO_ANCHOR", "DETACHED"]

theorem Diagnostic.IsBehindPoint.code_eq {report : Diagnostic} (h : report.IsBehindPoint) :
    report.code = "BLOCKED_FLOW" := by
  obtain ⟨exit, point, rfl⟩ := h
  rfl

theorem Drafting.IsDropped.code_eq {report : Diagnostic} (h : Drafting.IsDropped report) :
    report.code = "UNRESOLVED_FLOW" := by
  obtain ⟨s, t, rfl | rfl⟩ := h <;> rfl

namespace Drafting

variable {r : RelationSets} {d : Draft} {a : String} {report : Diagnostic}

/-- A run never says that an activity could not be attached. -/
theorem Drawn.code_notMem (h : Drawn r d) (hreport : report ∈ d.diagnostics) :
    report.code ∉ attachmentCodes := by
  rcases h.reports report hreport with hbehind | hdropped
  · rw [hbehind.code_eq]
    decide
  · rw [hdropped.code_eq]
    decide

/-- When everything is expanded, every activity has exactly one flow in. -/
theorem Complete.length_incoming (h : Complete r d) (ha : a ∈ r.order) :
    (d.graph.incoming a).length = 1 := by
  obtain ⟨u, hu⟩ := h.entered a ha
  have hle : (d.graph.incoming a).length ≤ 1 :=
    length_incoming_le_one h.building.sound.flows_nodup
      fun v hv => h.building.sound.single_in ha hv hu
  have hpos : 0 < (d.graph.incoming a).length := List.length_pos_of_mem (mem_incoming.mpr hu)
  omega

end Drafting

/-! ## Nothing is left to attach -/

namespace Synthesis

open Drafting

variable {m : Matrix} {allowed : Option (List String)} {order : List String}

/-- **Expansion alone attaches every activity.** When every activity has been expanded, each has
exactly one flow in. The phases that attach activities left over and open heads change nothing, and
no report says that an activity could not be attached. -/
theorem expansion_attaches_all (hvalid : m.validate allowed = .ok order)
    (hstart : startEventId ∉ order) (hend : endEventId ∉ order) (options : SynthesisOptions) :
    ∃ relations result, Run m allowed order options relations result ∧
      ∃ plan expanded stitched final, plan = ⟨relations, result.levels, options⟩ ∧
        (expansionPhases plan).run blankDraft = .ok () expanded ∧
        (∀ a ∈ order, a ∈ expanded.processed ∧ (expanded.graph.incoming a).length = 1) ∧
        (attachOrphans plan).run expanded = .ok () expanded ∧
        (stitchingPhases plan).run expanded = .ok () stitched ∧
        (attachHeads plan).run stitched = .ok () stitched ∧
        (closingPhases plan).run stitched = .ok () final ∧
        result = ⟨final.graph.freeze, final.diagnostics, result.levels, final.log⟩ ∧
        ∀ report ∈ result.diagnostics, report.code ∉ attachmentCodes := by
  obtain ⟨relations, result, run⟩ := exists_run hvalid hstart hend options
  obtain ⟨expanded, stitched, final, hstages, hresult⟩ := run.exists_stages
  refine ⟨relations, result, run, _, expanded, stitched, final, rfl, hstages.expansion, ?_,
    hstages.orphans, hstages.stitching, hstages.heads, hstages.closing, hresult, ?_⟩
  · intro a ha
    rw [← run.order_eq] at ha
    exact ⟨hstages.complete.processed a ha, hstages.complete.length_incoming ha⟩
  · intro report hreport
    rw [hresult] at hreport
    exact hstages.finished.drawn.code_notMem hreport

theorem expansion_attaches_all_crossing :
    crossing.validate none = .ok crossingOrder ∧ startEventId ∉ crossingOrder ∧
      endEventId ∉ crossingOrder ∧
      ∃ relations result, Run crossing none crossingOrder {} relations result ∧
        ∃ plan expanded stitched final, plan = ⟨relations, result.levels, {}⟩ ∧
          (expansionPhases plan).run blankDraft = .ok () expanded ∧
          (∀ a ∈ crossingOrder,
            a ∈ expanded.processed ∧ (expanded.graph.incoming a).length = 1) ∧
          (attachOrphans plan).run expanded = .ok () expanded ∧
          (stitchingPhases plan).run expanded = .ok () stitched ∧
          (attachHeads plan).run stitched = .ok () stitched ∧
          (closingPhases plan).run stitched = .ok () final ∧
          result = ⟨final.graph.freeze, final.diagnostics, result.levels, final.log⟩ ∧
          ∀ report ∈ result.diagnostics, report.code ∉ attachmentCodes :=
  ⟨validate_crossing, by decide, by decide,
    expansion_attaches_all validate_crossing (by decide) (by decide) {}⟩

end Synthesis

end ActivityMatrix
