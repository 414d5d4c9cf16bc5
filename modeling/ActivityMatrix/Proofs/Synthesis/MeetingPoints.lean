import ActivityMatrix.Proofs.Synthesis.Outcome

/-!
# Joins in front of meeting points

Where the branches of a split meet, their exits are led into a join. Flows are removed and added for one
exit after the other, and each of them could be refused; that none ever is, is what `Building` carries
through the expansion: an exit is a node without a flow out or one that feeds the meeting point, it does
not lie behind that point, and the join is new. So every exit feeds the join, and the point is entered from
the join alone, unless a flow from outside of the branches came first (`Joins`).

The log says of every join what its exits were and how the graph looked before and after, and the statement
is about all these entries.
-/

namespace ActivityMatrix.Synthesis

open Drafting

variable {m : Matrix} {allowed : Option (List String)} {order : List String}
  {options : SynthesisOptions} {relations : RelationSets} {result : SynthesisResult}

/-- No run reports a node that cannot feed a join. -/
theorem Run.cannotFeed_notMem (run : Run m allowed order options relations result)
    (exit gateway : String) : .cannotFeed exit gateway ∉ result.diagnostics := by
  obtain ⟨d, hd, -, hdiagnostics, -⟩ := run.exists_finished
  rw [hdiagnostics]
  intro hreport
  rcases hd.drawn.reports _ hreport with ⟨_, _, heq⟩ | ⟨_, _, heq | heq⟩ <;> cases heq

/-- **Exits meet in their join.** Every valid matrix that names no activity like an event has a run under
all options, and whenever the run puts a join in front of a meeting point, just the exits that were
collected enter the join; and then the join alone enters the point, or the point was entered from outside of
the branches, is so still, and the flow from the join to it is pending. -/
theorem exits_meet (hvalid : m.validate allowed = .ok order) (hstart : startEventId ∉ order)
    (hend : endEventId ∉ order) (options : SynthesisOptions) :
    ∃ relations result, Run m allowed order options relations result ∧
      (∀ before branches point join exits pending after,
        ⟨.joined before branches point join exits pending, after⟩ ∈ result.log →
          Joins before after branches point join exits pending) ∧
      ∀ exit gateway, .cannotFeed exit gateway ∉ result.diagnostics := by
  obtain ⟨relations, result, run⟩ := exists_run hvalid hstart hend options
  refine ⟨relations, result, run, fun _ _ _ _ _ _ _ hentry => ?_, run.cannotFeed_notMem⟩
  obtain ⟨d, hd, -, -, hlog⟩ := run.exists_finished
  exact hd.drawn.joins (hlog ▸ hentry)

/-- The activity `e` is entered from `c` before the branches behind `d` meet in front of it. -/
def sideEntrance : Matrix :=
  .ofPrecedences ["a", "b", "c", "d", "e"] [("d", "b"), ("d", "a"), ("c", "e"), ("b", "e"), ("a", "e")]

def sideEntranceOrder : List String := ["c", "d", "a", "b", "e"]

theorem validate_sideEntrance : sideEntrance.validate none = .ok sideEntranceOrder :=
  eq_ok_of_toOption (by decide +kernel)

/-- The joins that a log tells of, each with its exits and with what enters its meeting point after it. -/
def loggedJoins (log : List LogEntry) : List (String × List String × List String) :=
  log.filterMap fun entry => match entry.step with
    | .joined _ _ point join exits _ => some (join, exits, entry.graph.incoming point)
    | _ => none

/-- Both cases occur: the first join waits behind `c`, and the second one takes the place of `c`. -/
theorem exits_meet_sideEntrance :
    sideEntrance.validate none = .ok sideEntranceOrder ∧ startEventId ∉ sideEntranceOrder ∧
      endEventId ∉ sideEntranceOrder ∧
      ∃ relations result, Run sideEntrance none sideEntranceOrder {} relations result ∧
        (∀ before branches point join exits pending after,
          ⟨.joined before branches point join exits pending, after⟩ ∈ result.log →
            Joins before after branches point join exits pending) ∧
        (∀ exit gateway, .cannotFeed exit gateway ∉ result.diagnostics) ∧
        loggedJoins result.log =
          [("parallelGateway_Join_e", ["a", "b"], ["c"]),
            ("parallelGateway_Join_e_2", ["c", "parallelGateway_Join_e"],
              ["parallelGateway_Join_e_2"])] := by
  obtain ⟨relations, result, run, hjoins, hfeed⟩ :=
    exits_meet validate_sideEntrance (by decide) (by decide) {}
  refine ⟨validate_sideEntrance, by decide, by decide, relations, result, run, hjoins, hfeed, ?_⟩
  exact of_decide_eq_true (run.of_answers (fun result => decide (loggedJoins result.log = _))
    (by decide +kernel))

end ActivityMatrix.Synthesis
