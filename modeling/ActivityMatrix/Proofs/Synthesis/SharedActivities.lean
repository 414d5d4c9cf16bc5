import ActivityMatrix.Declare.Derivation
import ActivityMatrix.Proofs.Matrix.Listing
import ActivityMatrix.Proofs.Synthesis.Outcome

/-!
# Activities of the two notations

A process graph has a task for each activity in the order that validation answers, and a Declare model
speaks of the activities that the matrix lists. Nothing makes sure that these are the same: the order also
holds unlisted ends of precedences, and validation never looks at their cells (`loose`, which is built from
a single pair). `shared_activities_iff` says when they are the same, namely if and only if all ends of
precedences are listed, and that this is so however a covering matrix was built.
-/

namespace ActivityMatrix

open ProcessGraph Synthesis

variable {m : Matrix} {allowed : Option (List String)} {order : List String}

/-- **The order, the process graph and the Declare model of a valid matrix** are about the same activities
if and only if the ends of all precedences are listed. -/
theorem shared_activities_iff (hvalid : m.validate allowed = .ok order) :
    (order.Nodup ∧ ∀ a, a ∈ order ↔ a ∈ m.activities ∨ ∃ b, m.Precedes a b ∨ m.Precedes b a) ∧
      (order.Perm (distinct m.activities) ↔ m.EndsListed) ∧
      (m.BuiltCovering → m.EndsListed) ∧
      (startEventId ∉ order → endEventId ∉ order → ∀ options, ∃ relations result,
        RelationSets.ofMatrix m none = .ok relations ∧ synthesize options relations = .ok result ∧
          ((∀ a, result.graph.isTask a = true ↔ a ∈ (Declare.Derivation.ofMatrix m).model.activities) ↔
            m.EndsListed)) := by
  refine ⟨⟨(RelationSets.listed_of_validate hvalid).nodup, fun a => Matrix.mem_order_iff_of_validate hvalid⟩,
    Matrix.order_perm_iff hvalid, fun hbuilt => hbuilt.covers.endsListed, fun hstart hend options => ?_⟩
  obtain ⟨relations, result, run⟩ := exists_run hvalid hstart hend options
  refine ⟨relations, result, run.classified, run.synthesized, ?_⟩
  obtain ⟨-, -, -, htasks⟩ := run.wellStructured
  rw [← Matrix.forall_mem_order_iff hvalid]
  exact forall_congr' fun a => iff_congr (htasks a) Iff.rfl

/-- The only listed activity is `a`, but it is related to `b` as well. -/
def loose : Matrix :=
  .ofCells (.ofList [
    ("a", .ofList [("a", .identity), ("b", ⟨"<", "⇒"⟩)]), ("b", .ofList [("a", ⟨">", "⇐"⟩)])]) ["a"]

theorem shared_activities_iff_loose :
    (Matrix.ofPairs ["a"] ⟨[(("a", "b"), .sequence [.text "<", .text "⇒"])], by decide⟩).toOption =
        some loose ∧
      loose.validate none = .ok ["a", "b"] ∧ ¬ ["a", "b"].Perm (distinct loose.activities) ∧
      ∀ options, ∃ relations result, RelationSets.ofMatrix loose none = .ok relations ∧
        synthesize options relations = .ok result ∧
          ¬ ∀ a, result.graph.isTask a = true ↔
            a ∈ (Declare.Derivation.ofMatrix loose).model.activities := by
  have hvalid : loose.validate none = .ok ["a", "b"] := eq_ok_of_toOption (by decide +kernel)
  obtain ⟨-, hperm, -, hgraph⟩ := shared_activities_iff hvalid
  have hnot : ¬ ["a", "b"].Perm (distinct loose.activities) := fun h => by
    simpa using h.length_eq.trans (by decide +kernel : (distinct loose.activities).length = 1)
  refine ⟨by decide +kernel, hvalid, hnot, fun options => ?_⟩
  obtain ⟨relations, result, hrelations, hresult, hiff⟩ := hgraph (by decide) (by decide) options
  exact ⟨relations, result, hrelations, hresult, hiff.not.mpr (hperm.not.mp hnot)⟩

end ActivityMatrix
