import ActivityMatrix.Proofs.RelationSets.Validated

/-!
# Validation and classification read a matrix alike

Both go through the cells of a matrix on their own: validation to find out whether the precedences have
an order, classification to sort out the relations. `classified_alike` says that on a valid matrix they
see the same precedences and the same order. So whatever validation found out holds for the chains of
the relation sets, too: they form no cycle, and both ways to assign levels go up along them.
-/

namespace ActivityMatrix.RelationSets

open ActivityMatrix.Digraph

variable {m : Matrix} {allowed : Option (List String)} {order : List String}

/-- The immediate precedences are among the chains. -/
theorem direct_subset_chains (m : Matrix) (order : List String) :
    (ofMatrixWithOrder m order).direct ⊆ (ofMatrixWithOrder m order).chains := fun ⟨a, b⟩ hdirect => by
  rw [chains_ofMatrixWithOrder]
  exact mem_edges_ofMatrixWithOrder.mp (List.mem_append_right _ hdirect)

/-- **A valid matrix is classified by what validation read off it.** Its chains are the precedences that
validation ordered, and the order that classification finds for itself is the one that validation
answered. The immediate precedences are among the chains, and every strategy assigns levels that rise
from an activity to all that is reached from it along the chains. -/
theorem classified_alike (h : m.validate allowed = .ok order) :
    ∃ relations, ofMatrix m none = .ok relations ∧ ofMatrix m (some order) = .ok relations ∧
      relations.chains = m.precedenceEdges ∧ relations.direct ⊆ relations.chains ∧
      ∀ strategy, ∃ levels,
        Levels.compute strategy relations.activities relations.chains = .ok levels ∧
          ∀ a b, Leads relations.chains a b →
            ∃ i j, levels.lookup a = some i ∧ levels.lookup b = some j ∧ i < j :=
  ⟨ofMatrixWithOrder m order, ofMatrix_of_validate h, rfl, chains_ofMatrixWithOrder m order,
    direct_subset_chains m order, fun strategy =>
      Levels.exists_compute_rising strategy _ (acyclic_chains_of_validate h)⟩

/-- Four activities one after the other, each precedence in one of its two cells, and a shortcut from
the first to the third. -/
def shortcutChain : Matrix :=
  .ofCells (.ofList [
    ("d", .ofList [("d", .identity), ("a", ⟨"<d", "⇐"⟩), ("b", ⟨"<", "-"⟩), ("c", ⟨"-", "-"⟩)]),
    ("a", .ofList [("d", ⟨"-", "⇒"⟩), ("a", .identity), ("b", ⟨"-", "-"⟩), ("c", ⟨"-", "-"⟩)]),
    ("b", .ofList [("d", ⟨"-", "-"⟩), ("a", ⟨">d", "-"⟩), ("b", .identity), ("c", ⟨"<", "-"⟩)]),
    ("c", .ofList [("d", ⟨"-", "-"⟩), ("a", ⟨"-", "-"⟩), ("b", ⟨">", "-"⟩), ("c", .identity)])])
    ["d", "a", "b", "c"]

theorem classified_alike_shortcutChain :
    shortcutChain.validate none = .ok ["d", "a", "b", "c"] ∧
      (∃ relations, ofMatrix shortcutChain none = .ok relations ∧
        ofMatrix shortcutChain (some ["d", "a", "b", "c"]) = .ok relations ∧
        relations.chains = shortcutChain.precedenceEdges ∧ relations.direct ⊆ relations.chains ∧
        ∀ strategy, ∃ levels,
          Levels.compute strategy relations.activities relations.chains = .ok levels ∧
            ∀ a b, Leads relations.chains a b →
              ∃ i j, levels.lookup a = some i ∧ levels.lookup b = some j ∧ i < j) ∧
      (ofMatrixWithOrder shortcutChain ["d", "a", "b", "c"]).chains =
        [("a", "b"), ("b", "c"), ("d", "a"), ("d", "b")] := by
  have horder : shortcutChain.validate none = .ok ["d", "a", "b", "c"] :=
    eq_ok_of_toOption (by decide +kernel)
  exact ⟨horder, classified_alike horder, by decide +kernel⟩

end ActivityMatrix.RelationSets
