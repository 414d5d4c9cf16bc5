import ActivityMatrix.RelationSets
import ActivityMatrix.Proofs.Digraph.Reachability
import ActivityMatrix.Proofs.Sorting
import Mathlib.Order.WellFounded

/-!
# Neighbours in relation sets

The questions that a relation set answers, in terms of its stated precedences, and what leaving out
indirect neighbours preserves.

* `mem_successors`, `mem_reachable`, `mem_directSuccessors`: the answers as statements about
  precedences.
* `exists_directSuccessor`: on the way to an activity that a given one precedes, a direct successor
  comes first. Among the successors on the way, one that no other reaches is direct.
* `leads_direct`: so every precedence is a chain of direct ones.
-/

namespace ActivityMatrix.RelationSets

open ActivityMatrix.Digraph

variable {r : RelationSets} {a b c : String}

/-- An activity is a direct successor of another one. -/
def Direct (r : RelationSets) (a b : String) : Prop :=
  b ∈ r.directSuccessors a

@[simp] theorem mem_sortByOrder {activities : List String} :
    a ∈ r.sortByOrder activities ↔ a ∈ activities := by
  simp [sortByOrder]

@[simp] theorem mem_successors : b ∈ r.successors a ↔ (a, b) ∈ r.edges := by
  simp [successors]

@[simp] theorem mem_predecessors : a ∈ r.predecessors b ↔ (a, b) ∈ r.edges := by
  simp [predecessors]

theorem mem_reachable : b ∈ r.reachable a ↔ b ≠ a ∧ Leads r.edges a b :=
  Digraph.mem_reachable

/-- An acyclic relation set needs no exception for the activity itself. -/
theorem mem_reachable_of_acyclic (h : Acyclic r.edges) :
    b ∈ r.reachable a ↔ Leads r.edges a b := by
  rw [mem_reachable, and_iff_right_iff_imp]
  exact fun hab => (h.ne hab).symm

theorem mem_common {a : String} {lists : List (List String)} :
    a ∈ common lists ↔ lists ≠ [] ∧ ∀ l ∈ lists, a ∈ l := by
  cases lists with
  | nil => simp [common]
  | cons first others => simp [common]

theorem mem_startActivities : a ∈ r.startActivities ↔ a ∈ r.order ∧ ∀ b, (b, a) ∉ r.edges := by
  simp [startActivities, List.isEmpty_iff, List.eq_nil_iff_forall_not_mem]

theorem nodup_directSuccessors (r : RelationSets) (a : String) : (r.directSuccessors a).Nodup :=
  List.Nodup.filter _ ((perm_sortBy _).nodup_iff.mpr (nodup_distinct _))

/-- A direct successor is one that no other successor reaches. -/
theorem mem_directSuccessors (h : Acyclic r.edges) :
    c ∈ r.directSuccessors a ↔
      (a, c) ∈ r.edges ∧ ∀ b, (a, b) ∈ r.edges → ¬ Leads r.edges b c := by
  simp only [directSuccessors, List.mem_filter, mem_successors, List.any_map, Bool.not_eq_true',
    List.any_eq_false, Function.comp_apply, Bool.and_eq_true, decide_eq_true_eq,
    List.contains_iff_mem, mem_reachable_of_acyclic h, not_and]
  refine and_congr_right fun _ => ⟨fun hall b hab hbc => ?_, fun hall b hab _ => hall b hab⟩
  exact hall b hab (h.ne hbc) hbc

theorem Direct.mem_edges (hab : r.Direct a b) : (a, b) ∈ r.edges :=
  mem_successors.mp (List.mem_of_mem_filter hab)

/-- On the way to an activity, a direct successor comes first. -/
theorem exists_directSuccessor (h : Acyclic r.edges) (hac : Leads r.edges a c) :
    ∃ b, r.Direct a b ∧ (b = c ∨ Leads r.edges b c) := by
  -- among the successors on the way, take one that no other leads to
  let onTheWay : Set String := { b | (a, b) ∈ r.edges ∧ (b = c ∨ Leads r.edges b c) }
  obtain ⟨b, ⟨hab, hbc⟩, hleast⟩ :=
    h.wellFounded.transGen.has_min onTheWay hac.exists_first
  refine ⟨b, (mem_directSuccessors h).mpr ⟨hab, fun b' hab' hb' => ?_⟩, hbc⟩
  refine hleast b' ⟨hab', .inr ?_⟩ hb'
  rcases hbc with rfl | hbc
  · exact hb'
  · exact hb'.trans hbc

/-- Every precedence is a chain of direct ones. -/
theorem leads_direct (h : Acyclic r.edges) (hac : Leads r.edges a c) :
    Relation.TransGen r.Direct a c := by
  induction a using h.wellFounded_swap.induction with
  | _ a ih =>
      obtain ⟨b, hab, hbc⟩ := exists_directSuccessor h hac
      rcases hbc with rfl | hbc
      · exact .single hab
      · exact .head hab (ih b hab.mem_edges hbc)

/-- An activity that anything precedes has a direct predecessor. -/
theorem exists_direct_of_mem_edges (h : Acyclic r.edges) (hab : (a, b) ∈ r.edges) :
    ∃ p, r.Direct p b := by
  rcases leads_direct h (.single hab) with hp | ⟨-, hp⟩
  · exact ⟨_, hp⟩
  · exact ⟨_, hp⟩

/-- What holds of an activity and is handed on to direct successors holds of all that it
precedes. -/
theorem of_leads_of_direct (h : Acyclic r.edges) {p : String → Prop}
    (hstep : ∀ a b, p a → r.Direct a b → p b) (hac : Leads r.edges a c) (ha : p a) : p c := by
  have hchain := leads_direct h hac
  clear hac
  induction hchain with
  | single hab => exact hstep _ _ ha hab
  | tail _ hbc ih => exact hstep _ _ ih hbc

end ActivityMatrix.RelationSets
