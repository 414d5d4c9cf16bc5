import ActivityMatrix.Proofs.Declare.Contribution
import ActivityMatrix.Proofs.Declare.Init
import Mathlib.Data.Multiset.MapFold
import Mathlib.Data.Sym.Sym2

/-!
# Constraints of rearranged matrices

Of two activities the one that is listed first is the row, so which cell of a pair is read depends on
how the activities are listed. In a mirrored matrix every cell is the converse of the other one, and then
nothing but the reading direction of an entry without a constraint depends on it
(`derivation_of_perm`). The first activity is found by looking into both cells, so it is the same under
every arrangement of any matrix (`findInit_of_perm`).
-/

namespace ActivityMatrix

/-- Between different activities stand legal symbols, and the two cells are converses. -/
def Matrix.Mirrored (m : Matrix) : Prop :=
  ∀ a ∈ m.activities, ∀ b ∈ m.activities, a ≠ b →
    (m.relation a b).hasLegalSymbols ∧ m.relation b a = (m.relation a b).converse

instance (m : Matrix) : Decidable m.Mirrored :=
  inferInstanceAs (Decidable (∀ a ∈ m.activities, ∀ b ∈ m.activities, a ≠ b →
    (m.relation a b).hasLegalSymbols ∧ m.relation b a = (m.relation a b).converse))

namespace Declare

variable {m : Matrix} {activities : List String} {a b : String}

/-! ## The first activity -/

theorem firstCounts_perm (hperm : activities.Perm m.activities) :
    (firstCounts { m with activities }).Perm (firstCounts m) := by
  have hdistinct : (distinct activities).Perm (distinct m.activities) :=
    (List.perm_ext_iff_of_nodup (nodup_distinct _) (nodup_distinct _)).mpr fun a => by
      rw [mem_distinct, mem_distinct, hperm.mem_iff]
  have hcount : (fun a => (a, activities.countP (precedes m a))) =
      fun a => (a, m.activities.countP (precedes m a)) :=
    funext fun a => congrArg (Prod.mk a) (hperm.countP_eq _)
  have hcounts : (precedenceCounts { m with activities }).Perm (precedenceCounts m) := by
    change ((distinct activities).map fun a => (a, activities.countP (precedes m a))).Perm _
    rw [hcount]
    exact hdistinct.map _
  have hsize : ({ m with activities } : Matrix).size = m.size := hperm.length_eq
  rw [firstCounts, firstCounts, hsize]
  exact hcounts.filter _

theorem findInit_of_perm (hperm : activities.Perm m.activities) :
    findInit { m with activities } = findInit m := by
  have hfirst := firstCounts_perm hperm
  refine Option.ext fun a => ?_
  rw [findInit_eq_some_iff, findInit_eq_some_iff]
  refine exists_congr fun count => ⟨fun h => ?_, fun h => ?_⟩
  · exact List.perm_singleton.mp (h ▸ hfirst.symm)
  · exact List.perm_singleton.mp (h ▸ hfirst)

/-! ## Constraints -/

theorem statedAt_swap (h : m.Mirrored) (ha : a ∈ m.activities) (hb : b ∈ m.activities) :
    statedAt m (a, b) = statedAt m (b, a) := by
  by_cases hab : a = b
  · rw [hab]
  · obtain ⟨hlegal, hconverse⟩ := h a ha b hb hab
    rw [statedAt, statedAt, hconverse]
    exact (stated?_converse hlegal a b).symm

theorem constraints_perm (h : m.Mirrored) (hperm : activities.Perm m.activities) :
    (Derivation.ofMatrix { m with activities }).model.constraints.Perm
      (Derivation.ofMatrix m).model.constraints := by
  rw [constraints_ofMatrix, constraints_ofMatrix]
  exact (filterMap_orderedPairs_perm hperm.symm fun a ha b hb => statedAt_swap h ha hb).symm

/-! ## Pairs without a constraint -/

/-- Two entries speak of the same two activities from opposite sides. -/
def IsTurned (entry turned : String × String × String) : Prop :=
  ∃ r : Relation, r.hasLegalSymbols ∧ entry.2.2 = r.key ∧
    turned = (entry.2.1, entry.1, r.converse.key)

/-- Whether a pair has no constraint. -/
def lacksConstraint (m : Matrix) (pair : String × String) : Bool :=
  (resolve (m.relation pair.1 pair.2)).isNone

theorem unmapped_eq_map (m : Matrix) : (Derivation.ofMatrix m).unmapped =
    (m.pairs.filter (lacksConstraint m)).map fun pair =>
      (pair.1, pair.2, (m.relation pair.1 pair.2).key) := by
  rw [unmapped_ofMatrix, ← List.filterMap_eq_map, List.filterMap_filter]
  refine List.filterMap_congr fun pair _ => Option.ext fun entry => ?_
  rw [unmappedAt, unmapped?_eq_some_iff, lacksConstraint]
  split_ifs with hnone
  · simp [Option.isNone_iff_eq_none.mp hnone, eq_comm]
  · simpa using fun h => absurd h (by simpa using hnone)

/-- Every arrangement of a mirrored matrix leaves the same unordered pairs without a constraint. -/
theorem rel_lacksConstraint (h : m.Mirrored) (hperm : activities.Perm m.activities) :
    Multiset.Rel (fun pair pair' : String × String => s(pair.1, pair.2) = s(pair'.1, pair'.2))
      (m.pairs.filter (lacksConstraint m) : Multiset (String × String))
      (({ m with activities } : Matrix).pairs.filter (lacksConstraint m)) := by
  have hswap : ∀ a ∈ m.activities, ∀ b ∈ m.activities,
      lacksConstraint m (a, b) = lacksConstraint m (b, a) := by
    intro a ha b hb
    by_cases hab : a = b
    · rw [hab]
    · obtain ⟨hlegal, hconverse⟩ := h a ha b hb hab
      simp only [lacksConstraint, hconverse]
      rw [Bool.eq_iff_iff, Option.isNone_iff_eq_none, Option.isNone_iff_eq_none,
        resolve_converse_eq_none_iff hlegal]
  let ends? (pair : String × String) : Option (Sym2 String) :=
    if lacksConstraint m pair then some s(pair.1, pair.2) else none
  have hends : ∀ pairs : List (String × String), pairs.filterMap ends? =
      (pairs.filter (lacksConstraint m)).map fun pair => s(pair.1, pair.2) := fun pairs => by
    rw [← List.filterMap_eq_map, List.filterMap_filter]
    rfl
  have hsame : ((orderedPairs m.activities).filterMap ends?).Perm
      ((orderedPairs activities).filterMap ends?) :=
    filterMap_orderedPairs_perm hperm.symm fun a ha b hb => by
      simp only [ends?, hswap a ha b hb, Sym2.eq_swap]
  rw [hends, hends] at hsame
  exact Multiset.rel_map.mp (Multiset.rel_eq.mpr (Multiset.coe_eq_coe.mpr hsame))

/-- Two derivations state the same constraints and leave the same pairs without one, up to the side from
which such a pair is read. -/
structure Derivation.Alike (d d' : Derivation) : Prop where
  constraints : d'.model.constraints.Perm d.model.constraints
  unary : d'.model.unary = d.model.unary
  unmapped : Multiset.Rel (fun entry entry' => entry' = entry ∨ IsTurned entry entry')
    d.unmapped d'.unmapped

/-- **The constraints of a mirrored matrix do not depend on how its activities are listed.** -/
theorem derivation_of_perm (h : m.Mirrored) (hperm : activities.Perm m.activities) :
    (Derivation.ofMatrix m).Alike (Derivation.ofMatrix { m with activities }) where
  constraints := constraints_perm h hperm
  unary := by simp only [Derivation.ofMatrix, findInit_of_perm hperm]
  unmapped := by
    rw [unmapped_eq_map, unmapped_eq_map, ← Multiset.map_coe, ← Multiset.map_coe, Multiset.rel_map]
    refine (rel_lacksConstraint h hperm).mono fun pair hpair pair' _ hsame => ?_
    -- a pair is met in the same order again, or it is met the other way round
    rcases Sym2.mk_eq_mk_iff.mp hsame with rfl | hswap
    · exact .inl rfl
    · obtain rfl : pair' = pair.swap := by rw [hswap, Prod.swap_swap]
      obtain ⟨a, b⟩ := pair
      by_cases hab : a = b
      · subst hab
        exact .inl rfl
      · obtain ⟨ha, hb⟩ := mem_of_mem_orderedPairs (List.mem_of_mem_filter hpair)
        obtain ⟨hlegal, hconverse⟩ := h a ha b hb hab
        exact .inr ⟨_, hlegal, rfl, by rw [← hconverse]; rfl⟩

/-- Three activities: `a` immediately before `b`, `b` after `c`, and `a` or `c` or both. -/
def mirroredTriple : Matrix :=
  .ofCells (.ofList [
    ("a", .ofList [("a", .identity), ("b", ⟨"<d", "-"⟩), ("c", ⟨"-", "∨"⟩)]),
    ("b", .ofList [("a", ⟨">d", "-"⟩), ("b", .identity), ("c", ⟨">", "⇐"⟩)]),
    ("c", .ofList [("a", ⟨"-", "∨"⟩), ("b", ⟨"<", "⇒"⟩), ("c", .identity)])]) ["a", "b", "c"]

theorem derivation_of_perm_triple :
    mirroredTriple.Mirrored ∧ ["c", "b", "a"].Perm mirroredTriple.activities ∧
      (Derivation.ofMatrix mirroredTriple).Alike
        (Derivation.ofMatrix { mirroredTriple with activities := ["c", "b", "a"] }) := by
  have hmirrored : mirroredTriple.Mirrored := by decide +kernel
  have hperm : ["c", "b", "a"].Perm mirroredTriple.activities := by decide +kernel
  exact ⟨hmirrored, hperm, derivation_of_perm hmirrored hperm⟩

end Declare

end ActivityMatrix
