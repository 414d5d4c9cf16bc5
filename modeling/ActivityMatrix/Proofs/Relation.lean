import ActivityMatrix.Relation

/-!
# Relations with legal symbols

What holds of the five temporal symbols and the seven existential ones holds of every relation that may
stand between two different activities (`forall_legal`). Reading a relation from the other side turns its
direction around, keeps what makes it legal, and twice it changes nothing, whatever the symbols.
-/

namespace ActivityMatrix.Relation

variable {r : Relation}

theorem hasLegalSymbols_iff : r.hasLegalSymbols ↔
    r.temporal ∈ Temporal.symbols ∧ r.existential ∈ Existential.symbols := by
  rw [hasLegalSymbols, Bool.and_eq_true, List.contains_iff_mem, List.contains_iff_mem]

theorem precedes_iff : r.precedes ↔ r.temporal ∈ Temporal.precedence :=
  List.contains_iff_mem

theorem follows_iff : r.follows ↔ r.temporal ∈ Temporal.succession :=
  List.contains_iff_mem

/-- What holds of all legal symbols holds of every relation made of them. -/
theorem forall_legal {p : Relation → Prop}
    (h : ∀ t ∈ Temporal.symbols, ∀ e ∈ Existential.symbols, p ⟨t, e⟩) (hr : r.hasLegalSymbols) :
    p r :=
  h _ (hasLegalSymbols_iff.mp hr).1 _ (hasLegalSymbols_iff.mp hr).2

/-- No symbol states both directions. -/
theorem precedes_eq_false_of_follows (h : r.follows) : r.precedes = false := by
  have hsymbols : ∀ t ∈ Temporal.succession, Temporal.precedence.contains t = false := by decide
  exact hsymbols _ (follows_iff.mp h)

/-- A relation is read from the other side with legal symbols again. -/
theorem hasLegalSymbols_converse (h : r.hasLegalSymbols) : r.converse.hasLegalSymbols :=
  forall_legal (p := fun r => r.converse.hasLegalSymbols = true) (by decide) h

/-- A key is illegal exactly if its symbols contradict each other. -/
theorem isIllegalCombination_iff (h : r.hasLegalSymbols) : r.isIllegalCombination ↔
    (r.precedes ∨ r.follows) ∧ r.existential ∈ Existential.orderIncompatible :=
  forall_legal (p := fun r => r.isIllegalCombination ↔
    (r.precedes ∨ r.follows) ∧ r.existential ∈ Existential.orderIncompatible) (by decide) h

/-! ## The other side -/

theorem temporal_converse_converse (s : String) : Temporal.converse (Temporal.converse s) = s := by
  by_cases hs : s ∈ Temporal.precedence ++ Temporal.succession
  · have hsymbols : ∀ t ∈ Temporal.precedence ++ Temporal.succession,
        Temporal.converse (Temporal.converse t) = t := by decide
    exact hsymbols s hs
  · have hkeeps : Temporal.converse s = s := by
      simp only [Temporal.precedence, Temporal.succession, List.cons_append, List.nil_append,
        List.mem_cons, List.not_mem_nil, or_false, not_or] at hs
      simp [Temporal.converse, hs]
    rw [hkeeps, hkeeps]

theorem existential_converse_converse (s : String) :
    Existential.converse (Existential.converse s) = s := by
  by_cases hs : s ∈ [Existential.implies, Existential.impliedBy]
  · have hsymbols : ∀ e ∈ [Existential.implies, Existential.impliedBy],
        Existential.converse (Existential.converse e) = e := by decide
    exact hsymbols s hs
  · have hkeeps : Existential.converse s = s := by
      simp only [List.mem_cons, List.not_mem_nil, or_false, not_or] at hs
      simp [Existential.converse, hs]
    rw [hkeeps, hkeeps]

/-- Whatever the symbols, a relation that is read from the other side twice is the same one. -/
theorem converse_converse (r : Relation) : r.converse.converse = r := by
  rw [converse, converse, temporal_converse_converse, existential_converse_converse]

theorem precedes_converse_of_follows (h : r.follows) : r.converse.precedes := by
  have hsymbols : ∀ t ∈ Temporal.succession, Temporal.converse t ∈ Temporal.precedence := by decide
  exact precedes_iff.mpr (hsymbols _ (follows_iff.mp h))

theorem follows_converse_of_precedes (h : r.precedes) : r.converse.follows := by
  have hsymbols : ∀ t ∈ Temporal.precedence, Temporal.converse t ∈ Temporal.succession := by decide
  exact follows_iff.mpr (hsymbols _ (precedes_iff.mp h))

@[simp] theorem precedes_converse : r.converse.precedes = r.follows := by
  refine Bool.eq_iff_iff.mpr ⟨fun h => ?_, precedes_converse_of_follows⟩
  exact r.converse_converse ▸ follows_converse_of_precedes h

@[simp] theorem follows_converse : r.converse.follows = r.precedes := by
  rw [← precedes_converse, converse_converse]

/-- Equivalence and exclusion read alike from both sides. -/
theorem existential_converse_of_mem (h : r.existential ∈ Existential.reciprocal) :
    r.converse.existential = r.existential := by
  have hsymbols : ∀ e ∈ Existential.reciprocal, Existential.converse e = e := by decide
  exact hsymbols _ h

@[simp] theorem hasLegalSymbols_converse_iff : r.converse.hasLegalSymbols = r.hasLegalSymbols := by
  refine Bool.eq_iff_iff.mpr ⟨fun h => ?_, hasLegalSymbols_converse⟩
  exact r.converse_converse ▸ hasLegalSymbols_converse h

theorem isIllegalCombination_converse (h : r.hasLegalSymbols) :
    r.converse.isIllegalCombination = r.isIllegalCombination :=
  forall_legal (p := fun r => r.converse.isIllegalCombination = r.isIllegalCombination) (by decide) h

/-- A symbol that reads alike from both sides is read from the other side exactly where it stands. -/
theorem existential_converse_eq_iff {e : String} (he : Existential.converse e = e) :
    r.converse.existential = e ↔ r.existential = e := by
  constructor
  · intro h
    rw [← existential_converse_converse r.existential]
    exact (congrArg Existential.converse h).trans he
  · intro h
    exact (congrArg Existential.converse h).trans he

theorem existential_converse_beq {e : String} (he : Existential.converse e = e) :
    (r.converse.existential == e) = (r.existential == e) := by
  rw [Bool.eq_iff_iff, beq_iff_eq, beq_iff_eq]
  exact existential_converse_eq_iff he

theorem temporal_converse_eq_iff {t : String} (ht : Temporal.converse t = t) :
    r.converse.temporal = t ↔ r.temporal = t := by
  constructor
  · intro h
    rw [← temporal_converse_converse r.temporal]
    exact (congrArg Temporal.converse h).trans ht
  · intro h
    exact (congrArg Temporal.converse h).trans ht

/-- So it is with symbols of a list that all read alike from both sides. -/
theorem existential_converse_mem_iff {symbols : List String}
    (hsymbols : ∀ e ∈ symbols, Existential.converse e = e) :
    r.converse.existential ∈ symbols ↔ r.existential ∈ symbols := by
  constructor
  · intro h
    exact (existential_converse_eq_iff (hsymbols _ h)).mp rfl ▸ h
  · intro h
    exact (existential_converse_eq_iff (hsymbols _ h)).mpr rfl ▸ h

@[simp] theorem isUnordered_converse : r.converse.isUnordered = r.isUnordered := by
  rw [Bool.eq_iff_iff, isUnordered, isUnordered, beq_iff_eq, beq_iff_eq]
  exact temporal_converse_eq_iff (by decide)

@[simp] theorem isDirect_converse : r.converse.isDirect = r.isDirect := by
  have hsymbols : ∀ t ∈ Temporal.direct, Temporal.converse t ∈ Temporal.direct := by decide
  have hdirect : ∀ {r : Relation}, r.isDirect ↔ r.temporal ∈ Temporal.direct := List.contains_iff_mem
  rw [Bool.eq_iff_iff, hdirect, hdirect]
  refine ⟨fun h => ?_, hsymbols r.temporal⟩
  exact temporal_converse_converse r.temporal ▸ hsymbols _ h

end ActivityMatrix.Relation
