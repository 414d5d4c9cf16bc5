import ActivityMatrix.Proofs.Matrix.Requirements

/-!
# Valid matrices

The seven rules of a valid matrix as statements about its cells (`Matrix.IsValid`). The activities of a
matrix that is read are its rows and columns, so its cells are all cells between activities, and
validation decides the rules (`report_decides_validity`): a matrix that is read is reported as valid
exactly if they hold, and otherwise the first of them that is broken anywhere is reported, together with
a place that breaks it.
-/

namespace ActivityMatrix

namespace Matrix

variable {document : Document} {m : Matrix} {allowed : Option (List String)} {a b : String}
  {r : Relation}

/-- The rules of a valid matrix. -/
structure IsValid (m : Matrix) (allowed : Option (List String)) : Prop where
  /-- All rows and columns are allowed activities. -/
  allowed_rows : ∀ names, allowed = some names → ∀ a ∈ m.rows, a ∈ names
  allowed_columns : ∀ names, allowed = some names → ∀ a b r, m.get? a b = some r → b ∈ names
  /-- Every cell on the diagonal is there and holds identity. -/
  identity_diagonal : ∀ a ∈ m.activities, m.get? a a = some ⟨selfSymbol, selfSymbol⟩
  /-- Every cell off the diagonal is there and holds legal symbols. -/
  legal_symbols : ∀ a ∈ m.activities, ∀ b ∈ m.activities, a ≠ b → ∃ r, m.get? a b = some r ∧
    r.temporal ∈ Temporal.symbols ∧ r.existential ∈ Existential.symbols
  /-- No cell joins a strict order with a symbol that contradicts it. -/
  legal_combinations : ∀ a b r, m.get? a b = some r →
    r.temporal ∈ Temporal.precedence ++ Temporal.succession →
      r.existential ∉ Existential.orderIncompatible
  /-- Equivalence and exclusion stand in both cells of a pair. -/
  reciprocity : ∀ a b r, m.get? a b = some r → r.existential ∈ Existential.reciprocal →
    ∃ s, m.get? b a = some s ∧ s.existential = r.existential
  /-- The two cells of a pair do not state the same strict direction. -/
  one_direction : ∀ a b r s, a ≠ b → m.get? a b = some r → m.get? b a = some s →
    ¬ (r.temporal ∈ Temporal.precedence ∧ s.temporal ∈ Temporal.precedence) ∧
      ¬ (r.temporal ∈ Temporal.succession ∧ s.temporal ∈ Temporal.succession)
  /-- The strict precedences form no cycle. -/
  acyclicity : ∀ a, ¬ Relation.TransGen m.Precedes a a

/-- Both ends of a cell of a matrix that is read are activities. -/
theorem mem_activities_of_get? (hread : ofDocument document = .ok m) (h : m.get? a b = some r) :
    a ∈ m.activities ∧ b ∈ m.activities := by
  rw [activities_of_ofDocument hread]
  exact mem_mentioned_of_mem_cellList (get?_eq_some_iff.mp h)

/-- The rules hold if and only if nothing breaks a requirement. -/
theorem isValid_iff (hread : ofDocument document = .ok m) :
    m.IsValid allowed ↔ ∀ requirement : Requirement, requirement.Holds allowed m := by
  constructor
  · intro h requirement a b hbreaks
    cases requirement with
    | allowedActivities =>
        obtain ⟨hplace, names, hnames, hb⟩ := hbreaks
        rcases hplace with ⟨ha, rfl⟩ | ⟨r, hcell⟩
        · exact hb (h.allowed_rows names hnames _ ha)
        · exact hb (h.allowed_columns names hnames a b r hcell)
    | identityDiagonal =>
        obtain ⟨ha, rfl, hne⟩ := hbreaks
        exact hne (h.identity_diagonal a ha)
    | legalSymbols =>
        obtain ⟨ha, hb, hne, hillegal⟩ := hbreaks
        obtain ⟨r, hcell, hlegal⟩ := h.legal_symbols a ha b hb hne
        exact hillegal r hcell (Relation.hasLegalSymbols_iff.mpr hlegal)
    | legalCombinations =>
        obtain ⟨-, -, r, hcell, horder, hincompatible⟩ := hbreaks
        rw [Relation.precedes_iff, Relation.follows_iff, ← List.mem_append] at horder
        exact h.legal_combinations a b r hcell horder hincompatible
    | reciprocity =>
        obtain ⟨-, -, r, hcell, hreciprocal, hother⟩ := hbreaks
        obtain ⟨s, hs, heq⟩ := h.reciprocity a b r hcell hreciprocal
        exact hother s hs heq
    | oneDirection =>
        obtain ⟨-, -, hne, r, s, hr, hs, hclash⟩ := hbreaks
        simp only [Relation.precedes_iff, Relation.follows_iff] at hclash
        have hone := h.one_direction a b r s hne hr hs
        exact hclash.elim hone.1 hone.2
    | acyclicity => exact Requirement.holds_acyclicity_iff.mpr h.acyclicity a b hbreaks
  · intro h
    -- a matrix that was read lists the activities of all its cells
    have hmem : ∀ {a b r}, m.get? a b = some r → a ∈ m.activities ∧ b ∈ m.activities :=
      mem_activities_of_get? hread
    refine ⟨fun names hnames a ha => ?_, fun names hnames a b r hcell => ?_, fun a ha => ?_,
      fun a ha b hb hne => ?_, fun a b r hcell horder hincompatible => ?_,
      fun a b r hcell hreciprocal => ?_, fun a b r s hne hr hs => ?_, fun a hcycle => ?_⟩
    · by_contra hnot
      exact h .allowedActivities a a ⟨.inl ⟨ha, rfl⟩, names, hnames, hnot⟩
    · by_contra hnot
      exact h .allowedActivities a b ⟨.inr ⟨r, hcell⟩, names, hnames, hnot⟩
    · exact (h .identityDiagonal).get?_self ha
    · obtain ⟨r, hcell, hlegal⟩ := (h .legalSymbols).exists_cell ha hb hne
      exact ⟨r, hcell, Relation.hasLegalSymbols_iff.mp hlegal⟩
    · rw [List.mem_append, ← Relation.precedes_iff, ← Relation.follows_iff] at horder
      exact h .legalCombinations a b
        ⟨(hmem hcell).1, (hmem hcell).2, r, hcell, horder, hincompatible⟩
    · by_contra hnone
      push Not at hnone
      exact h .reciprocity a b ⟨(hmem hcell).1, (hmem hcell).2, r, hcell, hreciprocal, hnone⟩
    · have hbreaks : ¬ (r.precedes ∧ s.precedes ∨ r.follows ∧ s.follows) := fun hclash =>
        h .oneDirection a b ⟨(hmem hr).1, (hmem hr).2, hne, r, s, hr, hs, hclash⟩
      simpa only [Relation.precedes_iff, Relation.follows_iff, not_or] using hbreaks
    · exact Requirement.holds_acyclicity_iff.mp (h .acyclicity) a hcycle

/-- **Validation decides the rules.** A matrix that is read is reported as valid if and only if the
rules hold. Otherwise the fault that is reported belongs to the first requirement that anything breaks,
and the place that it names breaks that requirement. -/
theorem report_decides_validity (hread : ofDocument document = .ok m)
    (allowed : Option (List String)) :
    ((ValidationReport.ofMatrix allowed m).isValid = true ↔ m.IsValid allowed) ∧
      (¬ m.IsValid allowed → ∃ fault before requirement after a b,
        (ValidationReport.ofMatrix allowed m).outcome = .error fault ∧
          Requirement.all = before ++ requirement :: after ∧
          (∀ earlier ∈ before, ∀ a b, ¬ earlier.Breaks allowed m a b) ∧
          fault.rule = requirement.rule ∧ fault.pair = some (a, b) ∧
          requirement.Breaks allowed m a b) := by
  refine ⟨isValid_iff_holds.trans (isValid_iff hread).symm, fun hinvalid => ?_⟩
  have hsettles := settles_report allowed m
  cases houtcome : (ValidationReport.ofMatrix allowed m).outcome with
  | ok order =>
      refine absurd ((isValid_iff hread).mpr (isValid_iff_holds.mp ?_)) hinvalid
      rw [ValidationReport.isValid, houtcome]
      rfl
  | error fault =>
      rw [ValidationReport.fault?, houtcome] at hsettles
      obtain ⟨before, requirement, after, hsplit, hbefore, hrule, a, b, hpair, hbreaks⟩ := hsettles
      exact ⟨fault, before, requirement, after, a, b, rfl, hsplit, hbefore, hrule, hpair, hbreaks⟩

/-- Three activities, each one before the next, in a circle. -/
def circular : Matrix :=
  .ofCells (.ofList [
    ("a", .ofList [("a", .identity), ("b", ⟨"<", "⇒"⟩), ("c", ⟨">", "-"⟩)]),
    ("b", .ofList [("a", ⟨">d", "⇐"⟩), ("b", .identity), ("c", ⟨"<", "⇔"⟩)]),
    ("c", .ofList [("a", ⟨"-", "⇒"⟩), ("b", ⟨"-", "⇔"⟩), ("c", .identity)])]) []

theorem report_decides_validity_circular :
    ofDocument circular.toDocument = .ok circular ∧ ¬ circular.IsValid none ∧
      ∃ fault before requirement after a b,
        (ValidationReport.ofMatrix none circular).outcome = .error fault ∧
          Requirement.all = before ++ requirement :: after ∧
          (∀ earlier ∈ before, ∀ a b, ¬ earlier.Breaks none circular a b) ∧
          fault.rule = requirement.rule ∧ fault.pair = some (a, b) ∧
          requirement.Breaks none circular a b := by
  have hread : ofDocument circular.toDocument = .ok circular := eq_ok_of_toOption (by decide +kernel)
  obtain ⟨hiff, hfault⟩ := report_decides_validity hread none
  have hinvalid : ¬ circular.IsValid none := by
    rw [← hiff]
    decide +kernel
  exact ⟨hread, hinvalid, hfault hinvalid⟩

end Matrix

end ActivityMatrix
