import ActivityMatrix.Proofs.Matrix.Requirements
import ActivityMatrix.Proofs.RelationSets.Classified
import ActivityMatrix.Proofs.RelationSets.Validated

/-!
# Consistency of relation sets

Relation sets speak of a pair of activities in up to four places: as exclusive, parallel or inclusive, and
as ordered by a chain. They are consistent (`Consistent`) if no pair is of two kinds and no pair of a kind
is ordered. Each set is collected cell by cell, and the two cells of a pair may disagree; so consistency is
a condition on the two cells of each pair (`Matrix.Reconciled`, `consistent_iff_reconciled`).

Validation does not quite make sure of it. It refuses exclusion and equivalence that one cell states alone,
but an inclusive pair may be stated by one cell, and the other cell may order the two activities
(`halfInclusive`). For listed activities this is the only way to be inconsistent
(`consistency_of_validate`).
-/

namespace ActivityMatrix

/-- A relation states that one of its activities strictly precedes the other one. -/
def Relation.IsStrict (r : Relation) : Prop :=
  r.precedes ∨ r.follows

theorem Relation.not_isStrict_of_isUnordered {r : Relation} (h : r.isUnordered) : ¬ r.IsStrict := by
  obtain ⟨temporal, existential⟩ := r
  obtain rfl : temporal = Temporal.unordered := beq_iff_eq.mp h
  change ¬ (Temporal.precedence.contains Temporal.unordered = true ∨
    Temporal.succession.contains Temporal.unordered = true)
  decide

namespace Matrix

variable {m : Matrix} {a b : String}

/-- What a cell says of the kind of its pair contradicts neither the order that the two cells state, nor
the kind that the other cell states. -/
structure Reconciled (m : Matrix) (a b : String) : Prop where
  unordered : (m.relation a b).existential ∈ [Existential.exclusive, Existential.inclusive] →
    ¬ (m.relation a b).IsStrict ∧ ¬ (m.relation b a).IsStrict
  single : (m.relation a b).existential = Existential.inclusive →
    ¬ ((m.relation b a).existential = Existential.equivalent ∧ (m.relation a b).isUnordered ∧
      (m.relation b a).isUnordered)

/-- Of the valid cells only an inclusive one next to a strict one is not reconciled. -/
theorem ValidCell.reconciled_iff (h : m.ValidCell a b) (h' : m.ValidCell b a) : m.Reconciled a b ↔
    ((m.relation a b).existential = Existential.inclusive → ¬ (m.relation b a).IsStrict) := by
  refine ⟨fun hreconciled hinclusive => (hreconciled.unordered (by simp [hinclusive])).2,
    fun hother => ⟨fun hsymbol => ⟨fun hstrict => ?_, fun hstrict => ?_⟩, fun hinclusive hjoint => ?_⟩⟩
  · have hsymbols : ∀ e ∈ [Existential.exclusive, Existential.inclusive],
        e ∈ Existential.orderIncompatible := by decide
    exact h.compatible hstrict (hsymbols _ hsymbol)
  · rw [List.mem_pair] at hsymbol
    rcases hsymbol with hexclusive | hinclusive
    · have hrepeated := h.repeated (by rw [hexclusive]; decide)
      refine h'.compatible hstrict ?_
      rw [hrepeated, hexclusive]
      decide
    · exact hother hinclusive hstrict
  · have hrepeated := h'.repeated (by rw [hjoint.1]; decide)
    rw [hjoint.1, hinclusive] at hrepeated
    exact absurd hrepeated (by decide)

/-- A missing cell reads as one that states nothing. -/
theorem exists_get?_iff {p : Relation → Prop} (hne : a ≠ b) (hp : ¬ p .unrelated) :
    (∃ r, m.get? a b = some r ∧ p r) ↔ p (m.relation a b) := by
  cases hcell : m.get? a b with
  | none => simpa [relation, hcell, defaultRelation, hne] using hp
  | some r => simp [relation, hcell]

/-- What some cell states of a pair is stated by one of the two cells of the pair. -/
theorem exists_cell_iff {p : String → String → Relation → Prop} (hne : a ≠ b)
    (hp : ∀ a b, ¬ p a b .unrelated) :
    (∃ a' b' r, m.get? a' b' = some r ∧ a' ≠ b' ∧ p a' b' r ∧ canonicalPair a' b' = canonicalPair a b) ↔
      p a b (m.relation a b) ∨ p b a (m.relation b a) := by
  rw [← exists_get?_iff hne (hp a b), ← exists_get?_iff hne.symm (hp b a)]
  constructor
  · rintro ⟨a', b', r, hr, -, hcell, hpair⟩
    rcases eq_or_swap_of_canonicalPair_eq hpair with ⟨rfl, rfl⟩ | ⟨rfl, rfl⟩
    · exact .inl ⟨r, hr, hcell⟩
    · exact .inr ⟨r, hr, hcell⟩
  · rintro (⟨r, hr, hcell⟩ | ⟨r, hr, hcell⟩)
    · exact ⟨a, b, r, hr, hne, hcell, rfl⟩
    · exact ⟨b, a, r, hr, hne.symm, hcell, canonicalPair_comm b a⟩

end Matrix

namespace RelationSets

/-- The pairs of a kind. -/
def ofKind (r : RelationSets) : PairKind → List (String × String)
  | .exclusive => r.exclusive
  | .parallel => r.parallel
  | .inclusive => r.inclusive

/-- Two activities are ordered by a chain, in either direction. -/
def Ordered (r : RelationSets) (a b : String) : Prop :=
  (a, b) ∈ r.chains ∨ (b, a) ∈ r.chains

/-- A pair is of one kind at most, and it is not ordered if it is of a kind. -/
structure ConsistentAt (r : RelationSets) (pair : String × String) : Prop where
  single : ∀ kind other, pair ∈ r.ofKind kind → pair ∈ r.ofKind other → kind = other
  unordered : ∀ kind, pair ∈ r.ofKind kind → ¬ r.Ordered pair.1 pair.2

/-- No pair is of two kinds, and no pair of a kind is ordered. -/
structure Consistent (r : RelationSets) : Prop where
  disjoint : ∀ kind other, kind ≠ other → List.Disjoint (r.ofKind kind) (r.ofKind other)
  unordered : ∀ kind, ∀ pair ∈ r.ofKind kind, ¬ r.Ordered pair.1 pair.2

theorem consistent_iff {r : RelationSets} : r.Consistent ↔ ∀ pair, r.ConsistentAt pair := by
  refine ⟨fun h pair => ⟨fun kind other hkind hother => ?_, fun kind => h.unordered kind pair⟩,
    fun h => ⟨fun kind other hne pair hkind hother => ?_, fun kind pair => (h pair).unordered kind⟩⟩
  · by_contra hne
    exact h.disjoint kind other hne hkind hother
  · exact hne ((h pair).single kind other hkind hother)

section Cells

variable {m : Matrix} {order : List String} {pair : String × String} {a b : String}

/-! ## What the two cells of a pair say -/

theorem canonicalPair_mem_exclusive_iff (hne : a ≠ b) :
    canonicalPair a b ∈ (ofMatrixWithOrder m order).exclusive ↔
      (m.relation a b).existential = Existential.exclusive ∨
        (m.relation b a).existential = Existential.exclusive := by
  rw [mem_exclusive_iff]
  exact Matrix.exists_cell_iff (p := fun _ _ r => r.existential = Existential.exclusive) hne
    fun _ _ => by decide

theorem canonicalPair_mem_inclusive_iff (hne : a ≠ b) :
    canonicalPair a b ∈ (ofMatrixWithOrder m order).inclusive ↔
      ((m.relation a b).existential = Existential.inclusive ∨
        (m.relation b a).existential = Existential.inclusive) ∧
          canonicalPair a b ∉ (ofMatrixWithOrder m order).exclusive := by
  rw [mem_inclusive_iff, Matrix.exists_cell_iff (p := fun _ _ r => r.existential =
    Existential.inclusive) hne fun _ _ => by decide]

theorem canonicalPair_mem_parallel_iff (hne : a ≠ b) :
    canonicalPair a b ∈ (ofMatrixWithOrder m order).parallel ↔
      (((m.relation a b).existential = Existential.equivalent ∨
        (m.relation b a).existential = Existential.equivalent) ∧
          (m.relation a b).isUnordered ∧ (m.relation b a).isUnordered) ∧
            canonicalPair a b ∉ (ofMatrixWithOrder m order).exclusive := by
  have hcells := Matrix.exists_cell_iff (m := m) (p := fun a b r =>
    r.existential = Existential.equivalent ∧ r.isUnordered ∧ (m.relation b a).isUnordered) hne
    fun _ _ h => absurd h.1 (by decide)
  simp only [and_assoc] at hcells
  rw [mem_parallel_iff, hcells]
  tauto

theorem ordered_comm {r : RelationSets} : r.Ordered a b ↔ r.Ordered b a :=
  or_comm

theorem ordered_canonicalPair {r : RelationSets} (a b : String) :
    r.Ordered (canonicalPair a b).1 (canonicalPair a b).2 ↔ r.Ordered a b := by
  unfold canonicalPair
  split_ifs
  · rfl
  · exact ordered_comm

/-- One of the two cells of a pair states each chain. -/
theorem mem_chains_iff_relation (hne : a ≠ b) : (a, b) ∈ (ofMatrixWithOrder m order).chains ↔
    (m.relation a b).precedes ∨ (m.relation b a).follows := by
  rw [chains_ofMatrixWithOrder, Matrix.mem_precedenceEdges, Matrix.Precedes, and_iff_right hne,
    Matrix.exists_get?_iff hne (by decide), Matrix.exists_get?_iff hne.symm (by decide)]

theorem ordered_iff (hne : a ≠ b) : (ofMatrixWithOrder m order).Ordered a b ↔
    (m.relation a b).IsStrict ∨ (m.relation b a).IsStrict := by
  rw [Ordered, mem_chains_iff_relation hne, mem_chains_iff_relation hne.symm, Relation.IsStrict,
    Relation.IsStrict]
  tauto

/-- The members of a set are pairs of different activities. -/
theorem exists_canonicalPair_of_mem_ofKind {kind : PairKind}
    (h : pair ∈ (ofMatrixWithOrder m order).ofKind kind) : ∃ a b, a ≠ b ∧ canonicalPair a b = pair := by
  cases kind with
  | exclusive =>
      obtain ⟨a, b, _, -, hne, -, hpair⟩ := mem_exclusive_iff.mp h
      exact ⟨a, b, hne, hpair⟩
  | parallel =>
      obtain ⟨⟨a, b, _, -, hne, -, -, -, hpair⟩, -⟩ := mem_parallel_iff.mp h
      exact ⟨a, b, hne, hpair⟩
  | inclusive =>
      obtain ⟨⟨a, b, _, -, hne, -, hpair⟩, -⟩ := mem_inclusive_iff.mp h
      exact ⟨a, b, hne, hpair⟩

/-! ## What is asked of a pair -/

theorem holdsPair_ofKind_iff (kind : PairKind) :
    holdsPair ((ofMatrixWithOrder m order).ofKind kind) a b = true ↔
      canonicalPair a b ∈ (ofMatrixWithOrder m order).ofKind kind := by
  simp only [holdsPair, List.any_eq_true, beq_iff_eq]
  constructor
  · rintro ⟨pair, hpair, heq⟩
    obtain ⟨c, d, -, rfl⟩ := exists_canonicalPair_of_mem_ofKind hpair
    rwa [← heq, canonicalPair_idem]
  · exact fun h => ⟨_, h, canonicalPair_idem a b⟩

theorem pairKind_eq_exclusive_iff : (ofMatrixWithOrder m order).pairKind a b = some .exclusive ↔
    canonicalPair a b ∈ (ofMatrixWithOrder m order).exclusive := by
  refine Iff.trans ?_ (holdsPair_ofKind_iff .exclusive)
  rw [pairKind, ofKind]
  split_ifs <;> simp_all

theorem pairKind_eq_none_iff : (ofMatrixWithOrder m order).pairKind a b = none ↔
    ∀ kind, canonicalPair a b ∉ (ofMatrixWithOrder m order).ofKind kind := by
  have hkinds : (∀ kind, canonicalPair a b ∉ (ofMatrixWithOrder m order).ofKind kind) ↔
      ∀ kind, holdsPair ((ofMatrixWithOrder m order).ofKind kind) a b = false := by
    simp [← holdsPair_ofKind_iff]
  rw [hkinds, pairKind]
  constructor
  · intro h kind
    split_ifs at h
    cases kind <;> simp_all [ofKind]
  · intro h
    have hexclusive := h .exclusive
    have hinclusive := h .inclusive
    have hparallel := h .parallel
    simp_all [ofKind]

/-! ## What holds of every matrix -/

/-- Exclusion outweighs the other two kinds. -/
theorem eq_exclusive_of_mem {kind : PairKind} (h : pair ∈ (ofMatrixWithOrder m order).ofKind kind)
    (hexclusive : pair ∈ (ofMatrixWithOrder m order).exclusive) : kind = .exclusive := by
  cases kind with
  | exclusive => rfl
  | parallel => exact absurd hexclusive (mem_parallel_iff.mp h).2
  | inclusive => exact absurd hexclusive (mem_inclusive_iff.mp h).2

/-- Joint occurrence is read off unordered cells only. -/
theorem not_ordered_of_mem_parallel (h : pair ∈ (ofMatrixWithOrder m order).parallel) :
    ¬ (ofMatrixWithOrder m order).Ordered pair.1 pair.2 := by
  have hkind : pair ∈ (ofMatrixWithOrder m order).ofKind .parallel := h
  obtain ⟨a, b, hne, rfl⟩ := exists_canonicalPair_of_mem_ofKind hkind
  obtain ⟨⟨-, hab, hba⟩, -⟩ := (canonicalPair_mem_parallel_iff hne).mp h
  rw [ordered_canonicalPair, ordered_iff hne]
  exact not_or.mpr ⟨Relation.not_isStrict_of_isUnordered hab, Relation.not_isStrict_of_isUnordered hba⟩

/-! ## Consistency of a pair -/

/-- Where the two cells are reconciled, an inclusive pair is no joint one. -/
theorem notMem_parallel_of_reconciled (hne : a ≠ b) (h : m.Reconciled a b) (h' : m.Reconciled b a)
    (hinclusive : canonicalPair a b ∈ (ofMatrixWithOrder m order).inclusive) :
    canonicalPair a b ∉ (ofMatrixWithOrder m order).parallel := by
  intro hparallel
  obtain ⟨hi, -⟩ := (canonicalPair_mem_inclusive_iff hne).mp hinclusive
  obtain ⟨⟨he, hab, hba⟩, -⟩ := (canonicalPair_mem_parallel_iff hne).mp hparallel
  have hdiffers : Existential.inclusive ≠ Existential.equivalent := by decide
  -- the equivalence stands in the cell that is not inclusive
  rcases hi with hi | hi
  · exact h.single hi ⟨he.resolve_left fun he => hdiffers (hi.symm.trans he), hab, hba⟩
  · exact h'.single hi ⟨he.resolve_right fun he => hdiffers (hi.symm.trans he), hba, hab⟩

theorem not_ordered_of_reconciled (hne : a ≠ b) (h : m.Reconciled a b) (h' : m.Reconciled b a)
    {kind : PairKind} (hmem : canonicalPair a b ∈ (ofMatrixWithOrder m order).ofKind kind) :
    ¬ (ofMatrixWithOrder m order).Ordered a b := by
  rw [ordered_iff hne, not_or]
  cases kind with
  | exclusive =>
      rcases (canonicalPair_mem_exclusive_iff hne).mp hmem with he | he
      · exact h.unordered (by simp [he])
      · exact (h'.unordered (by simp [he])).symm
  | parallel =>
      have hunordered := not_ordered_of_mem_parallel hmem
      rwa [ordered_canonicalPair, ordered_iff hne, not_or] at hunordered
  | inclusive =>
      rcases ((canonicalPair_mem_inclusive_iff hne).mp hmem).1 with hi | hi
      · exact h.unordered (by simp [hi])
      · exact (h'.unordered (by simp [hi])).symm

theorem reconciled_of_consistentAt (hne : a ≠ b)
    (h : (ofMatrixWithOrder m order).ConsistentAt (canonicalPair a b)) : m.Reconciled a b := by
  have hexclusive : canonicalPair a b ∈ (ofMatrixWithOrder m order).exclusive ↔ _ :=
    canonicalPair_mem_exclusive_iff hne
  have hinclusive : canonicalPair a b ∈ (ofMatrixWithOrder m order).inclusive ↔ _ :=
    canonicalPair_mem_inclusive_iff hne
  have hparallel : canonicalPair a b ∈ (ofMatrixWithOrder m order).parallel ↔ _ :=
    canonicalPair_mem_parallel_iff hne
  constructor
  · intro hsymbol
    -- the pair is of some kind, and pairs of a kind are not ordered
    have hkind : ∃ kind, canonicalPair a b ∈ (ofMatrixWithOrder m order).ofKind kind := by
      by_cases hmem : canonicalPair a b ∈ (ofMatrixWithOrder m order).exclusive
      · exact ⟨.exclusive, hmem⟩
      · rw [List.mem_pair] at hsymbol
        exact ⟨.inclusive, hinclusive.mpr
          ⟨.inl (hsymbol.resolve_left fun he => hmem (hexclusive.mpr (.inl he))), hmem⟩⟩
    obtain ⟨kind, hmem⟩ := hkind
    have hunordered := h.unordered kind hmem
    rwa [ordered_canonicalPair, ordered_iff hne, not_or] at hunordered
  · rintro hi ⟨he, hab, hba⟩
    have hmem : canonicalPair a b ∉ (ofMatrixWithOrder m order).exclusive := by
      rw [hexclusive, hi, he]
      decide
    exact absurd (h.single .parallel .inclusive (hparallel.mpr ⟨⟨.inr he, hab, hba⟩, hmem⟩)
      (hinclusive.mpr ⟨.inl hi, hmem⟩)) (by decide)

/-- What is said of a pair is consistent exactly if neither of its cells contradicts the other one. -/
theorem consistentAt_iff_reconciled (hne : a ≠ b) :
    (ofMatrixWithOrder m order).ConsistentAt (canonicalPair a b) ↔
      m.Reconciled a b ∧ m.Reconciled b a := by
  refine ⟨fun h => ⟨reconciled_of_consistentAt hne h, ?_⟩, fun ⟨h, h'⟩ => ⟨?_, fun kind hmem => ?_⟩⟩
  · exact reconciled_of_consistentAt hne.symm (canonicalPair_comm a b ▸ h)
  · intro kind other hkind hother
    have hboth : canonicalPair a b ∈ (ofMatrixWithOrder m order).inclusive →
        canonicalPair a b ∉ (ofMatrixWithOrder m order).parallel :=
      notMem_parallel_of_reconciled hne h h'
    cases kind with
    | exclusive => exact (eq_exclusive_of_mem hother hkind).symm
    | parallel =>
        cases other with
        | exclusive => exact eq_exclusive_of_mem hkind hother
        | parallel => rfl
        | inclusive => exact absurd hkind (hboth hother)
    | inclusive =>
        cases other with
        | exclusive => exact eq_exclusive_of_mem hkind hother
        | parallel => exact absurd hother (hboth hkind)
        | inclusive => rfl
  · rw [ordered_canonicalPair]
    exact not_ordered_of_reconciled hne h h' hmem

/-- Relation sets are consistent exactly if no cell contradicts the other cell of its pair. -/
theorem consistent_iff_reconciled : (ofMatrixWithOrder m order).Consistent ↔
    ∀ a b, a ≠ b → m.Reconciled a b := by
  refine ⟨fun h a b hne => reconciled_of_consistentAt hne (consistent_iff.mp h _), fun h => ?_⟩
  have hat : ∀ {kind pair}, pair ∈ (ofMatrixWithOrder m order).ofKind kind →
      (ofMatrixWithOrder m order).ConsistentAt pair := by
    intro kind pair hmem
    obtain ⟨a, b, hne, rfl⟩ := exists_canonicalPair_of_mem_ofKind hmem
    exact (consistentAt_iff_reconciled hne).mpr ⟨h a b hne, h b a hne.symm⟩
  exact consistent_iff.mpr fun pair => ⟨fun kind other hkind => (hat hkind).single kind other hkind,
    fun kind hkind => (hat hkind).unordered kind hkind⟩

end Cells

/-! ## Validated matrices -/

/-- What validation makes sure of in the relation sets of a matrix, and what decides the rest. -/
structure Reconciles (m : Matrix) (r : RelationSets) : Prop where
  /-- Consistency is a matter of the two cells of each pair. -/
  consistent : r.Consistent ↔ ∀ a b, a ≠ b → m.Reconciled a b
  /-- Exclusion excludes the other kinds. -/
  exclusive : ∀ kind, kind ≠ .exclusive → List.Disjoint r.exclusive (r.ofKind kind)
  /-- Joint pairs are not ordered. -/
  parallel : ∀ pair ∈ r.parallel, ¬ r.Ordered pair.1 pair.2
  /-- What is said of two listed activities is consistent, unless one cell states an inclusive pair and
  the other one a strict order. -/
  listed : ∀ a ∈ m.activities, ∀ b ∈ m.activities, a ≠ b →
    (r.ConsistentAt (canonicalPair a b) ↔
      ((m.relation a b).existential = Existential.inclusive → ¬ (m.relation b a).IsStrict) ∧
      ((m.relation b a).existential = Existential.inclusive → ¬ (m.relation a b).IsStrict))
  /-- Then the pair is inclusive and ordered at once, and there is no other contradiction. -/
  halfway : ∀ a ∈ m.activities, ∀ b ∈ m.activities, a ≠ b → ¬ r.ConsistentAt (canonicalPair a b) →
    (∀ kind, canonicalPair a b ∈ r.ofKind kind ↔ kind = .inclusive) ∧ r.Ordered a b

section Validated

variable {m : Matrix} {allowed : Option (List String)} {order known : List String} {a b : String}
  (h : m.validate allowed = .ok order) (ha : a ∈ m.activities) (hb : b ∈ m.activities) (hne : a ≠ b)
include h ha hb hne

theorem consistentAt_iff_of_validate :
    (ofMatrixWithOrder m known).ConsistentAt (canonicalPair a b) ↔
      ((m.relation a b).existential = Existential.inclusive → ¬ (m.relation b a).IsStrict) ∧
      ((m.relation b a).existential = Existential.inclusive → ¬ (m.relation a b).IsStrict) := by
  have hcell := Matrix.validCell_of_validate h ha hb hne
  have hcell' := Matrix.validCell_of_validate h hb ha hne.symm
  rw [consistentAt_iff_reconciled hne, hcell.reconciled_iff hcell', hcell'.reconciled_iff hcell]

/-- An inclusive cell next to a strict one makes the pair inclusive and nothing else. -/
theorem mem_ofKind_iff_of_strict (hi : (m.relation a b).existential = Existential.inclusive)
    (hstrict : (m.relation b a).IsStrict) (kind : PairKind) :
    canonicalPair a b ∈ (ofMatrixWithOrder m known).ofKind kind ↔ kind = .inclusive := by
  have hcell' := Matrix.validCell_of_validate h hb ha hne.symm
  have hother : (m.relation b a).existential ≠ Existential.exclusive := fun he =>
    hcell'.compatible hstrict (by rw [he]; decide)
  have hexclusive : canonicalPair a b ∉ (ofMatrixWithOrder m known).exclusive := by
    rw [canonicalPair_mem_exclusive_iff hne, hi]
    exact not_or.mpr ⟨by decide, hother⟩
  cases kind with
  | exclusive => exact iff_of_false hexclusive (by decide)
  | parallel =>
      refine iff_of_false (fun hmem => ?_) (by decide)
      exact not_ordered_of_mem_parallel hmem ((ordered_canonicalPair a b).mpr
        ((ordered_iff hne).mpr (.inr hstrict)))
  | inclusive =>
      exact iff_of_true ((canonicalPair_mem_inclusive_iff hne).mpr ⟨.inl hi, hexclusive⟩) rfl

theorem halfway_of_validate
    (hinconsistent : ¬ (ofMatrixWithOrder m known).ConsistentAt (canonicalPair a b)) :
    (∀ kind, canonicalPair a b ∈ (ofMatrixWithOrder m known).ofKind kind ↔ kind = .inclusive) ∧
      (ofMatrixWithOrder m known).Ordered a b := by
  rw [consistentAt_iff_of_validate h ha hb hne, Classical.not_and_iff_not_or_not] at hinconsistent
  rcases hinconsistent with hcells | hcells
  · obtain ⟨hi, hstrict⟩ := Classical.not_imp.mp hcells
    have hstrict := Classical.not_not.mp hstrict
    exact ⟨mem_ofKind_iff_of_strict h ha hb hne hi hstrict, (ordered_iff hne).mpr (.inr hstrict)⟩
  · obtain ⟨hi, hstrict⟩ := Classical.not_imp.mp hcells
    have hstrict := Classical.not_not.mp hstrict
    rw [canonicalPair_comm]
    exact ⟨mem_ofKind_iff_of_strict h hb ha hne.symm hi hstrict, (ordered_iff hne).mpr (.inl hstrict)⟩

end Validated

/-- **Consistency of the relation sets of a valid matrix**, in whichever order its activities are taken:
they are consistent exactly if no cell contradicts the other cell of its pair, and two listed activities
have such cells only if one of them states an inclusive pair and the other one a strict order. -/
theorem consistency_of_validate {m : Matrix} {allowed : Option (List String)} {order : List String}
    (h : m.validate allowed = .ok order) (known : Option (List String)) :
    ∃ r, ofMatrix m known = .ok r ∧ Reconciles m r := by
  have hreconciles : ∀ known, Reconciles m (ofMatrixWithOrder m known) := fun known =>
    { consistent := consistent_iff_reconciled
      exclusive := fun kind hkind pair hexclusive hmem => hkind (eq_exclusive_of_mem hmem hexclusive)
      parallel := fun pair => not_ordered_of_mem_parallel
      listed := fun a ha b hb hne => consistentAt_iff_of_validate h ha hb hne
      halfway := fun a ha b hb hne => halfway_of_validate h ha hb hne }
  cases known with
  | none => exact ⟨_, ofMatrix_of_validate h, hreconciles order⟩
  | some known => exact ⟨_, rfl, hreconciles known⟩

/-- Two activities of which at least one occurs by the cell of `a`, while the cell of `b` states that `b`
comes before `a` and that `a` occurs if `b` does. -/
def halfInclusive : Matrix :=
  .ofCells (.ofList [
    ("a", .ofList [("a", .identity), ("b", ⟨"-", "∨"⟩)]),
    ("b", .ofList [("a", ⟨"<", "⇒"⟩), ("b", .identity)])]) ["a", "b"]

theorem consistency_of_validate_halfInclusive :
    halfInclusive.validate none = .ok ["b", "a"] ∧
      ∃ r, ofMatrix halfInclusive none = .ok r ∧ Reconciles halfInclusive r ∧ ¬ r.Consistent := by
  have hvalid : halfInclusive.validate none = .ok ["b", "a"] := eq_ok_of_toOption (by decide +kernel)
  obtain ⟨r, hr, hreconciles⟩ := consistency_of_validate hvalid none
  refine ⟨hvalid, r, hr, hreconciles, fun hconsistent => ?_⟩
  have hlisted := hreconciles.listed "a" (by decide) "b" (by decide) (by decide)
  have hcells := hlisted.mp (consistent_iff.mp hconsistent _)
  exact hcells.1 (by decide) (.inl (by decide))

end RelationSets

end ActivityMatrix
