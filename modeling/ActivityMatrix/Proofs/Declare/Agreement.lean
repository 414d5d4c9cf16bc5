import ActivityMatrix.Proofs.Declare.Contribution
import ActivityMatrix.Proofs.Matrix.Requirements
import ActivityMatrix.Proofs.RelationSets.Classified
import ActivityMatrix.Proofs.RelationSets.Validated
import Mathlib.Data.Sym.Sym2

/-!
# Constraints and relation sets agree

The constraints of a matrix and its relation sets are read off the same cells by different means: one
cell of each pair is looked up in a table, while classification goes through all cells. On a valid
matrix they agree (`derivation_agrees`). Every two activities have one constraint, or one entry among the
pairs without a constraint, or neither, and which it is depends on the symbols of the cell that is looked
up; what a constraint says of the order or the exclusion of its activities stands in the relation sets.
-/

namespace ActivityMatrix.Declare

open RelationSets

variable {m : Matrix} {allowed : Option (List String)} {order : List String} {r : Relation}
  {a b row column name : String} {reversed : Bool} {c : Constraint String}

/-! ## What a pair contributes -/

/-- The constraints between two activities. -/
def constraintsBetween (d : Derivation) (a b : String) : List (Constraint String) :=
  d.model.constraints.filter fun c => s(c.source, c.target) = s(a, b)

/-- The entries of two activities among the pairs without a constraint. -/
def entriesBetween (d : Derivation) (a b : String) : List (String × String × String) :=
  d.unmapped.filter fun entry => s(entry.1, entry.2.1) = s(a, b)

/-- The pairs of a matrix that join two activities. -/
def pairsBetween (m : Matrix) (a b : String) : List (String × String) :=
  m.pairs.filter fun pair => s(pair.1, pair.2) = s(a, b)

/-- A test on what comes of the members of a list that is one on the members themselves can be made
first. -/
theorem filter_filterMap_of_forall {α β : Type} {f : α → Option β} {p : α → Bool} {q : β → Bool}
    (h : ∀ a b, f a = some b → q b = p a) (l : List α) :
    (l.filterMap f).filter q = (l.filter p).filterMap f := by
  rw [List.filter_filterMap, List.filterMap_filter]
  refine List.filterMap_congr fun a _ => ?_
  cases ha : f a with
  | none => simp
  | some b => simp [Option.filter, h a b ha]

theorem filterMap_singleton {α β : Type} (f : α → Option β) (a : α) :
    [a].filterMap f = (f a).toList := by
  cases h : f a <;> simp [h]

theorem constraintsBetween_ofMatrix (m : Matrix) (a b : String) :
    constraintsBetween (Derivation.ofMatrix m) a b = (pairsBetween m a b).filterMap (statedAt m) := by
  rw [constraintsBetween, constraints_ofMatrix]
  refine filter_filterMap_of_forall (fun pair c hc => ?_) _
  have hends : s(c.source, c.target) = s(pair.1, pair.2) :=
    Sym2.mk_eq_mk_iff (p := (c.source, c.target)).mpr (ends_of_stated? hc)
  rw [hends]

theorem entriesBetween_ofMatrix (m : Matrix) (a b : String) :
    entriesBetween (Derivation.ofMatrix m) a b = (pairsBetween m a b).filterMap (unmappedAt m) := by
  rw [entriesBetween, unmapped_ofMatrix]
  refine filter_filterMap_of_forall (fun pair entry hentry => ?_) _
  rw [(unmapped?_eq_some_iff.mp hentry).2]

/-- Every two listed activities are joined by one pair. -/
theorem exists_pairsBetween (hnodup : m.activities.Nodup) (ha : a ∈ m.activities)
    (hb : b ∈ m.activities) (hne : a ≠ b) :
    ∃ row column, (row, column) ∈ m.pairs ∧ pairsBetween m a b = [(row, column)] := by
  have honly : ∀ {a b}, (a, b) ∈ m.pairs → pairsBetween m a b = [(a, b)] := by
    intro a b hab
    refine filter_eq_singleton (nodup_orderedPairs hnodup) hab fun pair hpair => ?_
    rw [decide_eq_true_iff]
    constructor
    · intro hsame
      rcases Sym2.mk_eq_mk_iff (q := (a, b)).mp hsame with heq | rfl
      · exact heq
      · exact absurd hpair (swap_notMem_orderedPairs hnodup hab)
    · rintro rfl
      rfl
  rcases mem_orderedPairs_or ha hb hne with h | h
  · exact ⟨a, b, h, honly h⟩
  · refine ⟨b, a, h, ?_⟩
    rw [← honly h, pairsBetween, pairsBetween, Sym2.eq_swap]

/-- The relations without a constraint are those that state an immediate order and nothing else. -/
theorem resolve_eq_none_iff (hcell : m.ValidCell a b) : resolve (m.relation a b) = none ↔
    (m.relation a b).isDirect ∧ (m.relation a b).existential = Existential.independent :=
  Relation.forall_legal (p := fun r => (r.precedes ∨ r.follows →
      r.existential ∉ Existential.orderIncompatible) →
    (resolve r = none ↔ r.isDirect ∧ r.existential = Existential.independent)) (by decide)
    hcell.legal hcell.compatible

/-- The only relation whose constraint is not stated is the one that states nothing. -/
theorem mem_silentConstraints_iff (h : r.hasLegalSymbols) (hr : resolve r = some (name, reversed)) :
    name ∈ silentConstraints ↔ r = .unrelated := by
  apply forall_resolved h hr
  decide

/-- What the lists of constraints and of entries between two activities hold, given the cell that is
looked up: a single member of one of them, or nothing if the cell states nothing. -/
structure ContributesOnce (d : Derivation) (a b : String) (r : Relation) : Prop where
  total : (constraintsBetween d a b).length + (entriesBetween d a b).length =
    if r = .unrelated then 0 else 1
  entries : (entriesBetween d a b).length =
    if r.isDirect ∧ r.existential = Existential.independent then 1 else 0

theorem contributesOnce (hcell : m.ValidCell row column)
    (hpairs : pairsBetween m a b = [(row, column)]) :
    ContributesOnce (Derivation.ofMatrix m) a b (m.relation row column) := by
  have hconstraints : constraintsBetween (Derivation.ofMatrix m) a b =
      (contribution row column (m.relation row column)).stated?.toList := by
    rw [constraintsBetween_ofMatrix, hpairs, filterMap_singleton]
    rfl
  have hentries : entriesBetween (Derivation.ofMatrix m) a b =
      (contribution row column (m.relation row column)).unmapped?.toList := by
    rw [entriesBetween_ofMatrix, hpairs, filterMap_singleton]
    rfl
  have hunmapped := resolve_eq_none_iff hcell
  have hlegal := hcell.legal
  -- from here on only the relation of the cell counts
  generalize m.relation row column = r at *
  cases hr : resolve r with
  | none =>
      have hr' := hunmapped.mp hr
      have hne : r ≠ .unrelated := by
        rintro rfl
        exact absurd hr'.1 (by decide)
      rw [contribution_of_none hr] at hconstraints hentries
      exact ⟨by simp [hconstraints, hentries, hne], by simp [hentries, hr']⟩
  | some found =>
      obtain ⟨name, reversed⟩ := found
      have hr' : ¬ (r.isDirect ∧ r.existential = Existential.independent) := by simp [← hunmapped, hr]
      have hsilent := mem_silentConstraints_iff hlegal hr
      by_cases hname : name ∈ silentConstraints
      · rw [contribution_of_mem hr hname] at hconstraints hentries
        exact ⟨by simp [hconstraints, hentries, hsilent.mp hname],
          by simp only [hentries, if_neg hr']; rfl⟩
      · rw [contribution_of_notMem hr hname] at hconstraints hentries
        have hne : r ≠ .unrelated := fun h => hname (hsilent.mpr h)
        exact ⟨by simp [hconstraints, hentries, hne], by simp only [hentries, if_neg hr']; rfl⟩

/-! ## What a constraint says -/

/-- What a constraint says of the order and the exclusion of its activities is stated by relation sets. -/
structure Reflects (relations : RelationSets) (c : Constraint String) : Prop where
  forward : c.name ∈ forwardConstraints → (c.source, c.target) ∈ relations.chains
  backward : c.name ∈ backwardConstraints → (c.target, c.source) ∈ relations.chains
  immediate_forward : c.name ∈ ["chain_response", "chain_succession"] →
    (c.source, c.target) ∈ relations.direct
  immediate_backward : c.name = "chain_precedence" → (c.target, c.source) ∈ relations.direct
  exclusive : c.name = "not_coexistence" → (c.source, c.target) ∈ relations.exclusive
  inclusive : c.name = "choice" → (c.source, c.target) ∈ relations.inclusive

/-- What the name of a constraint tells about the symbols of its relation. -/
theorem symbols_of_resolve (h : r.hasLegalSymbols) (hr : resolve r = some (name, reversed)) :
    (name ∈ ["chain_response", "chain_succession", "chain_precedence"] → r.isDirect) ∧
      (name = "not_coexistence" → r.existential = Existential.exclusive) ∧
      (name = "choice" → r.existential = Existential.inclusive) := by
  apply forall_resolved h hr
  decide

theorem leastFirst_eq_canonicalPair (a b : String) : leastFirst (a, b) = canonicalPair a b := by
  unfold leastFirst canonicalPair nameLE
  rcases Std.lt_trichotomy a b with h | rfl | h
  · simp [h, String.lt_asymm h]
  · simp
  · have hne : a ≠ b := fun heq => String.lt_irrefl _ (heq ▸ h)
    simp [h, hne, String.lt_asymm h]

theorem orient_eq_canonicalPair (h : name ∈ symmetricConstraints) (reversed : Bool) (a b : String) :
    ((orient name reversed a b).1, (orient name reversed a b).2) = canonicalPair a b := by
  rw [orient_of_mem h, leastFirst_eq_canonicalPair]

/-- An inclusive cell of a valid matrix belongs to a pair that is not exclusive. -/
theorem notMem_exclusive (hcell : m.ValidCell a b) (hcell' : m.ValidCell b a)
    (h : (m.relation a b).existential = Existential.inclusive) :
    canonicalPair a b ∉ (ofMatrixWithOrder m order).exclusive := by
  intro hmem
  obtain ⟨a', b', r, hr, -, hexclusive, hpair⟩ := mem_exclusive_iff.mp hmem
  have hdiffers : Existential.inclusive ≠ Existential.exclusive := by decide
  have hrelation := Matrix.relation_eq_of_get? hr
  -- the exclusive cell would be the same one, or the other one of the pair, which has to agree
  rcases eq_or_swap_of_canonicalPair_eq hpair with ⟨rfl, rfl⟩ | ⟨rfl, rfl⟩
  · exact hdiffers (by rw [← h, hrelation, hexclusive])
  · have hrepeated := hcell'.repeated (by rw [hrelation, hexclusive]; decide)
    exact hdiffers (by rw [← h, hrepeated, hrelation, hexclusive])

theorem reflects_of_stated? (hcell : m.ValidCell a b) (hcell' : m.ValidCell b a) (hne : a ≠ b)
    (hstated : (contribution a b (m.relation a b)).stated? = some c) :
    Reflects (ofMatrixWithOrder m order) c := by
  -- a constraint states the precedence that its cell states
  have hedge := precedence?_of_stated? hcell.legal hne hstated
  have hchains : ∀ edge, c.precedence? = some edge → edge ∈ (ofMatrixWithOrder m order).chains :=
    fun edge h => mem_chains_iff.mpr ⟨a, b, _, hcell.present, hedge ▸ h⟩
  have hdirect : (m.relation a b).isDirect → ∀ edge, c.precedence? = some edge →
      edge ∈ (ofMatrixWithOrder m order).direct :=
    fun hr edge h => mem_direct_iff.mpr ⟨a, b, _, hcell.present, hr, hedge ▸ h⟩
  obtain ⟨name, reversed, hr, -, rfl⟩ := stated?_eq_some_iff.mp hstated
  obtain ⟨himmediate, hexclusive, hinclusive⟩ := symbols_of_resolve hcell.legal hr
  have hforward : ∀ name ∈ ["chain_response", "chain_succession"], name ∈ forwardConstraints ∧
      name ∈ ["chain_response", "chain_succession", "chain_precedence"] := by decide
  have hbackward : "chain_precedence" ∈ backwardConstraints := by decide
  refine ⟨fun h => hchains _ (precedence?_of_mem_forward h),
    fun h => hchains _ (precedence?_of_mem_backward h), fun h => ?_, fun h => ?_, fun h => ?_, fun h => ?_⟩
  · obtain ⟨hname, hchain⟩ := hforward name h
    exact hdirect (himmediate hchain) _ (precedence?_of_mem_forward hname)
  · obtain rfl : name = "chain_precedence" := h
    exact hdirect (himmediate (by decide)) _ (precedence?_of_mem_backward hbackward)
  · obtain rfl : name = "not_coexistence" := h
    rw [orient_eq_canonicalPair (by decide)]
    exact mem_exclusive_iff.mpr ⟨a, b, _, hcell.present, hne, hexclusive rfl, rfl⟩
  · obtain rfl : name = "choice" := h
    rw [orient_eq_canonicalPair (by decide)]
    exact mem_inclusive_iff.mpr ⟨⟨a, b, _, hcell.present, hne, hinclusive rfl, rfl⟩,
      notMem_exclusive hcell hcell' (hinclusive rfl)⟩

section Valid

variable (h : m.validate allowed = .ok order) (hnodup : m.activities.Nodup)
include h hnodup

/-- The pairs of a valid matrix join different activities, and both of their cells are valid. -/
theorem validCells_of_mem_pairs (hpair : (row, column) ∈ m.pairs) :
    row ≠ column ∧ m.ValidCell row column ∧ m.ValidCell column row := by
  obtain ⟨hrow, hcolumn⟩ := mem_of_mem_orderedPairs hpair
  have hne := ne_of_mem_orderedPairs hnodup hpair
  exact ⟨hne, Matrix.validCell_of_validate h hrow hcolumn hne,
    Matrix.validCell_of_validate h hcolumn hrow hne.symm⟩

theorem reflects_of_mem_constraints (known : List String)
    (hc : c ∈ (Derivation.ofMatrix m).model.constraints) :
    Reflects (ofMatrixWithOrder m known) c := by
  obtain ⟨⟨row, column⟩, hpair, hstated⟩ := mem_constraints_ofMatrix.mp hc
  obtain ⟨hne, hcell, hcell'⟩ := validCells_of_mem_pairs h hnodup hpair
  exact reflects_of_stated? hcell hcell' hne hstated

/-- **Constraints and relation sets of a valid matrix agree.** Every two of its activities are joined by
one pair, whose cell decides whether there is one constraint between them, one entry among the pairs
without a constraint, or nothing. And in whichever order the activities are taken, the relation sets
reflect all constraints. -/
theorem derivation_agrees :
    (∀ a ∈ m.activities, ∀ b ∈ m.activities, a ≠ b → ∃ row column,
        pairsBetween m a b = [(row, column)] ∧
          ContributesOnce (Derivation.ofMatrix m) a b (m.relation row column)) ∧
      ∀ known : Option (List String), ∃ relations, RelationSets.ofMatrix m known = .ok relations ∧
        ∀ c ∈ (Derivation.ofMatrix m).model.constraints, Reflects relations c := by
  refine ⟨fun a ha b hb hne => ?_, fun known => ?_⟩
  · obtain ⟨row, column, hpair, hbetween⟩ := exists_pairsBetween hnodup ha hb hne
    obtain ⟨-, hcell, -⟩ := validCells_of_mem_pairs h hnodup hpair
    exact ⟨row, column, hbetween, contributesOnce hcell hbetween⟩
  · cases known with
    | none => exact ⟨_, ofMatrix_of_validate h, fun c => reflects_of_mem_constraints h hnodup order⟩
    | some known => exact ⟨_, rfl, fun c => reflects_of_mem_constraints h hnodup known⟩

end Valid

/-- Three activities whose cells are no converses: `c` before `a`, `a` immediately before `b`, and `b` or
`c` or both, each stated by one cell only. -/
def onesidedTriple : Matrix :=
  .ofCells (.ofList [
    ("a", .ofList [("a", .identity), ("b", ⟨"<d", "-"⟩), ("c", ⟨">", "⇒"⟩)]),
    ("b", .ofList [("a", ⟨"-", "-"⟩), ("b", .identity), ("c", ⟨"-", "∨"⟩)]),
    ("c", .ofList [("a", ⟨"-", "-"⟩), ("b", ⟨"-", "-"⟩), ("c", .identity)])]) []

theorem derivation_agrees_onesidedTriple :
    onesidedTriple.validate none = .ok ["c", "a", "b"] ∧ onesidedTriple.activities.Nodup ∧
      (∀ a ∈ onesidedTriple.activities, ∀ b ∈ onesidedTriple.activities, a ≠ b → ∃ row column,
        pairsBetween onesidedTriple a b = [(row, column)] ∧ ContributesOnce
          (Derivation.ofMatrix onesidedTriple) a b (onesidedTriple.relation row column)) ∧
      ∀ known : Option (List String), ∃ relations,
        RelationSets.ofMatrix onesidedTriple known = .ok relations ∧
          ∀ c ∈ (Derivation.ofMatrix onesidedTriple).model.constraints, Reflects relations c := by
  have hvalid : onesidedTriple.validate none = .ok ["c", "a", "b"] :=
    eq_ok_of_toOption (by decide +kernel)
  have hnodup : onesidedTriple.activities.Nodup := by decide +kernel
  exact ⟨hvalid, hnodup, derivation_agrees hvalid hnodup⟩

end ActivityMatrix.Declare
