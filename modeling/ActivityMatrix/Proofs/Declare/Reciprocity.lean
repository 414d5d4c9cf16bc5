import ActivityMatrix.Proofs.Declare.Contribution
import ActivityMatrix.Proofs.Matrix.Requirements

/-!
# Reciprocal constraints of valid matrices

Succession, chain succession and coexistence all say that of two activities both occur or neither does.
They stem from equivalence, which a valid matrix states in both cells of a pair. The two temporal symbols
need not agree, though: validation refuses only two cells that state the same strict direction. So every
arrangement of the activities finds the same pairs reciprocal and never turns a succession around, but
which of the three constraints is stated depends on the arrangement unless the temporal symbols are
converses (`reciprocal_constraints_of_validate`).
-/

namespace ActivityMatrix.Declare

variable {m : Matrix} {allowed : Option (List String)} {order activities : List String}
  {r s : Relation} {a b source target name : String} {reversed : Bool} {c : Constraint String}

/-- The constraints by which both activities occur or neither does. -/
def reciprocalConstraints : List String := ["succession", "chain_succession", "coexistence"]

/-- A matrix states a constraint between two activities. -/
def States (m : Matrix) (source target name : String) : Prop :=
  ∃ c ∈ (Derivation.ofMatrix m).model.constraints,
    c.source = source ∧ c.target = target ∧ c.name = name

theorem states_iff : States m source target name ↔
    ∃ pair ∈ m.pairs, statedAt m pair = some ⟨source, target, name, some name⟩ := by
  simp only [States, mem_constraints_ofMatrix]
  constructor
  · rintro ⟨c, ⟨pair, hpair, hc⟩, rfl, rfl, rfl⟩
    obtain ⟨name, reversed, -, -, rfl⟩ := stated?_eq_some_iff.mp hc
    exact ⟨pair, hpair, hc⟩
  · rintro ⟨pair, hpair, hc⟩
    exact ⟨_, ⟨pair, hpair, hc⟩, rfl, rfl, rfl⟩

/-! ## Equivalence -/

/-- The reciprocal constraints are those of equivalence. -/
theorem mem_reciprocalConstraints_iff (h : r.hasLegalSymbols) (hr : resolve r = some (name, reversed)) :
    name ∈ reciprocalConstraints ↔ r.existential = Existential.equivalent := by
  apply forall_resolved h hr
  decide

theorem exists_stated?_of_equivalent (h : r.hasLegalSymbols)
    (hr : r.existential = Existential.equivalent) (a b : String) :
    ∃ source target name, (contribution a b r).stated? = some ⟨source, target, name, some name⟩ ∧
      name ∈ reciprocalConstraints := by
  have hresolves : (resolve r).isSome = true :=
    Relation.forall_legal (p := fun r => r.existential = Existential.equivalent →
      (resolve r).isSome = true) (by decide) h hr
  obtain ⟨⟨name, reversed⟩, hfound⟩ := Option.isSome_iff_exists.mp hresolves
  have hname := (mem_reciprocalConstraints_iff h hfound).mpr hr
  have hsilent : ∀ name ∈ reciprocalConstraints, name ∉ silentConstraints := by decide
  exact ⟨_, _, name,
    stated?_eq_some_iff.mpr ⟨name, reversed, hfound, hsilent name hname, rfl⟩, hname⟩

theorem eq_of_orient_eq (hname : name ∉ symmetricConstraints) (hne : a ≠ b) {reversed' : Bool}
    (h : orient name reversed' a b = orient name reversed a b) : reversed' = reversed := by
  rw [orient_of_notMem hname, orient_of_notMem hname] at h
  cases reversed <;> cases reversed' <;> simp_all

/-- Two equivalences that state the same constraint between different activities have the same order. -/
theorem eq_of_stated?_eq (hr : r.hasLegalSymbols) (hs : s.hasLegalSymbols)
    (hr' : r.existential = Existential.equivalent) (hs' : s.existential = Existential.equivalent)
    (hne : a ≠ b) (h : (contribution a b s).stated? = (contribution a b r).stated?) : s = r := by
  obtain ⟨temporal, existential⟩ := r
  obtain ⟨temporal', existential'⟩ := s
  obtain rfl : existential = Existential.equivalent := hr'
  obtain rfl : existential' = Existential.equivalent := hs'
  have htable : ∀ t ∈ Temporal.symbols, ∀ t' ∈ Temporal.symbols,
      ∀ found ∈ resolve ⟨t, Existential.equivalent⟩,
        ∀ found' ∈ resolve ⟨t', Existential.equivalent⟩, found'.1 = found.1 →
          found'.2 = found.2 ∨ found.1 ∈ symmetricConstraints → t' = t := by decide
  obtain ⟨source, target, name, hc, -⟩ := exists_stated?_of_equivalent hr rfl a b
  obtain ⟨_, reversed, hfound, -, hcr⟩ := stated?_eq_some_iff.mp hc
  obtain ⟨_, reversed', hfound', -, hcs⟩ := stated?_eq_some_iff.mp (h.trans hc)
  simp only [Constraint.mk.injEq] at hcr hcs
  obtain ⟨rfl, rfl, rfl, -⟩ := hcr
  obtain ⟨hsource, htarget, rfl, -⟩ := hcs
  -- a coexistence stems from one relation only, the other constraints from two that differ in side
  have hside : reversed' = reversed ∨ name ∈ symmetricConstraints := by
    by_cases hname : name ∈ symmetricConstraints
    · exact .inr hname
    · exact .inl (eq_of_orient_eq hname hne (Prod.ext hsource.symm htarget.symm))
  rw [htable temporal (Relation.hasLegalSymbols_iff.mp hr).1 temporal'
    (Relation.hasLegalSymbols_iff.mp hs).1 _ hfound _ hfound' rfl hside]

/-! ## Arrangements -/

theorem equivalent_of_statedAt (hcell : m.ValidCell a b) (hstated : statedAt m (a, b) = some c)
    (hname : c.name ∈ reciprocalConstraints) :
    (m.relation a b).existential = Existential.equivalent := by
  obtain ⟨name, reversed, hresolve, -, rfl⟩ := stated?_eq_some_iff.mp hstated
  exact (mem_reciprocalConstraints_iff hcell.legal hresolve).mp hname

theorem equivalent_swap (hcell : m.ValidCell a b)
    (h : (m.relation a b).existential = Existential.equivalent) :
    (m.relation b a).existential = Existential.equivalent := by
  rw [hcell.repeated (by rw [h]; decide), h]

/-- Two cells of a pair do not state successions in opposite directions. -/
theorem coexistence_of_turned (hcell : m.ValidCell a b) (hcell' : m.ValidCell b a) (hne : a ≠ b)
    {name' : String}
    (hstated : statedAt m (a, b) = some ⟨source, target, name, some name⟩)
    (hstated' : statedAt m (b, a) = some ⟨target, source, name', some name'⟩)
    (hname : name ∈ reciprocalConstraints) (hname' : name' ∈ reciprocalConstraints) :
    name = "coexistence" ∨ name' = "coexistence" := by
  have hforward : ∀ name ∈ reciprocalConstraints, name ∈ forwardConstraints ∨ name = "coexistence" := by
    decide
  rcases hforward name hname with hname | hname
  · rcases hforward name' hname' with hname' | hname'
    · have hedge := precedence?_of_stated? hcell.legal hne hstated
      have hedge' := precedence?_of_stated? hcell'.legal hne.symm hstated'
      rw [precedence?_of_mem_forward hname] at hedge
      rw [precedence?_of_mem_forward hname'] at hedge'
      exact absurd hedge'.symm (hcell.precedence?_ne hedge.symm)
    · exact .inr hname'
  · exact .inl hname

section Valid

variable (h : m.validate allowed = .ok order) (hperm : activities.Perm m.activities)
include h hperm

/-- A constraint of an arrangement is one between different activities with valid cells. -/
theorem validCells_of_statedAt (hpair : (a, b) ∈ orderedPairs activities)
    (hstated : statedAt m (a, b) = some c) : a ≠ b ∧ m.ValidCell a b ∧ m.ValidCell b a := by
  obtain ⟨ha, hb⟩ := mem_of_mem_orderedPairs hpair
  rw [hperm.mem_iff] at ha hb
  -- a repeated activity is its own partner, and its identity has no constraint
  have hne : a ≠ b := by
    rintro rfl
    rw [statedAt, Matrix.relation_self_of_validate h ha] at hstated
    exact absurd hstated (by rw [contribution_of_none (by decide)]; simp)
  exact ⟨hne, Matrix.validCell_of_validate h ha hb hne, Matrix.validCell_of_validate h hb ha hne.symm⟩

/-- Every arrangement states a reciprocal constraint between the same activities, and turns it around
only from or to a coexistence. -/
theorem states_or_turned_of_states {activities' : List String}
    (hperm' : activities'.Perm m.activities) (hname : name ∈ reciprocalConstraints)
    (hstates : States { m with activities } source target name) :
    ∃ name' ∈ reciprocalConstraints, States { m with activities := activities' } source target name' ∨
      States { m with activities := activities' } target source name' ∧
        (name = "coexistence" ∨ name' = "coexistence") := by
  obtain ⟨⟨a, b⟩, hpair, hstated⟩ := states_iff.mp hstates
  obtain ⟨hne, hcell, hcell'⟩ := validCells_of_statedAt h hperm hpair hstated
  obtain ⟨ha, hb⟩ := mem_of_mem_orderedPairs hpair
  rw [hperm.mem_iff, ← hperm'.mem_iff] at ha hb
  -- the other arrangement reads the pair from the same cell, or from the one across
  rcases mem_orderedPairs_or ha hb hne with hpair' | hpair'
  · exact ⟨name, hname, .inl (states_iff.mpr ⟨_, hpair', hstated⟩)⟩
  · have hother := equivalent_swap hcell (equivalent_of_statedAt hcell hstated hname)
    obtain ⟨source', target', name', hstated', hname'⟩ :=
      exists_stated?_of_equivalent hcell'.legal hother b a
    have hstates' : States { m with activities := activities' } source' target' name' :=
      states_iff.mpr ⟨_, hpair', hstated'⟩
    by_cases hsame : source' = source ∧ target' = target
    · obtain ⟨rfl, rfl⟩ := hsame
      exact ⟨name', hname', .inl hstates'⟩
    · obtain ⟨rfl, rfl⟩ : source' = target ∧ target' = source := by
        have hends := ends_of_stated? hstated
        have hends' := ends_of_stated? hstated'
        simp only [Prod.mk.injEq] at hends hends'
        rcases hends with ⟨rfl, rfl⟩ | ⟨rfl, rfl⟩ <;> tauto
      exact ⟨name', hname', .inr ⟨hstates',
        coexistence_of_turned hcell hcell' hne hstated hstated' hname hname'⟩⟩

/-- If equivalences stand in converse cells, every arrangement states the same reciprocal constraints. -/
theorem states_of_states {activities' : List String} (hperm' : activities'.Perm m.activities)
    (hconverse : ∀ a ∈ m.activities, ∀ b ∈ m.activities, a ≠ b →
      (m.relation a b).existential = Existential.equivalent →
        m.relation b a = (m.relation a b).converse)
    (hname : name ∈ reciprocalConstraints)
    (hstates : States { m with activities } source target name) :
    States { m with activities := activities' } source target name := by
  obtain ⟨⟨a, b⟩, hpair, hstated⟩ := states_iff.mp hstates
  obtain ⟨hne, hcell, -⟩ := validCells_of_statedAt h hperm hpair hstated
  obtain ⟨ha, hb⟩ := mem_of_mem_orderedPairs hpair
  rw [hperm.mem_iff] at ha hb
  rcases mem_orderedPairs_or (hperm'.mem_iff.mpr ha) (hperm'.mem_iff.mpr hb) hne with hpair' | hpair'
  · exact states_iff.mpr ⟨_, hpair', hstated⟩
  · refine states_iff.mpr ⟨_, hpair', ?_⟩
    have hequivalent := equivalent_of_statedAt hcell hstated hname
    change (contribution b a (m.relation b a)).stated? = _
    rw [hconverse a ha b hb hne hequivalent, stated?_converse hcell.legal]
    exact hstated

omit hperm in
/-- If every arrangement states the same reciprocal constraints, equivalences stand in converse cells. -/
theorem converse_of_states_iff
    (hsame : ∀ activities : List String, activities.Perm m.activities → ∀ source target,
      ∀ name ∈ reciprocalConstraints,
        (States { m with activities } source target name ↔ States m source target name))
    (ha : a ∈ m.activities) (hb : b ∈ m.activities) (hne : a ≠ b)
    (hequivalent : (m.relation a b).existential = Existential.equivalent) :
    m.relation b a = (m.relation a b).converse := by
  have hcell := Matrix.validCell_of_validate h ha hb hne
  have hcell' := Matrix.validCell_of_validate h hb ha hne.symm
  obtain ⟨source, target, name, hstated, hname⟩ :=
    exists_stated?_of_equivalent hcell.legal hequivalent a b
  -- one arrangement reads the cell of `a` and `b`, another one the cell of `b` and `a`
  obtain ⟨first, hfirst, hab, -⟩ := exists_perm_orderedPairs ha hb hne
  obtain ⟨second, hsecond, -, hnot⟩ := exists_perm_orderedPairs hb ha hne.symm
  have hstates : States { m with activities := second } source target name :=
    (hsame second hsecond source target name hname).mpr
      ((hsame first hfirst source target name hname).mp (states_iff.mpr ⟨_, hab, hstated⟩))
  obtain ⟨⟨x, y⟩, hpair, hstated'⟩ := states_iff.mp hstates
  obtain ⟨rfl, rfl⟩ : b = x ∧ a = y := by
    have hends := ends_of_stated? hstated
    have hends' := ends_of_stated? hstated'
    have hxy : ¬ (x = a ∧ y = b) := by
      rintro ⟨rfl, rfl⟩
      exact hnot hpair
    simp only [Prod.mk.injEq] at hends hends'
    rcases hends with ⟨rfl, rfl⟩ | ⟨rfl, rfl⟩ <;> rcases hends' with ⟨rfl, rfl⟩ | ⟨rfl, rfl⟩ <;> tauto
  have hconverse : (m.relation a b).converse.existential = Existential.equivalent :=
    (congrArg Existential.converse hequivalent).trans (by decide)
  refine eq_of_stated?_eq (Relation.hasLegalSymbols_converse hcell.legal) hcell'.legal hconverse
    (equivalent_swap hcell hequivalent) hne.symm ?_
  rw [stated?_converse hcell.legal]
  exact hstated'.trans hstated.symm

end Valid

/-- **Reciprocal constraints of a valid matrix.** They do not depend on how the activities are listed if
and only if the two cells of every equivalence are converses. In any case the arrangements state
reciprocal constraints between the same activities, and they turn one around only from or to a
coexistence. -/
theorem reciprocal_constraints_of_validate (h : m.validate allowed = .ok order) :
    ((∀ activities : List String, activities.Perm m.activities → ∀ source target,
        ∀ name ∈ reciprocalConstraints,
          (States { m with activities } source target name ↔ States m source target name)) ↔
      ∀ a ∈ m.activities, ∀ b ∈ m.activities, a ≠ b →
        (m.relation a b).existential = Existential.equivalent →
          m.relation b a = (m.relation a b).converse) ∧
    ∀ activities : List String, activities.Perm m.activities → ∀ source target,
      ∀ name ∈ reciprocalConstraints, States m source target name →
        ∃ name' ∈ reciprocalConstraints, States { m with activities } source target name' ∨
          States { m with activities } target source name' ∧
            (name = "coexistence" ∨ name' = "coexistence") := by
  refine ⟨⟨fun hsame a ha b hb hne => converse_of_states_iff h hsame ha hb hne,
    fun hconverse activities hperm source target name hname => ⟨fun hstates => ?_, fun hstates => ?_⟩⟩,
    fun activities hperm source target name hname hstates => ?_⟩
  · exact states_of_states h hperm (.refl _) hconverse hname hstates
  · exact states_of_states h (.refl _) hperm hconverse hname hstates
  · exact states_or_turned_of_states h (.refl _) hperm hname hstates

/-- Two activities that occur together, of which only one cell states that `a` comes before `b`. -/
def halfOrdered : Matrix :=
  .ofCells (.ofList [
    ("a", .ofList [("a", .identity), ("b", ⟨"<", "⇔"⟩)]),
    ("b", .ofList [("a", ⟨"-", "⇔"⟩), ("b", .identity)])]) ["a", "b"]

theorem reciprocal_constraints_of_validate_halfOrdered :
    halfOrdered.validate none = .ok ["a", "b"] ∧
      ¬ ∀ activities : List String, activities.Perm halfOrdered.activities → ∀ source target,
        ∀ name ∈ reciprocalConstraints, (States { halfOrdered with activities } source target name ↔
          States halfOrdered source target name) := by
  have hvalid : halfOrdered.validate none = .ok ["a", "b"] := eq_ok_of_toOption (by decide +kernel)
  refine ⟨hvalid, fun hsame => ?_⟩
  have hconverse := (reciprocal_constraints_of_validate hvalid).1.mp hsame "a" (by decide) "b" (by decide)
    (by decide) (by decide)
  exact absurd hconverse (by decide)

end ActivityMatrix.Declare
