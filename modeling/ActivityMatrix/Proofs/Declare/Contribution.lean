import ActivityMatrix.Declare.Derivation
import ActivityMatrix.Proofs.Matrix.Cells

/-!
# What a cell contributes to a Declare model

A relation and its converse name the same constraint, and they read it from opposite sides unless it is
one that reads alike from both. So a cell and its converse, with the activities exchanged, contribute
the same constraint (`stated?_converse`) or none (`resolve_converse_eq_none_iff`). All facts about the
table are facts about legal symbols and are settled by going through these.

```text
          ⇒              ⇐    ⇔                  ⇎                ∨       ∧             -
<         response       ↺    succession         (illegal)                              neg_response
<d        chain_response ↺    chain_succession   (illegal)                              none
-         resp_existence ↺    coexistence        not_coexistence  choice  resp_absence  silent
```

The rows of `>` and `>d` are those of `<` and `<d` read from the other side, and `↺` stands for what the
converse names: `⇐` below `<d` is the `⇒` of `>d`, a `chain_precedence`.
-/

namespace ActivityMatrix.Declare

variable {m : Matrix} {r : Relation} {a b name : String} {reversed : Bool} {c : Constraint String}
  {entry : String × String × String}

/-! ## The table -/

/-- What the table shows of all legal symbols holds of every relation with a constraint. -/
theorem forall_resolved {p : Relation → String → Bool → Prop} (h : r.hasLegalSymbols)
    (hr : resolve r = some (name, reversed))
    (htable : ∀ t ∈ Temporal.symbols, ∀ e ∈ Existential.symbols,
      ∀ found ∈ resolve ⟨t, e⟩, p ⟨t, e⟩ found.1 found.2) : p r name reversed :=
  Relation.forall_legal (p := fun r => ∀ found ∈ resolve r, p r found.1 found.2) htable h _ hr

/-- A relation and its converse name the same constraint, and they read it from opposite sides unless it
reads alike from both or is not stated at all. -/
theorem resolve_converse (h : r.hasLegalSymbols) (hr : resolve r = some (name, reversed)) :
    ∃ turned, resolve r.converse = some (name, turned) ∧
      (turned = !reversed ∨ name ∈ symmetricConstraints ++ silentConstraints) := by
  apply forall_resolved h hr
  decide

theorem resolve_converse_eq_none_iff (h : r.hasLegalSymbols) :
    resolve r.converse = none ↔ resolve r = none :=
  Relation.forall_legal (p := fun r => resolve r.converse = none ↔ resolve r = none) (by decide) h

/-- The constraints by which the first activity comes first. -/
def forwardConstraints : List String :=
  ["response", "chain_response", "succession", "chain_succession", "neg_response"]

/-- The constraints by which the second activity comes first. -/
def backwardConstraints : List String := ["precedence", "chain_precedence"]

/-- A relation is a strict order exactly if its constraint speaks of one, in the same direction. -/
theorem resolve_directed (h : r.hasLegalSymbols) (hr : resolve r = some (name, reversed)) :
    (r.precedes ↔ name ∈ if reversed then backwardConstraints else forwardConstraints) ∧
      (r.follows ↔ name ∈ if reversed then forwardConstraints else backwardConstraints) := by
  apply forall_resolved h hr
  decide

/-! ## Ends -/

theorem leastFirst_swap (a b : String) : leastFirst (b, a) = leastFirst (a, b) := by
  unfold leastFirst
  rcases Std.lt_trichotomy a b with h | rfl | h
  · simp [h, String.lt_asymm h]
  · rfl
  · simp [h, String.lt_asymm h]

theorem orient_of_mem (h : name ∈ symmetricConstraints) (reversed : Bool) (a b : String) :
    orient name reversed a b = leastFirst (a, b) := by
  rw [orient, if_pos (List.contains_iff_mem.mpr h)]
  cases reversed
  · rfl
  · exact leastFirst_swap a b

theorem orient_of_notMem (h : name ∉ symmetricConstraints) (reversed : Bool) (a b : String) :
    orient name reversed a b = if reversed then (b, a) else (a, b) := by
  rw [orient, if_neg (by simpa using h)]

/-- A constraint that is read from the other activity has the same ends. -/
theorem orient_not (name : String) (reversed : Bool) (a b : String) :
    orient name (!reversed) b a = orient name reversed a b := by
  by_cases h : name ∈ symmetricConstraints
  · rw [orient_of_mem h, orient_of_mem h, leastFirst_swap]
  · rw [orient_of_notMem h, orient_of_notMem h]
    cases reversed <;> rfl

/-- The ends of a constraint are the row and the column activity. -/
theorem orient_eq_or (name : String) (reversed : Bool) (a b : String) :
    orient name reversed a b = (a, b) ∨ orient name reversed a b = (b, a) := by
  by_cases h : name ∈ symmetricConstraints
  · rw [orient_of_mem h, leastFirst]
    split_ifs
    · exact .inr rfl
    · exact .inl rfl
  · rw [orient_of_notMem h]
    cases reversed
    · exact .inl rfl
    · exact .inr rfl

/-! ## Contributions -/

theorem contribution_of_none (h : resolve r = none) (a b : String) :
    contribution a b r = .unmapped a b r.key := by
  rw [contribution, h]

theorem contribution_of_mem (h : resolve r = some (name, reversed)) (hsilent : name ∈ silentConstraints)
    (a b : String) : contribution a b r = .silent := by
  rw [contribution, h]
  exact if_pos (List.contains_iff_mem.mpr hsilent)

theorem contribution_of_notMem (h : resolve r = some (name, reversed))
    (hsilent : name ∉ silentConstraints) (a b : String) : contribution a b r =
      .stated ⟨(orient name reversed a b).1, (orient name reversed a b).2, name, some name⟩ := by
  rw [contribution, h]
  exact if_neg (by simpa using hsilent)

/-- The constraint of a contribution. -/
@[simp]
def Contribution.stated? : Contribution → Option (Constraint String)
  | .stated c => some c
  | _ => none

/-- The entry of a contribution among the pairs without a constraint. -/
@[simp]
def Contribution.unmapped? : Contribution → Option (String × String × String)
  | .unmapped row column key => some (row, column, key)
  | _ => none

theorem stated?_eq_some_iff : (contribution a b r).stated? = some c ↔
    ∃ name reversed, resolve r = some (name, reversed) ∧ name ∉ silentConstraints ∧
      c = ⟨(orient name reversed a b).1, (orient name reversed a b).2, name, some name⟩ := by
  cases hr : resolve r with
  | none => simp [contribution_of_none hr]
  | some found =>
      obtain ⟨name, reversed⟩ := found
      constructor
      · intro h
        by_cases hsilent : name ∈ silentConstraints
        · rw [contribution_of_mem hr hsilent] at h
          cases h
        · rw [contribution_of_notMem hr hsilent] at h
          exact ⟨name, reversed, rfl, hsilent, (Option.some.inj h).symm⟩
      · rintro ⟨_, _, hfound, hsilent, rfl⟩
        obtain ⟨rfl, rfl⟩ := Prod.mk.inj (Option.some.inj hfound)
        rw [contribution_of_notMem hr hsilent]
        rfl

theorem unmapped?_eq_some_iff :
    (contribution a b r).unmapped? = some entry ↔ resolve r = none ∧ entry = (a, b, r.key) := by
  cases hr : resolve r with
  | none => simp [contribution_of_none hr, eq_comm]
  | some found =>
      by_cases hsilent : found.1 ∈ silentConstraints
      · simp [contribution_of_mem hr hsilent]
      · simp [contribution_of_notMem hr hsilent]

theorem ends_of_stated? (h : (contribution a b r).stated? = some c) :
    (c.source, c.target) = (a, b) ∨ (c.source, c.target) = (b, a) := by
  obtain ⟨name, reversed, -, -, rfl⟩ := stated?_eq_some_iff.mp h
  exact orient_eq_or name reversed a b

/-- The strict precedence that a constraint speaks of, the earlier activity first. -/
def Constraint.precedence? (c : Constraint String) : Option (String × String) :=
  if c.name ∈ forwardConstraints then some (c.source, c.target)
  else if c.name ∈ backwardConstraints then some (c.target, c.source)
  else none

theorem precedence?_of_mem_forward (h : c.name ∈ forwardConstraints) :
    c.precedence? = some (c.source, c.target) :=
  if_pos h

theorem precedence?_of_mem_backward (h : c.name ∈ backwardConstraints) :
    c.precedence? = some (c.target, c.source) := by
  have hdisjoint : ∀ name ∈ backwardConstraints, name ∉ forwardConstraints := by decide
  rw [Constraint.precedence?, if_neg (hdisjoint _ h), if_pos h]

/-- **A constraint speaks of the precedence that its cell states.** -/
theorem precedence?_of_stated? (h : r.hasLegalSymbols) (hne : a ≠ b)
    (hstated : (contribution a b r).stated? = some c) :
    c.precedence? = Matrix.precedence? a b r := by
  obtain ⟨name, reversed, hr, -, rfl⟩ := stated?_eq_some_iff.mp hstated
  obtain ⟨hprecedes, hfollows⟩ := resolve_directed h hr
  have hsymmetric : ∀ name ∈ forwardConstraints ++ backwardConstraints, name ∉ symmetricConstraints := by
    decide
  have hdisjoint : ∀ name ∈ forwardConstraints, name ∉ backwardConstraints := by decide
  simp only [Constraint.precedence?, Matrix.precedence?, hne, if_false, hprecedes, hfollows]
  by_cases hforward : name ∈ forwardConstraints
  · have hside := orient_of_notMem (hsymmetric name (List.mem_append_left _ hforward)) reversed a b
    cases reversed <;> simp [hforward, hdisjoint name hforward, hside]
  · by_cases hbackward : name ∈ backwardConstraints
    · have hside := orient_of_notMem (hsymmetric name (List.mem_append_right _ hbackward)) reversed a b
      cases reversed <;> simp [hforward, hbackward, hside]
    · cases reversed <;> simp [hforward, hbackward]

theorem stated?_converse_of_eq_some (h : r.hasLegalSymbols)
    (hstated : (contribution a b r).stated? = some c) :
    (contribution b a r.converse).stated? = some c := by
  obtain ⟨name, reversed, hr, hsilent, rfl⟩ := stated?_eq_some_iff.mp hstated
  obtain ⟨turned, hturned, hside⟩ := resolve_converse h hr
  have horient : orient name turned b a = orient name reversed a b := by
    -- a constraint that is read from the same side has its ends in a fixed order
    rcases hside with rfl | hmem
    · exact orient_not name reversed a b
    · have hsymmetric := (List.mem_append.mp hmem).resolve_right hsilent
      rw [orient_of_mem hsymmetric, orient_of_mem hsymmetric, leastFirst_swap]
  exact stated?_eq_some_iff.mpr ⟨name, turned, hturned, hsilent, by rw [horient]⟩

/-- **A cell and its converse state the same constraint**, read from either activity. -/
theorem stated?_converse (h : r.hasLegalSymbols) (a b : String) :
    (contribution b a r.converse).stated? = (contribution a b r).stated? := by
  refine Option.ext fun c => ⟨fun hc => ?_, stated?_converse_of_eq_some h⟩
  have hback := stated?_converse_of_eq_some (Relation.hasLegalSymbols_converse h) hc
  rwa [Relation.converse_converse] at hback

/-! ## The constraints of a matrix -/

/-- The constraint that a pair of a matrix states. -/
def statedAt (m : Matrix) (pair : String × String) : Option (Constraint String) :=
  (contribution pair.1 pair.2 (m.relation pair.1 pair.2)).stated?

/-- The entry of a pair of a matrix among those without a constraint. -/
def unmappedAt (m : Matrix) (pair : String × String) : Option (String × String × String) :=
  (contribution pair.1 pair.2 (m.relation pair.1 pair.2)).unmapped?

theorem constraints_ofMatrix (m : Matrix) :
    (Derivation.ofMatrix m).model.constraints = m.pairs.filterMap (statedAt m) := by
  simp only [Derivation.ofMatrix, contributions, List.filterMap_map]
  refine List.filterMap_congr fun pair _ => ?_
  simp only [Function.comp, statedAt]
  cases contribution pair.1 pair.2 (m.relation pair.1 pair.2) <;> rfl

theorem unmapped_ofMatrix (m : Matrix) :
    (Derivation.ofMatrix m).unmapped = m.pairs.filterMap (unmappedAt m) := by
  simp only [Derivation.ofMatrix, contributions, List.filterMap_map]
  refine List.filterMap_congr fun pair _ => ?_
  simp only [Function.comp, unmappedAt]
  cases contribution pair.1 pair.2 (m.relation pair.1 pair.2) <;> rfl

theorem mem_constraints_ofMatrix : c ∈ (Derivation.ofMatrix m).model.constraints ↔
    ∃ pair ∈ m.pairs, statedAt m pair = some c := by
  rw [constraints_ofMatrix, List.mem_filterMap]

end ActivityMatrix.Declare
