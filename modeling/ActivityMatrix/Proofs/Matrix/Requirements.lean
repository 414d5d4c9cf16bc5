import ActivityMatrix.Proofs.Digraph.Order
import ActivityMatrix.Proofs.Matrix.Cells
import ActivityMatrix.Proofs.Relation

/-!
# What validation checks

Seven requirements on a matrix, and what it means that a cell, a pair or an edge breaks one of them
(`Requirement.Breaks`): a statement about cells, without the searches that look for faults. The main
statement is `settles_report`: on every matrix, validation reports a fault of the first requirement
that anything breaks, at a place that breaks it, and finds no fault if nothing breaks any requirement.

The checks read a missing cell as a default. That is harmless since they are made in order: a check
comes to its turn only if the requirements before it hold, and so every cell that it reads is there.
-/

namespace ActivityMatrix

open ActivityMatrix.Digraph

namespace Matrix

/-- A cell states that an activity strictly precedes another one, read from either of the two. -/
def Precedes (m : Matrix) (a b : String) : Prop :=
  a ≠ b ∧ ((∃ r, m.get? a b = some r ∧ r.precedes) ∨ ∃ r, m.get? b a = some r ∧ r.follows)

theorem mem_precedenceEdges {m : Matrix} {a b : String} :
    (a, b) ∈ m.precedenceEdges ↔ m.Precedes a b := by
  simp only [precedenceEdges, mem_sortPairs, mem_distinct, List.mem_filterMap, Precedes,
    get?_eq_some_iff, precedence?_eq_some_iff, Prod.mk.injEq]
  constructor
  · rintro ⟨⟨row, column, r⟩, hcell, hne, ⟨hr, rfl, rfl⟩ | ⟨hr, rfl, rfl⟩⟩
    · exact ⟨hne, .inl ⟨r, hcell, hr⟩⟩
    · exact ⟨hne.symm, .inr ⟨r, hcell, hr⟩⟩
  · rintro ⟨hne, ⟨r, hcell, hr⟩ | ⟨r, hcell, hr⟩⟩
    · exact ⟨_, hcell, hne, .inl ⟨hr, rfl, rfl⟩⟩
    · exact ⟨_, hcell, hne.symm, .inr ⟨hr, rfl, rfl⟩⟩

theorem leads_precedenceEdges {m : Matrix} {a b : String} :
    Leads m.precedenceEdges a b ↔ Relation.TransGen m.Precedes a b := by
  constructor
  · exact Relation.TransGen.mono (fun _ _ => mem_precedenceEdges.mp) _ _
  · exact Relation.TransGen.mono (fun _ _ => mem_precedenceEdges.mpr) _ _

end Matrix

/-! ## Requirements -/

/-- The requirements on a matrix. -/
inductive Requirement where
  /-- Every row and every column is an allowed activity. -/
  | allowedActivities
  /-- Every activity is related to itself by identity. -/
  | identityDiagonal
  /-- Between different activities there is a cell with symbols that may stand there. -/
  | legalSymbols
  /-- No strict order is joined with a symbol that contradicts it. -/
  | legalCombinations
  /-- Equivalence and exclusion are stated from both sides. -/
  | reciprocity
  /-- No two activities strictly precede each other. -/
  | oneDirection
  /-- The strict precedences form no cycle. -/
  | acyclicity
  deriving DecidableEq, Repr

namespace Requirement

/-- All requirements, in the order in which they are checked. -/
def all : List Requirement :=
  [allowedActivities, identityDiagonal, legalSymbols, legalCombinations, reciprocity, oneDirection,
    acyclicity]

/-- The rule as whose breach a fault is reported. -/
def rule : Requirement → Rule
  | allowedActivities => .membership
  | identityDiagonal | legalSymbols => .wellFormedCells
  | legalCombinations => .legalCombinations
  | reciprocity => .reciprocity
  | oneDirection => .oneDirection
  | acyclicity => .acyclicity

/-- The cell, the pair or the edge of two activities breaks a requirement. -/
def Breaks (allowed : Option (List String)) (m : Matrix) (a b : String) : Requirement → Prop
  | allowedActivities => (a ∈ m.rows ∧ b = a ∨ ∃ r, m.get? a b = some r) ∧
      ∃ names, allowed = some names ∧ b ∉ names
  | identityDiagonal => a ∈ m.activities ∧ a = b ∧ m.get? a b ≠ some .identity
  | legalSymbols => a ∈ m.activities ∧ b ∈ m.activities ∧ a ≠ b ∧
      ∀ r, m.get? a b = some r → ¬ r.hasLegalSymbols
  | legalCombinations => a ∈ m.activities ∧ b ∈ m.activities ∧
      ∃ r, m.get? a b = some r ∧ (r.precedes ∨ r.follows) ∧
        r.existential ∈ Existential.orderIncompatible
  | reciprocity => a ∈ m.activities ∧ b ∈ m.activities ∧
      ∃ r, m.get? a b = some r ∧ r.existential ∈ Existential.reciprocal ∧
        ∀ s, m.get? b a = some s → s.existential ≠ r.existential
  | oneDirection => a ∈ m.activities ∧ b ∈ m.activities ∧ a ≠ b ∧
      ∃ r s, m.get? a b = some r ∧ m.get? b a = some s ∧
        (r.precedes ∧ s.precedes ∨ r.follows ∧ s.follows)
  | acyclicity => m.Precedes a b ∧ Relation.TransGen m.Precedes b a

variable {allowed : Option (List String)} {m : Matrix} {requirement : Requirement}
  {requirements others : List Requirement} {found rest : Option Violation} {fault : Violation}

/-- Nothing breaks a requirement. -/
def Holds (allowed : Option (List String)) (m : Matrix) (requirement : Requirement) : Prop :=
  ∀ a b, ¬ requirement.Breaks allowed m a b

/-- A fault reports the breach of a requirement at a place that breaks it. -/
def Reports (allowed : Option (List String)) (m : Matrix) (requirement : Requirement)
    (fault : Violation) : Prop :=
  fault.rule = requirement.rule ∧
    ∃ a b, fault.pair = some (a, b) ∧ requirement.Breaks allowed m a b

/-- What was found of requirements that are checked in order: a fault of the first one that is broken,
or nothing, and then all of them hold. -/
def Settles (allowed : Option (List String)) (m : Matrix) (requirements : List Requirement) :
    Option Violation → Prop
  | none => ∀ requirement ∈ requirements, requirement.Holds allowed m
  | some fault => ∃ before requirement after, requirements = before ++ requirement :: after ∧
      (∀ earlier ∈ before, earlier.Holds allowed m) ∧ requirement.Reports allowed m fault

/-- What is found of a single requirement. -/
theorem settles_singleton (hnone : found = none → requirement.Holds allowed m)
    (hsome : ∀ fault, found = some fault → requirement.Reports allowed m fault) :
    Settles allowed m [requirement] found := by
  cases found with
  | none => simpa [Settles] using hnone rfl
  | some fault => exact ⟨[], requirement, [], rfl, by simp, hsome fault rfl⟩

/-- Requirements are settled in order, and later ones may rely on earlier ones. -/
theorem Settles.or (h : Settles allowed m requirements found)
    (hrest : (∀ requirement ∈ requirements, requirement.Holds allowed m) →
      Settles allowed m others rest) :
    Settles allowed m (requirements ++ others) (found.or rest) := by
  cases found with
  | some fault =>
      obtain ⟨before, broken, after, rfl, hbefore, hreports⟩ := h
      exact ⟨before, broken, after ++ others, by simp, hbefore, hreports⟩
  | none =>
      rw [Option.none_or]
      cases rest with
      | none => exact List.forall_mem_append.mpr ⟨h, hrest h⟩
      | some fault =>
          obtain ⟨before, broken, after, rfl, hbefore, hreports⟩ := hrest h
          exact ⟨requirements ++ before, broken, after, by simp,
            List.forall_mem_append.mpr ⟨h, hbefore⟩, hreports⟩

/-! ## Cells that are there -/

theorem Holds.get?_self {a : String} (h : identityDiagonal.Holds allowed m) (ha : a ∈ m.activities) :
    m.get? a a = some .identity := by
  by_contra hne
  exact h a a ⟨ha, rfl, hne⟩

/-- Between different activities there is a cell with legal symbols. -/
theorem Holds.exists_cell {a b : String} (h : legalSymbols.Holds allowed m) (ha : a ∈ m.activities)
    (hb : b ∈ m.activities) (hne : a ≠ b) : ∃ r, m.get? a b = some r ∧ r.hasLegalSymbols := by
  by_contra hnone
  push Not at hnone
  exact h a b ⟨ha, hb, hne, hnone⟩

/-! ## The checks -/

theorem settles_checkMembership (allowed : Option (List String)) (m : Matrix) :
    Settles allowed m [allowedActivities] (m.checkMembership allowed) := by
  cases allowed with
  | none =>
      refine settles_singleton (fun _ a b hbreaks => ?_) fun fault hfault => ?_
      · obtain ⟨-, names, hnames, -⟩ := hbreaks
        cases hnames
      · cases hfault
  | some names =>
      refine settles_singleton (fun hnone a b hbreaks => ?_) fun fault hfault => ?_
      · obtain ⟨hplace, names, hnames, hb⟩ := hbreaks
        obtain rfl := Option.some.inj hnames
        have hmem : (a, b) ∈ m.places :=
          Matrix.mem_places.mpr (hplace.imp_right fun ⟨r, hr⟩ => ⟨r, Matrix.get?_eq_some_iff.mp hr⟩)
        have hfound := List.findSome?_eq_none_iff.mp hnone _ hmem
        simp [hb] at hfound
      · obtain ⟨⟨a, b⟩, hplace, hfound⟩ := List.exists_of_findSome?_eq_some hfault
        simp only at hfound
        split_ifs at hfound with hb
        obtain rfl := Option.some.inj hfound
        rw [List.contains_iff_mem] at hb
        refine ⟨rfl, a, b, rfl, ?_, names, rfl, hb⟩
        exact (Matrix.mem_places.mp hplace).imp_right fun ⟨r, hr⟩ => ⟨r, Matrix.get?_eq_some_iff.mpr hr⟩

theorem any_isIdentity {found : Option Relation} :
    found.any Relation.isIdentity = true ↔ found = some .identity := by
  cases found with
  | none => simp
  | some r =>
      obtain ⟨temporal, existential⟩ := r
      simp [Relation.isIdentity, Relation.identity]

theorem settles_checkDiagonal (allowed : Option (List String)) (m : Matrix) :
    Settles allowed m [identityDiagonal] m.checkDiagonal := by
  refine settles_singleton (fun hnone a b hbreaks => ?_) fun fault hfault => ?_
  · obtain ⟨ha, rfl, hne⟩ := hbreaks
    have hfound := List.findSome?_eq_none_iff.mp hnone a ha
    rw [Ne, ← any_isIdentity] at hne
    simp [hne] at hfound
  · obtain ⟨a, ha, hfound⟩ := List.exists_of_findSome?_eq_some hfault
    simp only [any_isIdentity] at hfound
    split_ifs at hfound with hidentity
    obtain rfl := Option.some.inj hfound
    exact ⟨rfl, a, a, rfl, ha, rfl, hidentity⟩

theorem settles_checkSymbols (allowed : Option (List String)) (m : Matrix) :
    Settles allowed m [legalSymbols] m.checkSymbols := by
  refine settles_singleton (fun hnone a b hbreaks => ?_) fun fault hfault => ?_
  · obtain ⟨ha, hb, hne, hillegal⟩ := hbreaks
    have hfound := List.findSome?_eq_none_iff.mp hnone (a, b)
      (Matrix.mem_differentPairs.mpr ⟨ha, hb, hne⟩)
    cases hcell : m.get? a b with
    | none => simp [hcell] at hfound
    | some r => simp [hcell, hillegal r hcell] at hfound
  · obtain ⟨⟨a, b⟩, hpair, hfound⟩ := List.exists_of_findSome?_eq_some hfault
    obtain ⟨ha, hb, hne⟩ := Matrix.mem_differentPairs.mp hpair
    cases hcell : m.get? a b with
    | none =>
        obtain rfl : Violation.missingCell a b = fault := by simpa [hcell] using hfound
        exact ⟨rfl, a, b, rfl, ha, hb, hne, fun r hr => by simp [hcell] at hr⟩
    | some r =>
        simp only [hcell] at hfound
        split_ifs at hfound with hlegal
        obtain rfl := Option.some.inj hfound
        refine ⟨rfl, a, b, rfl, ha, hb, hne, fun s hs => ?_⟩
        obtain rfl : r = s := by simpa [hcell] using hs
        exact hlegal

section Cells

variable (hdiagonal : identityDiagonal.Holds allowed m) (hsymbols : legalSymbols.Holds allowed m)
include hdiagonal hsymbols

theorem settles_checkCombinations : Settles allowed m [legalCombinations] m.checkCombinations := by
  refine settles_singleton (fun hnone a b hbreaks => ?_) fun fault hfault => ?_
  · obtain ⟨ha, hb, r, hcell, horder, hincompatible⟩ := hbreaks
    by_cases hne : a = b
    · subst hne
      obtain rfl : r = .identity := by simpa [hdiagonal.get?_self ha] using hcell.symm
      exact absurd horder (by decide)
    · have hfound := List.findSome?_eq_none_iff.mp hnone (a, b)
        (Matrix.mem_differentPairs.mpr ⟨ha, hb, hne⟩)
      obtain ⟨s, hs, hlegal⟩ := hsymbols.exists_cell ha hb hne
      obtain rfl : r = s := by simpa [hcell] using hs
      have hillegal := (Relation.isIllegalCombination_iff hlegal).mpr ⟨horder, hincompatible⟩
      simp [Matrix.relation, hcell, hillegal] at hfound
  · obtain ⟨⟨a, b⟩, hpair, hfound⟩ := List.exists_of_findSome?_eq_some hfault
    obtain ⟨ha, hb, hne⟩ := Matrix.mem_differentPairs.mp hpair
    obtain ⟨r, hcell, hlegal⟩ := hsymbols.exists_cell ha hb hne
    simp only [Matrix.relation, hcell, Option.getD_some] at hfound
    split_ifs at hfound with hillegal
    obtain rfl := Option.some.inj hfound
    obtain ⟨horder, hincompatible⟩ := (Relation.isIllegalCombination_iff hlegal).mp hillegal
    exact ⟨rfl, a, b, rfl, ha, hb, r, hcell, horder, hincompatible⟩

omit hdiagonal in
theorem settles_checkReciprocity : Settles allowed m [reciprocity] m.checkReciprocity := by
  refine settles_singleton (fun hnone a b hbreaks => ?_) fun fault hfault => ?_
  · obtain ⟨ha, hb, r, hcell, hreciprocal, hother⟩ := hbreaks
    by_cases hne : a = b
    · subst hne
      exact hother r hcell rfl
    · have hfound := List.findSome?_eq_none_iff.mp hnone (a, b)
        (Matrix.mem_differentPairs.mpr ⟨ha, hb, hne⟩)
      obtain ⟨s, hs, -⟩ := hsymbols.exists_cell hb ha (Ne.symm hne)
      simp [Matrix.relation, hcell, hs, hreciprocal, hother s hs] at hfound
  · obtain ⟨⟨a, b⟩, hpair, hfound⟩ := List.exists_of_findSome?_eq_some hfault
    obtain ⟨ha, hb, hne⟩ := Matrix.mem_differentPairs.mp hpair
    obtain ⟨r, hcell, -⟩ := hsymbols.exists_cell ha hb hne
    obtain ⟨s, hs, -⟩ := hsymbols.exists_cell hb ha (Ne.symm hne)
    simp only [Matrix.relation, hcell, hs, Option.getD_some, Bool.and_eq_true, bne_iff_ne,
      List.contains_iff_mem] at hfound
    split_ifs at hfound with hcond
    obtain rfl := Option.some.inj hfound
    refine ⟨rfl, a, b, rfl, ha, hb, r, hcell, hcond.1, fun s' hs' => ?_⟩
    obtain rfl : s = s' := by simpa [hs] using hs'
    exact hcond.2

theorem settles_checkClash : Settles allowed m [oneDirection] m.checkClash := by
  refine settles_singleton (fun hnone a b hbreaks => ?_) fun fault hfault => ?_
  · obtain ⟨ha, hb, hne, r, s, hr, hs, hclash⟩ := hbreaks
    have : Std.Symm fun a b => m.clashes a b = false := ⟨fun a b h => by rwa [m.clashes_comm]⟩
    have hfound := (Matrix.checkClash_eq_none_iff.mp hnone).forall ha hb hne
    rcases hclash with ⟨hr', hs'⟩ | ⟨hr', hs'⟩ <;>
      simp [Matrix.clashes, Matrix.relation, hr, hs, hr', hs'] at hfound
  · obtain ⟨⟨a, b⟩, hpair, hfound⟩ := List.exists_of_findSome?_eq_some hfault
    obtain ⟨ha, hb⟩ := mem_of_mem_orderedPairs hpair
    simp only [Bool.or_eq_true, Bool.and_eq_true] at hfound
    split_ifs at hfound with hclash
    obtain rfl := Option.some.inj hfound
    -- the identity of an activity with itself states no order
    have hne : a ≠ b := by
      rintro rfl
      rw [Matrix.relation, hdiagonal.get?_self ha, Option.getD_some] at hclash
      exact absurd hclash (by decide)
    obtain ⟨r, hr, -⟩ := hsymbols.exists_cell ha hb hne
    obtain ⟨s, hs, -⟩ := hsymbols.exists_cell hb ha (Ne.symm hne)
    rw [Matrix.relation, hr, Matrix.relation, hs] at hclash
    exact ⟨rfl, a, b, rfl, ha, hb, hne, r, s, hr, hs, hclash⟩

end Cells

theorem holds_acyclicity_iff :
    acyclicity.Holds allowed m ↔ ∀ a, ¬ Relation.TransGen m.Precedes a a := by
  constructor
  · intro h a hcycle
    obtain ⟨b, hedge, hback⟩ := (Matrix.leads_precedenceEdges.mpr hcycle).exists_first
    have hab := Matrix.mem_precedenceEdges.mp hedge
    refine h a b ⟨hab, Matrix.leads_precedenceEdges.mp (hback.resolve_left ?_)⟩
    exact Ne.symm hab.1
  · intro h a b hbreaks
    exact h a (.head hbreaks.1 hbreaks.2)

/-- Precedences that have an order form no cycle. -/
theorem holds_acyclicity {order : List String}
    (h : topologicalOrder m.activities m.precedenceEdges = .ok order) :
    acyclicity.Holds allowed m := by
  intro a b hbreaks
  obtain ⟨hab, hback⟩ := hbreaks
  refine (topologicalOrder_ok h).2 a (.head (Matrix.mem_precedenceEdges.mpr hab) ?_)
  exact Matrix.leads_precedenceEdges.mpr hback

/-- Precedences without an order form the cycle that is reported. -/
theorem reports_cycle {cycle : List String}
    (h : topologicalOrder m.activities m.precedenceEdges = .error cycle) :
    acyclicity.Reports allowed m (.cycle cycle) := by
  obtain ⟨a, b, rest, rfl, hab, hback⟩ := topologicalOrder_error h
  have hprecedes := Matrix.mem_precedenceEdges.mp hab
  refine ⟨rfl, a, b, rfl, hprecedes, ?_⟩
  exact Matrix.leads_precedenceEdges.mp (hback.resolve_left (Ne.symm hprecedes.1))

/-- The checks of the cells settle all requirements but the last one. -/
theorem settles_firstFault (allowed : Option (List String)) (m : Matrix) :
    Settles allowed m [allowedActivities, identityDiagonal, legalSymbols, legalCombinations,
      reciprocity, oneDirection] (m.firstFault allowed) := by
  refine (settles_checkMembership allowed m).or fun _ => ?_
  refine (settles_checkDiagonal allowed m).or fun hdiagonal => ?_
  refine (settles_checkSymbols allowed m).or fun hsymbols => ?_
  rw [List.forall_mem_singleton] at hdiagonal hsymbols
  refine (settles_checkCombinations hdiagonal hsymbols).or fun _ => ?_
  exact (settles_checkReciprocity hsymbols).or fun _ => settles_checkClash hdiagonal hsymbols

end Requirement

/-- The fault that a report names, if there is one. -/
def ValidationReport.fault? (report : ValidationReport) : Option Violation :=
  match report.outcome with
  | .ok _ => none
  | .error fault => some fault

/-- **Validation settles the requirements**: it reports a fault of the first one that anything breaks,
at a place that breaks it, and none if all of them hold. -/
theorem settles_report (allowed : Option (List String)) (m : Matrix) :
    Requirement.Settles allowed m Requirement.all (ValidationReport.ofMatrix allowed m).fault? := by
  have hcells := Requirement.settles_firstFault allowed m
  have hfault : (ValidationReport.ofMatrix allowed m).fault? = (m.firstFault allowed).or
      (ValidationReport.fault?
        ⟨m.activities, (topologicalOrder m.activities m.precedenceEdges).mapError .cycle⟩) := by
    rw [ValidationReport.ofMatrix, Matrix.validate]
    cases m.firstFault allowed <;> rfl
  rw [hfault]
  refine hcells.or fun _ => Requirement.settles_singleton (fun hnone => ?_) fun fault hsome => ?_
  · cases horder : topologicalOrder m.activities m.precedenceEdges with
    | ok order => exact Requirement.holds_acyclicity horder
    | error cycle => simp [ValidationReport.fault?, Except.mapError, horder] at hnone
  · cases horder : topologicalOrder m.activities m.precedenceEdges with
    | ok order => simp [ValidationReport.fault?, Except.mapError, horder] at hsome
    | error cycle =>
        obtain rfl : Violation.cycle cycle = fault := by
          simpa [ValidationReport.fault?, Except.mapError, horder] using hsome
        exact Requirement.reports_cycle horder

/-- A fault that validation finds is what settles the requirements. -/
theorem settles_of_validate {allowed : Option (List String)} {m : Matrix} {fault : Violation}
    (h : m.validate allowed = .error fault) : Requirement.Settles allowed m Requirement.all (some fault) := by
  have hsettles := settles_report allowed m
  rwa [ValidationReport.fault?, ValidationReport.ofMatrix, h] at hsettles

/-- A matrix is reported as valid if and only if nothing breaks any requirement. -/
theorem isValid_iff_holds {allowed : Option (List String)} {m : Matrix} :
    (ValidationReport.ofMatrix allowed m).isValid = true ↔
      ∀ requirement : Requirement, requirement.Holds allowed m := by
  have hsettles := settles_report allowed m
  have hall : ∀ requirement : Requirement, requirement ∈ Requirement.all := by
    intro requirement
    cases requirement <;> decide
  cases houtcome : (ValidationReport.ofMatrix allowed m).outcome with
  | ok order =>
      simp only [ValidationReport.fault?, houtcome, Requirement.Settles] at hsettles
      simpa [ValidationReport.isValid, houtcome, Except.toBool] using fun r => hsettles r (hall r)
  | error fault =>
      simp only [ValidationReport.fault?, houtcome, Requirement.Settles] at hsettles
      obtain ⟨_, broken, _, _, _, _, a, b, _, hbreaks⟩ := hsettles
      simpa [ValidationReport.isValid, houtcome, Except.toBool] using
        ⟨broken, fun hholds => hholds a b hbreaks⟩

theorem isValid_iff_exists_order {allowed : Option (List String)} {m : Matrix} :
    (ValidationReport.ofMatrix allowed m).isValid = true ↔ ∃ order, m.validate allowed = .ok order := by
  rw [ValidationReport.isValid, ValidationReport.ofMatrix]
  cases m.validate allowed <;> simp [Except.toBool]

/-- A fault is never one of a requirement that holds and has its rule to itself. -/
theorem rule_ne_of_holds {allowed : Option (List String)} {m : Matrix} (requirement : Requirement)
    {fault : Violation} (h : m.validate allowed = .error fault) (hholds : requirement.Holds allowed m)
    (honly : ∀ other : Requirement, other.rule = requirement.rule → other = requirement) :
    fault.rule ≠ requirement.rule := by
  intro hrule
  obtain ⟨-, broken, -, -, -, hreported, a, b, -, hbreaks⟩ := settles_of_validate h
  obtain rfl := honly broken (hreported.symm.trans hrule)
  exact hholds a b hbreaks

/-! ## Cells of a valid matrix -/

namespace Matrix

variable {m : Matrix} {allowed : Option (List String)} {order : List String} {a b : String}

/-- What validation makes sure of in the cell of a row and a different column activity. -/
structure ValidCell (m : Matrix) (a b : String) : Prop where
  /-- The cell is there. -/
  present : m.get? a b = some (m.relation a b)
  /-- Its symbols may stand between different activities. -/
  legal : (m.relation a b).hasLegalSymbols
  /-- They do not contradict each other. -/
  compatible : (m.relation a b).precedes ∨ (m.relation a b).follows →
    (m.relation a b).existential ∉ Existential.orderIncompatible
  /-- Equivalence and exclusion stand in the other cell as well. -/
  repeated : (m.relation a b).existential ∈ Existential.reciprocal →
    (m.relation b a).existential = (m.relation a b).existential
  /-- The other cell does not state the same strict direction. -/
  oneDirection : ¬ ((m.relation a b).precedes ∧ (m.relation b a).precedes ∨
    (m.relation a b).follows ∧ (m.relation b a).follows)

/-- The two cells do not state a precedence in both directions. -/
theorem ValidCell.precedence?_ne (h : m.ValidCell a b) {source target : String}
    (hcell : precedence? a b (m.relation a b) = some (source, target)) :
    precedence? b a (m.relation b a) ≠ some (target, source) := by
  intro hother
  obtain ⟨hne, hcell⟩ := precedence?_eq_some_iff.mp hcell
  obtain ⟨-, hother⟩ := precedence?_eq_some_iff.mp hother
  simp only [Prod.mk.injEq] at hcell hother
  refine h.oneDirection ?_
  rcases hcell with ⟨hr, rfl, rfl⟩ | ⟨hr, rfl, rfl⟩
  · exact .inl ⟨hr, (hother.resolve_right fun hs => hne hs.2.1.symm).1⟩
  · exact .inr ⟨hr, (hother.resolve_left fun hs => hne hs.2.1).1⟩

theorem holds_of_validate (h : m.validate allowed = .ok order) (requirement : Requirement) :
    requirement.Holds allowed m :=
  isValid_iff_holds.mp (isValid_iff_exists_order.mpr ⟨order, h⟩) requirement

theorem relation_eq_of_get? {r : Relation} (h : m.get? a b = some r) : m.relation a b = r := by
  rw [relation, h, Option.getD_some]

theorem relation_self_of_validate (h : m.validate allowed = .ok order) (ha : a ∈ m.activities) :
    m.relation a a = .identity :=
  relation_eq_of_get? ((holds_of_validate h .identityDiagonal).get?_self ha)

theorem validCell_of_validate (h : m.validate allowed = .ok order) (ha : a ∈ m.activities)
    (hb : b ∈ m.activities) (hne : a ≠ b) : m.ValidCell a b := by
  obtain ⟨r, hr, hlegal⟩ := (holds_of_validate h .legalSymbols).exists_cell ha hb hne
  obtain ⟨s, hs, -⟩ := (holds_of_validate h .legalSymbols).exists_cell hb ha (Ne.symm hne)
  have hrelation := relation_eq_of_get? hr
  have hother := relation_eq_of_get? hs
  refine ⟨by rw [hrelation, hr], by rwa [hrelation], ?_, ?_, ?_⟩
  · rw [hrelation]
    exact fun horder hmem =>
      holds_of_validate h .legalCombinations a b ⟨ha, hb, r, hr, horder, hmem⟩
  · rw [hrelation, hother]
    intro hmem
    by_contra hdiffers
    refine holds_of_validate h .reciprocity a b ⟨ha, hb, r, hr, hmem, fun s' hs' => ?_⟩
    rwa [← Option.some.inj (hs.symm.trans hs')]
  · rw [hrelation, hother]
    exact fun hclash =>
      holds_of_validate h .oneDirection a b ⟨ha, hb, hne, r, s, hr, hs, hclash⟩

end Matrix

end ActivityMatrix
