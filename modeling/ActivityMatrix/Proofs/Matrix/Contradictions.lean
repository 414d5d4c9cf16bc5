import ActivityMatrix.Proofs.Matrix.Validity

/-!
# Contradictions of two activities

Two activities of which each one strictly precedes the other form a cycle of precedences, but validation
does not report it as one. A precedence can be read off either cell of a pair, so there are four ways in
which two opposite ones can come about. Two of them would take a cell that states both directions; the
other two are what the check of the directions looks for (`breaks_oneDirection_iff`). That check comes
before the one for cycles, so by then no two activities contradict each other.

A cycle that is reported meets no activity twice, and a precedence never relates an activity to itself.
With neither one nor two activities possible, there are at least three (`isLongCycle_of_validate`).
-/

namespace ActivityMatrix

open ActivityMatrix.Digraph

/-! ## What is checked before -/

namespace Requirement

variable {requirement : Requirement} {before after : List Requirement} {allowed : Option (List String)}
  {m : Matrix} {fault : Violation}

/-- The requirements that are checked before a requirement. -/
def earlier (requirement : Requirement) : List Requirement :=
  all.takeWhile (· ≠ requirement)

theorem earlier_eq (h : all = before ++ requirement :: after) : requirement.earlier = before := by
  have hnodup : (before ++ requirement :: after).Nodup := by
    rw [← h]
    decide
  have hbefore : ∀ other ∈ before, other ≠ requirement := fun other hother =>
    (List.nodup_append.mp hnodup).2.2 other hother requirement List.mem_cons_self
  rw [earlier, h, List.takeWhile_append_of_pos (by simpa using hbefore)]
  simp

example : oneDirection.earlier =
    [allowedActivities, identityDiagonal, legalSymbols, legalCombinations, reciprocity] := by
  decide

/-- A fault that is found is reported of the first requirement that is broken. -/
theorem exists_reports_of_validate (h : m.validate allowed = .error fault) :
    ∃ requirement : Requirement, (∀ other ∈ requirement.earlier, other.Holds allowed m) ∧
      requirement.Reports allowed m fault := by
  obtain ⟨before, requirement, after, hsplit, hbefore, hreports⟩ := settles_of_validate h
  refine ⟨requirement, ?_, hreports⟩
  rwa [earlier_eq hsplit]

/-- Only the last requirement is about cycles. -/
theorem eq_acyclicity_of_reports {cycle : List String}
    (h : requirement.Reports allowed m (.cycle cycle)) : requirement = .acyclicity := by
  have honly : ∀ other : Requirement, other.rule = .acyclicity → other = .acyclicity := by
    intro other
    cases other <;> decide
  exact honly requirement h.1.symm

/-- Any other requirement is checked before the one of one direction or after it. -/
theorem mem_earlier_oneDirection_or (requirement : Requirement) :
    requirement ∈ oneDirection.earlier ∨ requirement = oneDirection ∨
      oneDirection ∈ requirement.earlier := by
  cases requirement <;> decide

end Requirement

namespace Matrix

variable {document : Document} {m : Matrix} {allowed : Option (List String)} {a b : String}
  {cycle : List String}

/-- Each one of two activities strictly precedes the other. -/
def Contradict (m : Matrix) (a b : String) : Prop :=
  m.Precedes a b ∧ m.Precedes b a

/-- The cells of two activities break the rule of one direction exactly if the activities contradict each
other. -/
theorem breaks_oneDirection_iff (hread : ofDocument document = .ok m) :
    Requirement.oneDirection.Breaks allowed m a b ↔ m.Contradict a b := by
  constructor
  · rintro ⟨-, -, hne, r, s, hr, hs, ⟨hforward, hbackward⟩ | ⟨hforward, hbackward⟩⟩
    · exact ⟨⟨hne, .inl ⟨r, hr, hforward⟩⟩, hne.symm, .inl ⟨s, hs, hbackward⟩⟩
    · exact ⟨⟨hne, .inr ⟨s, hs, hbackward⟩⟩, hne.symm, .inr ⟨r, hr, hforward⟩⟩
  · rintro ⟨⟨hne, hab⟩, -, hba⟩
    -- no cell states both directions
    have hcell : ∀ {x y r r'}, m.get? x y = some r → r.precedes = true → m.get? x y = some r' →
        r'.follows = true → False := by
      intro x y r r' hr hprecedes hr' hfollows
      obtain rfl : r = r' := Option.some.inj (hr.symm.trans hr')
      rw [r.precedes_eq_false_of_follows hfollows] at hprecedes
      cases hprecedes
    rcases hab with ⟨r, hr, hprecedes⟩ | ⟨s, hs, hfollows⟩
    · rcases hba with ⟨s, hs, hbackward⟩ | ⟨r', hr', hbackward⟩
      · obtain ⟨ha, hb⟩ := mem_activities_of_get? hread hr
        exact ⟨ha, hb, hne, r, s, hr, hs, .inl ⟨hprecedes, hbackward⟩⟩
      · exact (hcell hr hprecedes hr' hbackward).elim
    · rcases hba with ⟨s', hs', hbackward⟩ | ⟨r, hr, hbackward⟩
      · exact (hcell hs' hbackward hs hfollows).elim
      · obtain ⟨ha, hb⟩ := mem_activities_of_get? hread hr
        exact ⟨ha, hb, hne, r, s, hr, hs, .inr ⟨hbackward, hfollows⟩⟩

/-! ## Cycles -/

/-- At least three different activities, each of which strictly precedes the next one, and the last one
the first, which stands at the end again. -/
structure IsLongCycle (m : Matrix) (cycle : List String) : Prop where
  closed : ∃ first others, cycle = first :: (others ++ [first]) ∧ (first :: others).Nodup ∧
    3 ≤ (first :: others).length
  subset : cycle ⊆ m.activities
  steps : cycle.IsChain m.Precedes

/-- A cycle is reported only if no two activities contradict each other. -/
theorem not_contradict_of_validate (hread : ofDocument document = .ok m)
    (h : m.validate allowed = .error (.cycle cycle)) : ¬ m.Contradict a b := by
  intro hcontradict
  obtain ⟨requirement, hearlier, hreports⟩ := Requirement.exists_reports_of_validate h
  obtain rfl := Requirement.eq_acyclicity_of_reports hreports
  have hholds : Requirement.oneDirection.Holds allowed m := hearlier _ (by decide)
  exact hholds a b ((breaks_oneDirection_iff hread).mpr hcontradict)

/-- The checks of the cells report no cycle. -/
theorem topologicalOrder_of_validate_cycle (h : m.validate allowed = .error (.cycle cycle)) :
    topologicalOrder m.activities m.precedenceEdges = .error cycle := by
  unfold validate at h
  split at h
  · rename_i fault hfault
    obtain rfl := Except.error.inj h
    have hsettles := Requirement.settles_firstFault allowed m
    rw [hfault] at hsettles
    obtain ⟨before, requirement, after, hsplit, -, hreports⟩ := hsettles
    have hmem : requirement ∈ before ++ requirement :: after :=
      List.mem_append_right _ List.mem_cons_self
    rw [← hsplit, Requirement.eq_acyclicity_of_reports hreports] at hmem
    exact absurd hmem (by decide)
  · cases horder : topologicalOrder m.activities m.precedenceEdges with
    | ok order => simp [horder, Except.mapError] at h
    | error found => simpa [horder, Except.mapError] using h

/-- A cycle of different activities is long if no activity precedes itself and no two contradict each
other. -/
theorem three_le_length {first : String} {others : List String}
    (hsteps : (first :: (others ++ [first])).IsChain m.Precedes)
    (hone : ∀ a b, ¬ m.Contradict a b) : 3 ≤ (first :: others).length := by
  match others, hsteps with
  | [], hsteps => exact absurd rfl (List.isChain_cons_cons.mp hsteps).1.1
  | [second], hsteps =>
      obtain ⟨hforward, hrest⟩ := List.isChain_cons_cons.mp hsteps
      exact absurd ⟨hforward, (List.isChain_cons_cons.mp hrest).1⟩ (hone first second)
  | _ :: _ :: others, _ =>
      simp only [List.length_cons]
      omega

/-- A cycle that is reported is a long one. -/
theorem isLongCycle_of_validate (hread : ofDocument document = .ok m)
    (h : m.validate allowed = .error (.cycle cycle)) : m.IsLongCycle cycle := by
  have hcycle := isSimpleCycle_of_topologicalOrder_error (topologicalOrder_of_validate_cycle h)
  have hsteps : cycle.IsChain m.Precedes := hcycle.steps.imp fun x y hxy =>
    mem_precedenceEdges.mp (mem_sortedSuccessors.mp hxy)
  refine ⟨?_, fun x hx => ?_, hsteps⟩
  · obtain ⟨first, others, rfl, hnodup⟩ := hcycle.closed
    exact ⟨first, others, rfl, hnodup, three_le_length hsteps fun _ _ => not_contradict_of_validate hread h⟩
  · -- the ends of a precedence are activities, since the cells mention them
    rcases mem_mentionedNodes.mp (hcycle.subset hx) with hlisted | ⟨edge, hedge, hend⟩
    · exact hlisted
    · obtain ⟨cell, hcell, hends⟩ := ends_of_mem_precedenceEdges hedge
      have hmem := mem_mentioned_of_mem_cellList hcell
      rw [← activities_of_ofDocument hread] at hmem
      rcases hends with rfl | rfl <;> rcases hend with rfl | rfl
      · exact hmem.1
      · exact hmem.2
      · exact hmem.2
      · exact hmem.1

/-! ## Clashes instead of cycles -/

/-- A contradiction of two activities is reported as a clash, or else a requirement that is checked before
is broken and reported. -/
theorem exists_fault_of_contradict (hread : ofDocument document = .ok m) (h : m.Contradict a b) :
    ∃ fault, m.validate allowed = .error fault ∧
      ((∃ c d forward backward, fault = .clash c d forward backward ∧ m.Contradict c d) ∨
        ∃ other ∈ Requirement.oneDirection.earlier, other.Reports allowed m fault) := by
  have hbroken : ¬ Requirement.oneDirection.Holds allowed m := fun hholds =>
    hholds a b ((breaks_oneDirection_iff hread).mpr h)
  cases hresult : m.validate allowed with
  | ok order => exact absurd (holds_of_validate hresult .oneDirection) hbroken
  | error fault =>
      refine ⟨fault, rfl, ?_⟩
      obtain ⟨requirement, hearlier, hreports⟩ := Requirement.exists_reports_of_validate hresult
      rcases requirement.mem_earlier_oneDirection_or with hbefore | rfl | hafter
      · exact .inr ⟨requirement, hbefore, hreports⟩
      · obtain ⟨hrule, c, d, hpair, hbreaks⟩ := hreports
        cases fault with
        | clash row column forward backward =>
            obtain ⟨rfl, rfl⟩ := Prod.mk.inj (Option.some.inj hpair)
            exact .inl ⟨_, _, _, _, rfl, (breaks_oneDirection_iff hread).mp hbreaks⟩
        | _ => cases hrule
      · exact absurd (hearlier _ hafter) hbroken

/-- **Contradictions are clashes, and cycles are long.** The matrix may be any that is read. A cycle that
validation reports leads through at least three different activities, along strict precedences, and no two
activities contradict each other then. If two do, a clash of two that do is reported, however many longer
cycles there are; only the requirements that are checked before go first. -/
theorem long_cycle_or_clash (hread : ofDocument document = .ok m) (allowed : Option (List String)) :
    (∀ cycle, m.validate allowed = .error (.cycle cycle) →
        m.IsLongCycle cycle ∧ ∀ a b, ¬ m.Contradict a b) ∧
      ∀ a b, m.Contradict a b → ∃ fault, m.validate allowed = .error fault ∧
        ((∃ c d forward backward, fault = .clash c d forward backward ∧ m.Contradict c d) ∨
          ∃ other ∈ Requirement.oneDirection.earlier, other.Reports allowed m fault) :=
  ⟨fun _ h => ⟨isLongCycle_of_validate hread h, fun _ _ => not_contradict_of_validate hread h⟩,
    fun _ _ h => exists_fault_of_contradict hread h⟩

/-- Both `a` and `b` precede the other one, and both precede `c`, which precedes `a`. -/
def opposed : Matrix :=
  .ofCells (.ofList [
    ("a", .ofList [("a", .identity), ("b", ⟨"<", "-"⟩), ("c", ⟨">d", "-"⟩)]),
    ("b", .ofList [("a", ⟨"<d", "-"⟩), ("b", .identity), ("c", ⟨"<", "-"⟩)]),
    ("c", .ofList [("a", ⟨"-", "-"⟩), ("b", ⟨">", "-"⟩), ("c", .identity)])]) []

theorem long_cycle_or_clash_opposed :
    ofDocument circular.toDocument = .ok circular ∧
      (∃ cycle, circular.validate none = .error (.cycle cycle) ∧ circular.IsLongCycle cycle) ∧
      ofDocument opposed.toDocument = .ok opposed ∧ opposed.Contradict "b" "a" ∧
      opposed.validate none = .error (.clash "a" "b" "<" "<d") ∧
      ∃ fault, opposed.validate none = .error fault ∧
        ((∃ c d forward backward, fault = .clash c d forward backward ∧ opposed.Contradict c d) ∨
          ∃ other ∈ Requirement.oneDirection.earlier, other.Reports none opposed fault) := by
  have hcircular : ofDocument circular.toDocument = .ok circular := eq_ok_of_toOption (by decide +kernel)
  have hopposed : ofDocument opposed.toDocument = .ok opposed := eq_ok_of_toOption (by decide +kernel)
  have hcycle : ∃ cycle, circular.validate none = .error (.cycle cycle) := by
    have hclean : circular.firstFault none = none := Option.isNone_iff_eq_none.mp (by decide +kernel)
    have hedges : circular.precedenceEdges = [("a", "b"), ("b", "c"), ("c", "a")] := by decide +kernel
    have hcyclic : ¬ Acyclic circular.precedenceEdges := by
      rw [hedges]
      exact fun h => h "a" (.head (b := "b") (by decide) (.head (b := "c") (by decide) (.single (by decide))))
    obtain ⟨cycle, horder⟩ := exists_topologicalOrder_error circular.activities hcyclic
    exact ⟨cycle, by rw [validate, hclean, horder]; rfl⟩
  have hclash : opposed.validate none = .error (.clash "a" "b" "<" "<d") := by
    have hfault : opposed.firstFault none = some (.clash "a" "b" "<" "<d") := rfl
    rw [validate, hfault]
  have hcontradict : opposed.Contradict "b" "a" :=
    ⟨mem_precedenceEdges.mp (by decide +kernel), mem_precedenceEdges.mp (by decide +kernel)⟩
  obtain ⟨cycle, hcycle⟩ := hcycle
  have hlong := (long_cycle_or_clash hcircular none).1 cycle hcycle
  exact ⟨hcircular, ⟨cycle, hcycle, hlong.1⟩, hopposed, hcontradict, hclash,
    (long_cycle_or_clash hopposed none).2 _ _ hcontradict⟩

/-- The circle is reported from its least activity on. -/
example : circular.validate none = .error (.cycle ["a", "b", "c", "a"]) := by cbv

end Matrix

end ActivityMatrix
