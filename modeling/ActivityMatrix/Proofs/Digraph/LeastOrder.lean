import ActivityMatrix.Proofs.Digraph.Order
import ActivityMatrix.Violation

/-!
# The least order, or a cycle

Either the edges are acyclic and `topologicalOrder` answers the least of all orders that respect them,
compared name by name from the front, or they are not and it answers a cycle.

The order is the least one because of what is greedy in `peel`. Whatever other order is given, its first
name is free, and `peel` starts with the least free name; so either that is smaller, or both start alike
and what remains is compared in the same way (`eq_or_lex_peel`). No choice has to be taken back: removing
a free name never makes the rest unorderable.
-/

namespace ActivityMatrix.Digraph

variable {listed order other remaining cycle : List String} {edges : List (String × String)}

/-- All listed names and ends of edges, each once, such that every edge leads to a later place. -/
structure IsTopologicalOrder (listed : List String) (edges : List (String × String))
    (order : List String) : Prop where
  nodup : order.Nodup
  mem_iff : ∀ a, a ∈ order ↔ a ∈ listed ∨ ∃ edge ∈ edges, a = edge.1 ∨ a = edge.2
  rises : ∀ a b, (a, b) ∈ edges → order.idxOf a < order.idxOf b

/-- A path along edges that ends where it starts, with at least one edge. -/
structure IsCycle (edges : List (String × String)) (cycle : List String) : Prop where
  closed : ∃ node inner, cycle = node :: (inner ++ [node])
  mem_edges : ∀ edge ∈ pathEdges cycle, edge ∈ edges

theorem IsTopologicalOrder.pairwise (h : IsTopologicalOrder listed edges order) :
    order.Pairwise fun a b => (b, a) ∉ edges := by
  refine List.pairwise_iff_getElem.mpr fun i j hi hj hij hedge => ?_
  have hlt := h.rises _ _ hedge
  rw [h.nodup.idxOf_getElem, h.nodup.idxOf_getElem] at hlt
  omega

theorem IsTopologicalOrder.acyclic (h : IsTopologicalOrder listed edges order) : Acyclic edges := by
  refine acyclic_of_pairwise (fun a b hab => ?_) h.pairwise fun a _ hself => ?_
  · simp only [h.mem_iff]
    exact ⟨.inr ⟨_, hab, .inl rfl⟩, .inr ⟨_, hab, .inr rfl⟩⟩
  · exact Nat.lt_irrefl _ (h.rises a a hself)

/-- What is answered is an order. -/
theorem isTopologicalOrder_of_ok (h : topologicalOrder listed edges = .ok order) :
    IsTopologicalOrder listed edges order where
  nodup := nodup_of_topologicalOrder_ok h
  mem_iff _ := mem_of_topologicalOrder_ok h
  rises a b hab := by
    refine idxOf_lt_of_pairwise (pairwise_of_topologicalOrder_ok h)
      (fun hself => (topologicalOrder_ok h).2 a (.single hself)) ?_ ?_ hab
    · exact (mem_of_topologicalOrder_ok h).mpr (.inr ⟨_, hab, .inl rfl⟩)
    · exact (mem_of_topologicalOrder_ok h).mpr (.inr ⟨_, hab, .inr rfl⟩)

/-! ## Every other order is greater -/

/-- No edge enters the first name of an order from a name of the order. -/
theorem isFree_of_pairwise {first : String} {rest : List String}
    (hpair : (first :: rest).Pairwise fun a b => (b, a) ∉ edges) (hself : (first, first) ∉ edges) :
    isFree edges (first :: rest) first = true := by
  refine isFree_iff.mpr fun source hedge hsource => ?_
  rcases List.mem_cons.mp hsource with rfl | hsource
  · exact hself hedge
  · exact (List.pairwise_cons.mp hpair).1 source hsource hedge

/-- The first free one of sorted names is the least one. -/
theorem nameLE_of_find? {p : String → Bool} {a b : String}
    (hsorted : remaining.Pairwise (nameLE · · = true)) (ha : remaining.find? p = some a)
    (hb : b ∈ remaining) (hpb : p b = true) : nameLE a b = true := by
  obtain ⟨-, before, after, rfl, hbefore⟩ := List.find?_eq_some_iff_append.mp ha
  rw [List.pairwise_append, List.pairwise_cons] at hsorted
  rcases List.mem_append.mp hb with hb | hb
  · have := hbefore b hb
    simp [hpb] at this
  · rcases List.mem_cons.mp hb with rfl | hb
    · exact (isOrder_nameLE.total b b).elim id id
    · exact hsorted.2.1.1 b hb

theorem lt_of_nameLE {a b : String} (h : nameLE a b = true) (hne : a ≠ b) : a < b := by
  simpa [nameLE, hne] using h

/-- **The greedy order is the least one**: any other order of the same names is greater at the first
place at which the two differ. -/
theorem eq_or_lex_peel (hsorted : remaining.Pairwise (nameLE · · = true))
    (hperm : other.Perm remaining) (hpair : other.Pairwise fun a b => (b, a) ∉ edges)
    (hself : ∀ a, (a, a) ∉ edges) (hleft : (peel edges remaining).2 = []) :
    (peel edges remaining).1 = other ∨ List.Lex (· < ·) (peel edges remaining).1 other := by
  induction remaining using peel.induct edges generalizing other with
  | case1 remaining hnone =>
      rw [peel_of_none hnone] at hleft ⊢
      obtain rfl : remaining = [] := hleft
      exact .inl (List.perm_nil.mp hperm).symm
  | case2 remaining node hfind _ _ _ ih =>
      rw [peel_of_some hfind] at hleft ⊢
      cases other with
      | nil =>
          obtain rfl := List.nil_perm.mp hperm
          cases hfind
      | cons first rest =>
          -- the other order starts with the name, so it is free and the greedy one had the choice
          have hfree : isFree edges remaining first = true := by
            refine isFree_iff.mpr fun source hedge hsource => ?_
            exact isFree_iff.mp (isFree_of_pairwise hpair (hself first)) source hedge
              (hperm.mem_iff.mpr hsource)
          have hle : nameLE node first = true :=
            nameLE_of_find? hsorted hfind (hperm.mem_iff.mp List.mem_cons_self) hfree
          -- both orders start alike and the rest decides, or the greedy one starts with less
          by_cases heq : node = first
          · subst heq
            have hrest : rest.Perm (remaining.erase node) := by
              have := hperm.erase node
              rwa [List.erase_cons_head] at this
            rcases ih (hsorted.sublist List.erase_sublist) hrest (List.pairwise_cons.mp hpair).2 hleft
              with hsame | hless
            · exact .inl (by rw [hsame])
            · exact .inr (.cons hless)
          · exact .inr (.rel (lt_of_nameLE hle heq))

/-- The order that is answered is the least one. -/
theorem lex_of_ok (h : topologicalOrder listed edges = .ok order)
    (hother : IsTopologicalOrder listed edges other) (hne : other ≠ order) :
    List.Lex (· < ·) order other := by
  have hperm : other.Perm (sortNames (mentionedNodes listed edges)) := by
    refine ((List.perm_ext_iff_of_nodup hother.nodup (nodup_of_topologicalOrder_ok h)).mpr fun a => ?_).trans
      ((topologicalOrder_ok h).1.trans (perm_sortBy _).symm)
    rw [hother.mem_iff, mem_of_topologicalOrder_ok h]
  have hpeel := peel_of_topologicalOrder_ok h
  have hleast := eq_or_lex_peel (pairwise_sortBy isOrder_nameLE.toIsRanking _) hperm hother.pairwise
    (fun a hself => Nat.lt_irrefl _ (hother.rises a a hself)) (congrArg Prod.snd hpeel)
  rw [← sortNames, hpeel] at hleast
  exact hleast.resolve_left hne.symm

/-! ## Cycles -/

/-- The pairs of a walk are its steps. -/
theorem forall_mem_pathEdges {α : Type} {r : α → α → Prop} {path : List α} (h : path.IsChain r) :
    ∀ edge ∈ pathEdges path, r edge.1 edge.2 := by
  induction path with
  | nil => simp [pathEdges]
  | cons a rest ih =>
      cases rest with
      | nil => simp [pathEdges]
      | cons b rest =>
          obtain ⟨hab, hrest⟩ := List.isChain_cons_cons.mp h
          intro edge hedge
          rcases List.mem_cons.mp hedge with rfl | hedge
          · exact hab
          · exact ih hrest edge hedge

/-- What is answered without an order is a cycle. -/
theorem isCycle_of_error (h : topologicalOrder listed edges = .error cycle) : IsCycle edges cycle := by
  obtain ⟨hchain, hclosed⟩ := isClosedWalk_of_topologicalOrder_error h
  exact ⟨hclosed, fun edge hedge => mem_sortedSuccessors.mp (forall_mem_pathEdges hchain edge hedge)⟩

/-- A cycle is reported at its first edge. -/
theorem IsCycle.exists_pair (h : IsCycle edges cycle) :
    ∃ edge ∈ edges, (pathEdges cycle).head? = some edge ∧ (Violation.cycle cycle).pair = some edge := by
  obtain ⟨⟨node, inner, rfl⟩, hedges⟩ := h
  cases inner with
  | nil => exact ⟨(node, node), hedges _ (by simp [pathEdges]), rfl, rfl⟩
  | cons next inner => exact ⟨(node, next), hedges _ (by simp [pathEdges]), rfl, rfl⟩

/-- **A least order, or a cycle.** Whatever names are listed and whatever edges are given, there is an
order exactly for acyclic edges, and it is then the least one of all; for any other edges the answer is a
cycle along them, reported at its first edge. -/
theorem topologicalOrder_least_or_cycle (listed : List String) (edges : List (String × String)) :
    ((∃ order, topologicalOrder listed edges = .ok order ∧ IsTopologicalOrder listed edges order ∧
        ∀ other, IsTopologicalOrder listed edges other → other ≠ order →
          List.Lex (· < ·) order other) ↔ Acyclic edges) ∧
      ((∃ cycle, topologicalOrder listed edges = .error cycle ∧ IsCycle edges cycle ∧
        ∃ edge ∈ edges, (pathEdges cycle).head? = some edge ∧
          (Violation.cycle cycle).pair = some edge) ↔ ¬ Acyclic edges) := by
  refine ⟨⟨?_, fun hacyclic => ?_⟩, ⟨?_, fun hcyclic => ?_⟩⟩
  · rintro ⟨order, -, horder, -⟩
    exact horder.acyclic
  · obtain ⟨order, horder⟩ := exists_topologicalOrder listed hacyclic
    exact ⟨order, horder, isTopologicalOrder_of_ok horder, fun _ => lex_of_ok horder⟩
  · rintro ⟨cycle, hcycle, -⟩ hacyclic
    obtain ⟨order, horder⟩ := exists_topologicalOrder listed hacyclic
    rw [horder] at hcycle
    cases hcycle
  · obtain ⟨cycle, hresult⟩ := exists_topologicalOrder_error listed hcyclic
    have hcycle := isCycle_of_error hresult
    exact ⟨cycle, hresult, hcycle, hcycle.exists_pair⟩

/-- The name `a` is freed by `c` and goes before `d`, which has waited longer. -/
example : topologicalOrder ["b", "a", "a"] [("c", "a"), ("d", "b"), ("c", "a")] =
    .ok ["c", "a", "d", "b"] := by cbv

end ActivityMatrix.Digraph
