import ActivityMatrix.Proofs.Digraph.Levels

/-!
# Longest paths, or the same cycle

`longestPaths` needs no topological order, and yet it fails exactly when there is none, and with the same
cycle. When it succeeds, the level of a name is the number of edges of the longest path that ends at it.

* `IsLongest.isLongestPathLength`: along a path the levels rise by at least one at every edge, so no path
  is longer than the level of its end; and a name that is not at level zero has a predecessor just one
  level below, so going back from one to the next gives a path that is as long.
* `Releasing.perm_left`: the names that are never released are those that `peel` leaves over, although the
  one looks for names that an unused edge still enters and the other for names that are missing from the
  order. A name left over is entered from another one left over, so releasing one of them would take an
  endless descent of levels; and a name that is removed has only sources that were removed before it, so
  it is released after them.
-/

namespace ActivityMatrix.Levels

open ActivityMatrix.Digraph

variable {listed nodes remaining done path : List String} {edges : List (String × String)}
  {f : String → Nat} {v node : String} {levels : Levels}

/-! ## Longest paths -/

/-- A path along edges, given by its nodes, that ends at a node. -/
def IsPathTo (edges : List (String × String)) (node : String) (path : List String) : Prop :=
  path.IsChain (fun a b => (a, b) ∈ edges) ∧ path.getLast? = some node

/-- The number of edges of the longest path that ends at a node; a path has one node more than it has
edges. -/
structure IsLongestPathLength (edges : List (String × String)) (node : String) (n : Nat) : Prop where
  attained : ∃ path, IsPathTo edges node path ∧ path.length = n + 1
  length_le : ∀ path, IsPathTo edges node path → path.length ≤ n + 1

/-- The path of a single node. -/
theorem isPathTo_singleton (edges : List (String × String)) (node : String) : IsPathTo edges node [node] :=
  ⟨.singleton node, rfl⟩

/-- A path is extended by an edge that leaves its end. -/
theorem IsPathTo.append (h : IsPathTo edges node path) (hedge : (node, v) ∈ edges) :
    IsPathTo edges v (path ++ [v]) := by
  refine ⟨h.1.append (.singleton v) fun last hlast first hfirst => ?_, List.getLast?_concat⟩
  obtain rfl : node = last := Option.some.inj (h.2.symm.trans hlast)
  obtain rfl : v = first := by simpa using hfirst
  exact hedge

/-- Numbers that rise along edges rise along a path at every edge. -/
theorem IsPathTo.length_le (h : IsPathTo edges node path)
    (hrise : ∀ {u v}, (u, v) ∈ edges → f u < f v) : path.length ≤ f node + 1 := by
  -- counted from its start, a path raises the value by one at each step
  have hstart : ∀ a rest, path = a :: rest → f a + rest.length ≤ f node := by
    obtain ⟨hchain, hlast⟩ := h
    induction path with
    | nil => simp
    | cons b path ih =>
        rintro a rest heq
        obtain ⟨rfl, rfl⟩ := List.cons.inj heq
        cases path with
        | nil =>
            obtain rfl : b = node := by simpa using hlast
            simp
        | cons c path =>
            obtain ⟨hbc, htail⟩ := List.isChain_cons_cons.mp hchain
            have := ih htail (by simpa using hlast) c path rfl
            have := hrise hbc
            rw [List.length_cons]
            omega
  cases path with
  | nil => exact absurd h.2 (by simp)
  | cons a rest =>
      have := hstart a rest rfl
      rw [List.length_cons]
      omega

/-- **Levels are the lengths of longest paths.** -/
theorem IsLongest.isLongestPathLength (h : IsLongest edges f) (node : String) :
    IsLongestPathLength edges node (f node) where
  attained := by
    induction hn : f node using Nat.strong_induction_on generalizing node with
    | _ n ih =>
        rcases h.tight node with hzero | ⟨source, hedge, hsucc⟩
        · exact ⟨[node], isPathTo_singleton edges node, by simp [← hn, hzero]⟩
        · obtain ⟨path, hpath, hlength⟩ := ih (f source) (hn ▸ h.rises hedge) source rfl
          exact ⟨path ++ [node], hpath.append hedge, by simp [hlength, ← hn, hsucc]⟩
  length_le path hpath := hpath.length_le h.rises

/-- The names at level zero are those that no edge enters. -/
theorem IsLongest.eq_zero_iff (h : IsLongest edges f) (node : String) :
    f node = 0 ↔ ∀ source, (source, node) ∉ edges := by
  refine ⟨fun hzero source hedge => ?_, fun hnone => ?_⟩
  · have := h.rises hedge
    omega
  · exact (h.tight node).resolve_right fun ⟨source, hedge, _⟩ => hnone source hedge

/-! ## What is never released -/

section

variable (h : Releasing nodes edges done [] f)
include h

/-- A name is released if all its predecessors are. -/
theorem Releasing.mem_done_iff : v ∈ done ↔ v ∈ nodes ∧ ∀ u, (u, v) ∈ edges → u ∈ done := by
  rw [← h.mem_iff, List.append_nil]

/-- Names that are each entered from another one of them are not released. -/
theorem Releasing.notMem_of_sources {left : List String}
    (hleft : ∀ a ∈ left, ∃ b ∈ left, (b, a) ∈ edges) (hv : v ∈ left) : v ∉ done := by
  intro hdone
  induction hn : f v using Nat.strong_induction_on generalizing v with
  | _ n ih =>
      obtain ⟨u, hu, huv⟩ := hleft v hv
      have hudone := (h.mem_done_iff.mp hdone).2 u huv
      exact ih (f u) (hn ▸ h.rises hudone huv) hu hudone rfl

/-- What is removed as a free name is released. -/
theorem Releasing.mem_of_mem_peel (hsource : ∀ {u v}, (u, v) ∈ edges → u ∈ nodes)
    (hsub : remaining ⊆ nodes) (hout : ∀ u ∈ nodes, u ∉ remaining → u ∈ done)
    (hv : v ∈ (peel edges remaining).1) : v ∈ done := by
  induction remaining using peel.induct edges with
  | case1 remaining hnone =>
      rw [peel_of_none hnone] at hv
      exact absurd hv List.not_mem_nil
  | case2 remaining node hfind _ _ _ ih =>
      have hfree := isFree_iff.mp (List.find?_some hfind)
      have hnode : node ∈ done := h.mem_done_iff.mpr
        ⟨hsub (List.mem_of_find?_eq_some hfind), fun u hu => hout u (hsource hu) (hfree u hu)⟩
      rw [peel_of_some hfind] at hv
      rcases List.mem_cons.mp hv with rfl | hv
      · exact hnode
      · refine ih (fun a ha => hsub (List.mem_of_mem_erase ha)) (fun u hu hnot => ?_) hv
        by_cases heq : u = node
        · exact heq ▸ hnode
        · exact hout u hu fun hmem => hnot ((List.mem_erase_of_ne heq).mpr hmem)

/-- **The names that an unused edge enters are those that no order can hold.** -/
theorem Releasing.perm_left (hnodup : nodes.Nodup) (hsource : ∀ {u v}, (u, v) ∈ edges → u ∈ nodes) :
    (nodes.filter (isEntered (unreleased edges done))).Perm (peel edges (sortNames nodes)).2 := by
  have hperm := (perm_peel edges (sortNames nodes)).trans (perm_sortBy _)
  have hleft := (List.nodup_append.mp (hperm.nodup_iff.mpr hnodup)).2.1
  refine (List.perm_ext_iff_of_nodup (hnodup.filter _) hleft).mpr fun v => ?_
  have hentered : v ∈ nodes → (isEntered (unreleased edges done) v = true ↔ v ∉ done) := fun hv => by
    rw [isEntered_iff, h.mem_done_iff, and_iff_right hv]
    simp only [mem_unreleased, not_forall, exists_prop]
  rw [List.mem_filter]
  constructor
  · rintro ⟨hv, hbusy⟩
    refine (List.mem_append.mp (hperm.mem_iff.mpr hv)).resolve_left fun hpeeled => ?_
    refine (hentered hv).mp hbusy (h.mem_of_mem_peel hsource (fun a => mem_sortNames.mp) ?_ hpeeled)
    exact fun u hu hnot => absurd (mem_sortNames.mpr hu) hnot
  · intro hv
    have hmem : v ∈ nodes := hperm.mem_iff.mp (List.mem_append_right _ hv)
    exact ⟨hmem, (hentered hmem).mpr
      (h.notMem_of_sources (fun _ => exists_source_of_mem_left) hv)⟩

end

/-- Both fail on the same edges and with the same cycle. -/
theorem longestPaths_eq_error_iff (listed : List String) (edges : List (String × String))
    (cycle : List String) :
    longestPaths listed edges = .error cycle ↔ topologicalOrder listed edges = .error cycle := by
  have hsource : ∀ {u v}, (u, v) ∈ edges → u ∈ mentionedNodes listed edges := fun huv =>
    mem_mentionedNodes.mpr (.inr ⟨_, huv, .inl rfl⟩)
  obtain ⟨done, f, hdone, hresult⟩ := longestPaths_eq listed edges
  have hperm := hdone.perm_left (nodup_distinct _) hsource
  have hempty : unreleased edges done = [] ↔
      (peel edges (sortNames (mentionedNodes listed edges))).2 = [] := by
    rw [← List.length_eq_zero_iff (l := (peel _ _).2), ← hperm.length_eq, List.length_eq_zero_iff,
      List.filter_eq_nil_iff, List.eq_nil_iff_forall_not_mem]
    simp only [isEntered_iff, not_exists]
    refine ⟨fun hnone v _ u => hnone (u, v), fun hnone (u, v) huv => hnone v ?_ u huv⟩
    exact mem_mentionedNodes.mpr (.inr ⟨_, (mem_unreleased.mp huv).1, .inr rfl⟩)
  rw [hresult, topologicalOrder_eq, cycleAmong_congr hperm]
  by_cases hleft : unreleased edges done = []
  · simp [hleft, hempty.mp hleft]
  · simp [hleft, mt hempty.mpr hleft]

/-- **Longest paths, or the same cycle.** Whatever names are listed and whatever edges are given, every
name gets a level exactly for acyclic edges, and it is then the length of the longest path that ends at
the name, zero for names that no edge enters; for any other edges the answer is the cycle that is
answered for want of an order, from which message and pair are read off. -/
theorem longestPaths_or_cycle (listed : List String) (edges : List (String × String)) :
    ((∃ levels, longestPaths listed edges = .ok levels ∧
        levels.map Prod.fst = mentionedNodes listed edges ∧
        ∀ entry ∈ levels, IsLongestPathLength edges entry.1 entry.2 ∧
          (entry.2 = 0 ↔ ∀ source, (source, entry.1) ∉ edges)) ↔ Acyclic edges) ∧
      ((∃ cycle, longestPaths listed edges = .error cycle) ↔ ¬ Acyclic edges) ∧
      ∀ cycle, longestPaths listed edges = .error cycle ↔ topologicalOrder listed edges = .error cycle := by
  have hcyclic : ¬ Acyclic edges → ∃ cycle, longestPaths listed edges = .error cycle := fun h =>
    (exists_topologicalOrder_error listed h).imp fun cycle =>
      (longestPaths_eq_error_iff listed edges cycle).mpr
  refine ⟨⟨?_, fun hacyclic => ?_⟩, ⟨?_, hcyclic⟩, longestPaths_eq_error_iff listed edges⟩
  · rintro ⟨levels, hlevels, -⟩
    refine not_not.mp fun h => ?_
    obtain ⟨cycle, hcycle⟩ := hcyclic h
    cases hlevels.symm.trans hcycle
  · obtain ⟨f, hok, hf⟩ := exists_longestPaths listed hacyclic
    refine ⟨_, hok, by simp [tabulated, Function.comp_def], fun entry hentry => ?_⟩
    obtain ⟨node, -, rfl⟩ := List.mem_map.mp hentry
    exact ⟨hf.isLongestPathLength node, hf.eq_zero_iff node⟩
  · rintro ⟨cycle, hcycle⟩ hacyclic
    obtain ⟨f, hok, -⟩ := exists_longestPaths listed hacyclic
    cases hok.symm.trans hcycle

/-- The longer one of the two paths from `a` to `c` counts. -/
example : longestPaths ["c", "a"] [("a", "b"), ("b", "c"), ("a", "c")] =
    .ok [("c", 2), ("a", 0), ("b", 1)] := by cbv

end ActivityMatrix.Levels
