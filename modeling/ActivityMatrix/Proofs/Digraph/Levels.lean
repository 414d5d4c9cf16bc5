import ActivityMatrix.Digraph.Levels
import ActivityMatrix.Proofs.Digraph.Order

/-!
# Levels rise along paths

Both ways to assign levels succeed on an acyclic graph (`exists_compute`), and then every path leads to a
higher level (`exists_compute_rising`).

For the positions in the topological order that is what the order is made for. The lengths of the longest
paths come about edge by edge while names are released along a queue, and what carries their proof is
`Releasing`: the edges that are left are those that leave names not yet released, and the level of a name
is one more than the highest level of its released predecessors. A name is released only when all its
predecessors have been, so its own level is never raised again. In the end the levels are the least ones
that rise along all edges (`IsLongest.le`), so nothing else is left to chance: the queue could be worked
off in any other order, too.
-/

namespace ActivityMatrix.Levels

open ActivityMatrix.Digraph

variable {listed nodes queue done order : List String} {edges left : List (String × String)}
  {levels : Levels} {f g : String → Nat} {a b u v : String} {strategy : LevelStrategy}

/-- The levels of some names, read off a function. -/
def tabulated (nodes : List String) (f : String → Nat) : Levels :=
  nodes.map fun node => (node, f node)

theorem lookup_tabulated (f : String → Nat) (ha : a ∈ nodes) : (tabulated nodes f).lookup a = some (f a) :=
  List.lookup_graph f ha

theorem level_tabulated (f : String → Nat) (ha : a ∈ nodes) : (tabulated nodes f).level a = f a := by
  rw [level, lookup_tabulated f ha, Option.getD_some]

/-- Numbers of which some are raised to at least another number. -/
def raised (f : String → Nat) (least : Nat) (names : List String) (v : String) : Nat :=
  if names.contains v then max (f v) least else f v

theorem raise_tabulated (nodes : List String) (f : String → Nat) (least : Nat) (names : List String) :
    (tabulated nodes f).raise least names = tabulated nodes (raised f least names) := by
  rw [raise, tabulated, List.map_map]
  rfl

theorem le_raised (f : String → Nat) (least : Nat) (names : List String) (v : String) :
    f v ≤ raised f least names v := by
  unfold raised
  split
  · exact Nat.le_max_left _ _
  · exact Nat.le_refl _

/-! ## Rising numbers -/

/-- Numbers rise along paths if they rise along edges. -/
theorem lt_of_leads (hrise : ∀ {u v}, (u, v) ∈ edges → f u < f v) (h : Leads edges a b) : f a < f b := by
  induction h with
  | single hab => exact hrise hab
  | tail _ hlast ih => exact ih.trans (hrise hlast)

/-- A number for each node: one more than the highest number of a predecessor, and zero without one. -/
structure IsLongest (edges : List (String × String)) (f : String → Nat) : Prop where
  rises : ∀ {u v}, (u, v) ∈ edges → f u < f v
  tight : ∀ v, f v = 0 ∨ ∃ u, (u, v) ∈ edges ∧ f v = f u + 1

/-- Lengths of longest paths are the least numbers that rise along all edges. -/
theorem IsLongest.le (h : IsLongest edges f) (hg : ∀ {u v}, (u, v) ∈ edges → g u < g v) (v : String) :
    f v ≤ g v := by
  induction hn : f v using Nat.strong_induction_on generalizing v with
  | _ n ih =>
      rcases h.tight v with hzero | ⟨u, huv, hsucc⟩
      · exact (hn.symm.trans hzero) ▸ Nat.zero_le _
      · have hfu : f u < n := hn ▸ h.rises huv
        have := ih (f u) hfu u rfl
        have := hg huv
        omega

theorem IsLongest.unique (h : IsLongest edges f) (h' : IsLongest edges g) : f = g :=
  funext fun v => Nat.le_antisymm (h.le h'.rises v) (h'.le h.rises v)

/-! ## Releasing names -/

/-- The edges that do not leave a released name. -/
def unreleased (edges : List (String × String)) (done : List String) : List (String × String) :=
  edges.filter (·.1 ∉ done)

theorem mem_unreleased : (u, v) ∈ unreleased edges done ↔ (u, v) ∈ edges ∧ u ∉ done := by
  rw [unreleased, List.mem_filter, decide_eq_true_iff]

theorem notLeaving_unreleased (edges : List (String × String)) (done : List String) (node : String) :
    notLeaving (unreleased edges done) node = unreleased edges (done ++ [node]) := by
  rw [notLeaving, unreleased, unreleased, List.filter_filter]
  refine List.filter_congr fun edge _ => ?_
  simp [Bool.and_comm]

/-- Some names are released, and those in the queue are the next ones. -/
structure Releasing (nodes : List String) (edges : List (String × String)) (done queue : List String)
    (f : String → Nat) : Prop where
  nodup : (done ++ queue).Nodup
  mem_iff : ∀ v, v ∈ done ++ queue ↔ v ∈ nodes ∧ ∀ u, (u, v) ∈ edges → u ∈ done
  rises : ∀ {u v}, u ∈ done → (u, v) ∈ edges → f u < f v
  tight : ∀ v, f v = 0 ∨ ∃ u ∈ done, (u, v) ∈ edges ∧ f v = f u + 1

theorem releasing_start (hnodup : nodes.Nodup) :
    Releasing nodes edges [] (sortNames (nodes.filter (!isEntered edges ·))) fun _ => 0 where
  nodup := (perm_sortBy _).nodup_iff.mpr (hnodup.filter _)
  mem_iff v := by
    rw [List.nil_append, mem_sortNames, List.mem_filter, Bool.not_eq_true', ← Bool.not_eq_true,
      isEntered_iff]
    simp
  rises hu := absurd hu List.not_mem_nil
  tight _ := .inl rfl

section

variable {node : String} (h : Releasing nodes edges done (node :: queue) f)
include h

theorem Releasing.first_notMem : node ∉ done :=
  notMem_of_nodup_append_cons h.nodup

theorem Releasing.mem_next : v ∈ sortedSuccessors (unreleased edges done) node ↔ (node, v) ∈ edges := by
  rw [mem_sortedSuccessors, mem_unreleased, and_iff_left h.first_notMem]

/-- No edge leads from the first name of the queue to a name that is released or queued. -/
theorem Releasing.not_mem_next (hv : v ∈ done ++ node :: queue) :
    v ∉ sortedSuccessors (unreleased edges done) node :=
  fun hnext => h.first_notMem (((h.mem_iff v).mp hv).2 node (h.mem_next.mp hnext))

/-- The names that are queued when the first name is released have no other predecessors left. -/
theorem Releasing.mem_freed : v ∈ freedBy (unreleased edges done) node ↔
    (node, v) ∈ edges ∧ ∀ u, (u, v) ∈ edges → u ∈ done ++ [node] := by
  rw [mem_freedBy, mem_unreleased, and_iff_left h.first_notMem]
  simp only [mem_unreleased, List.mem_append, List.mem_singleton, and_imp, or_iff_not_imp_left]

/-- Releasing a name leaves the levels of the released names, its own among them, as they are. -/
theorem Releasing.raised_eq (least : Nat) (hu : u ∈ done ++ [node]) :
    raised f least (sortedSuccessors (unreleased edges done) node) u = f u := by
  refine if_neg fun hmem => h.not_mem_next ?_ (List.contains_iff_mem.mp hmem)
  exact List.append_subset.mpr ⟨List.subset_append_left _ _, by simp⟩ hu

/-- Releasing the first name of the queue raises its successors and queues those that are free now. -/
theorem Releasing.step (htarget : ∀ {u v}, (u, v) ∈ edges → v ∈ nodes) :
    Releasing nodes edges (done ++ [node]) (queue ++ freedBy (unreleased edges done) node)
      (raised f (f node + 1) (sortedSuccessors (unreleased edges done) node)) where
  nodup := by
    have hold : (done ++ [node] ++ queue).Nodup := by simpa using h.nodup
    rw [← List.append_assoc]
    refine List.Nodup.append hold (nodup_freedBy _ _) fun v hv hv' => ?_
    exact h.not_mem_next (by simpa using hv) (List.mem_of_mem_filter hv')
  mem_iff v := by
    rw [← List.append_assoc, List.mem_append, h.mem_freed, List.append_assoc, List.singleton_append,
      h.mem_iff]
    constructor
    · rintro (⟨hv, hall⟩ | ⟨hedge, hall⟩)
      · exact ⟨hv, fun u hu => List.mem_append_left _ (hall u hu)⟩
      · exact ⟨htarget hedge, hall⟩
    · rintro ⟨hv, hall⟩
      by_cases hedge : (node, v) ∈ edges
      · exact .inr ⟨hedge, hall⟩
      · refine .inl ⟨hv, fun u hu => (List.mem_append.mp (hall u hu)).resolve_right fun hfirst => ?_⟩
        exact hedge (List.mem_singleton.mp hfirst ▸ hu)
  rises {u v} hu huv := by
    rw [h.raised_eq _ hu]
    rcases List.mem_append.mp hu with hdone | hfirst
    · exact (h.rises hdone huv).trans_le (le_raised _ _ _ _)
    · obtain rfl := List.mem_singleton.mp hfirst
      rw [raised, if_pos (List.contains_iff_mem.mpr (h.mem_next.mpr huv))]
      exact Nat.le_max_right _ _
  tight v := by
    -- a level that is not raised keeps its predecessor, a raised one gets the released name
    have hold : f v = 0 ∨ ∃ u ∈ done ++ [node], (u, v) ∈ edges ∧
        f v = raised f (f node + 1) (sortedSuccessors (unreleased edges done) node) u + 1 := by
      refine (h.tight v).imp_right fun ⟨u, hu, huv, heq⟩ => ?_
      have hu' : u ∈ done ++ [node] := List.mem_append_left _ hu
      exact ⟨u, hu', huv, by rw [h.raised_eq _ hu', heq]⟩
    by_cases hnext : v ∈ sortedSuccessors (unreleased edges done) node
    · have hv : raised f (f node + 1) (sortedSuccessors (unreleased edges done) node) v =
          max (f v) (f node + 1) := if_pos (List.contains_iff_mem.mpr hnext)
      rw [hv]
      rcases Nat.le_total (f v) (f node + 1) with hle | hle
      · refine .inr ⟨node, by simp, h.mem_next.mp hnext, ?_⟩
        rw [Nat.max_eq_right hle, h.raised_eq _ (by simp)]
      · rw [Nat.max_eq_left hle]
        exact hold
    · have hv : raised f (f node + 1) (sortedSuccessors (unreleased edges done) node) v = f v :=
        if_neg fun hmem => hnext (List.contains_iff_mem.mp hmem)
      rw [hv]
      exact hold

end

/-- Working off a queue ends with an empty one, and what is left are the edges that leave a name that
was not released. -/
theorem exists_releasing (htarget : ∀ {u v}, (u, v) ∈ edges → v ∈ nodes)
    (h : Releasing nodes edges done queue f) :
    ∃ done' f', release (unreleased edges done) (tabulated nodes f) queue =
      (tabulated nodes f', unreleased edges done') ∧ Releasing nodes edges done' [] f' := by
  generalize hleft : unreleased edges done = left
  generalize hlevels : tabulated nodes f = levels
  induction left, levels, queue using release.induct generalizing done f with
  | case1 left levels =>
      subst hleft hlevels
      exact ⟨done, f, by rw [release], h⟩
  | case2 left levels node queue =>
      rename_i ih
      subst hleft hlevels
      have hnode : node ∈ nodes := ((h.mem_iff node).mp (by simp)).1
      have hrest := notLeaving_unreleased edges done node
      have hraise := raise_tabulated nodes f (f node + 1) (sortedSuccessors (unreleased edges done) node)
      rw [← level_tabulated f hnode] at hraise
      have hstep := h.step htarget
      rw [← level_tabulated f hnode] at hstep
      rw [release]
      exact ih hstep hrest.symm hraise.symm

/-- On an acyclic graph all names are released: by induction along the edges, the predecessors of a name
were released, so nothing holds it back. -/
theorem Releasing.mem_done (h : Releasing nodes edges done [] f) (hacyclic : Acyclic edges)
    (hsource : ∀ {u v}, (u, v) ∈ edges → u ∈ nodes) (hv : v ∈ nodes) : v ∈ done := by
  induction v using hacyclic.wellFounded.induction with
  | _ v ih =>
      have hmem := (h.mem_iff v).mpr ⟨hv, fun u huv => ih u huv (hsource huv)⟩
      rwa [List.append_nil] at hmem

/-- What the queue leaves: the levels of a release that is over, or a cycle among the names that an unused
edge enters. -/
theorem longestPaths_eq (listed : List String) (edges : List (String × String)) :
    ∃ done f, Releasing (mentionedNodes listed edges) edges done [] f ∧
      longestPaths listed edges =
        if unreleased edges done = [] then .ok (tabulated (mentionedNodes listed edges) f)
        else .error ((cycleAmong (sortedSuccessors edges)
          ((mentionedNodes listed edges).filter (isEntered (unreleased edges done)))).getD []) := by
  have htarget : ∀ {u v}, (u, v) ∈ edges → v ∈ mentionedNodes listed edges := fun huv =>
    mem_mentionedNodes.mpr (.inr ⟨_, huv, .inr rfl⟩)
  have hstart : Releasing (mentionedNodes listed edges) edges [] _ _ := releasing_start (nodup_distinct _)
  obtain ⟨done, f, hrelease, hdone⟩ := exists_releasing htarget hstart
  have hall : unreleased edges [] = edges := by simp [unreleased]
  rw [hall] at hrelease
  refine ⟨done, f, hdone, ?_⟩
  simp only [longestPaths]
  rw [show (mentionedNodes listed edges).map (·, 0) = tabulated _ (fun _ => 0) from rfl, hrelease]
  cases unreleased edges done <;> rfl

/-- On an acyclic graph all edges are used up, and the levels are the lengths of the longest paths. -/
theorem exists_longestPaths (listed : List String) (h : Acyclic edges) :
    ∃ f, longestPaths listed edges = .ok (tabulated (mentionedNodes listed edges) f) ∧
      IsLongest edges f := by
  have hsource : ∀ {u v}, (u, v) ∈ edges → u ∈ mentionedNodes listed edges := fun huv =>
    mem_mentionedNodes.mpr (.inr ⟨_, huv, .inl rfl⟩)
  obtain ⟨done, f, hdone, hresult⟩ := longestPaths_eq listed edges
  have hleft : unreleased edges done = [] := List.eq_nil_iff_forall_not_mem.mpr fun ⟨u, v⟩ hedge => by
    obtain ⟨huv, hu⟩ := mem_unreleased.mp hedge
    exact hu (hdone.mem_done h hsource (hsource huv))
  refine ⟨f, hresult.trans (if_pos hleft),
    fun huv => hdone.rises (hdone.mem_done h hsource (hsource huv)) huv, fun v => ?_⟩
  exact (hdone.tight v).imp_right fun ⟨u, _, huv, heq⟩ => ⟨u, huv, heq⟩

/-! ## Both strategies -/

/-- The level of a name is its place in the order. -/
theorem lookup_zipIdx (ha : a ∈ order) (start : Nat) :
    (order.zipIdx start).lookup a = some (start + order.idxOf a) := by
  induction order generalizing start with
  | nil => exact absurd ha List.not_mem_nil
  | cons b rest ih =>
      rw [List.zipIdx_cons, List.lookup_cons]
      rcases eq_or_ne a b with rfl | hne
      · simp
      · rw [beq_false_of_ne hne, ih ((List.mem_cons.mp ha).resolve_left hne),
          List.idxOf_cons_ne _ hne.symm, Nat.add_right_comm, Nat.add_assoc]

/-- An order that respects the edges gives rising places. -/
theorem exists_positions (listed : List String) (h : Acyclic edges) :
    ∃ order : List String, positions listed edges = .ok order.zipIdx ∧
      order.Perm (mentionedNodes listed edges) ∧
      ∀ {u v}, (u, v) ∈ edges → order.idxOf u < order.idxOf v := by
  obtain ⟨order, horder⟩ := exists_topologicalOrder listed h
  have hperm := (topologicalOrder_ok horder).1
  refine ⟨order, by rw [positions, horder]; rfl, hperm, fun {u v} huv => ?_⟩
  have hu := hperm.mem_iff.mpr (mem_mentionedNodes.mpr (.inr ⟨_, huv, .inl rfl⟩))
  have hv := hperm.mem_iff.mpr (mem_mentionedNodes.mpr (.inr ⟨_, huv, .inr rfl⟩))
  exact idxOf_lt_of_pairwise (pairwise_of_topologicalOrder_ok horder) (fun huu => h u (.single huu)) hu
    hv huv

/-- Either strategy assigns a level to every name of an acyclic graph, and levels rise along its
edges. -/
theorem exists_compute (strategy : LevelStrategy) (listed : List String) (h : Acyclic edges) :
    ∃ (levels : Levels) (f : String → Nat), compute strategy listed edges = .ok levels ∧
      (∀ a ∈ mentionedNodes listed edges, levels.lookup a = some (f a)) ∧
      ∀ {u v}, (u, v) ∈ edges → f u < f v := by
  cases strategy with
  | longestPath =>
      obtain ⟨f, hok, hf⟩ := exists_longestPaths listed h
      exact ⟨_, f, hok, fun a ha => lookup_tabulated f ha, hf.rises⟩
  | topologicalIndex =>
      obtain ⟨order, hok, hperm, hrises⟩ := exists_positions listed h
      refine ⟨_, order.idxOf, hok, fun a ha => ?_, hrises⟩
      rw [lookup_zipIdx (hperm.mem_iff.mpr ha), Nat.zero_add]

/-- **Levels rise along every path** of an acyclic graph, whatever strategy assigns them. -/
theorem exists_compute_rising (strategy : LevelStrategy) (listed : List String) (h : Acyclic edges) :
    ∃ levels, compute strategy listed edges = .ok levels ∧
      ∀ a b, Leads edges a b →
        ∃ i j, levels.lookup a = some i ∧ levels.lookup b = some j ∧ i < j := by
  obtain ⟨levels, f, hok, hlookup, hrises⟩ := exists_compute strategy listed h
  refine ⟨levels, hok, fun a b hab => ⟨f a, f b, hlookup a ?_, hlookup b ?_, lt_of_leads hrises hab⟩⟩
  · obtain ⟨c, hac, -⟩ := hab.exists_first
    exact mem_mentionedNodes.mpr (.inr ⟨_, hac, .inl rfl⟩)
  · obtain ⟨c, -, hcb⟩ := hab.exists_last
    exact mem_mentionedNodes.mpr (.inr ⟨_, hcb, .inr rfl⟩)

end ActivityMatrix.Levels
