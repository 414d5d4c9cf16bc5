import ActivityMatrix.Digraph.Order
import ActivityMatrix.Proofs.Digraph.Cycle
import ActivityMatrix.Proofs.Digraph.Reachability
import ActivityMatrix.Proofs.Sorting

/-!
# Topological orders respect the edges

What `topologicalOrder` answers. An order holds every name that is listed or mentioned by an edge
exactly once, and every edge leads to a later name; so an order is only found for an acyclic graph.
Otherwise the names that could not be removed are left over, each one entered by an edge from another
one of them. No search can finish such names, since the one that it finishes last would have no
predecessor among them, so a cycle is found (`topologicalOrder_error`).

All this is shown of `peel`, which removes the least free name of a list again and again and never
touches the edges. The frontier of `drain` holds at every moment just the names that are free for it
(`drain_eq_peel`), so both take the same names in the same order (`topologicalOrder_eq`).
-/

namespace ActivityMatrix.Digraph

variable {listed order left cycle remaining frontier : List String} {edges unused : List (String × String)}
  {node u v : String}

@[simp] theorem mem_mentionedNodes {a : String} :
    a ∈ mentionedNodes listed edges ↔
      a ∈ listed ∨ ∃ edge ∈ edges, a = edge.1 ∨ a = edge.2 := by
  simp [mentionedNodes]

@[simp] theorem mem_sortedSuccessors {a b : String} :
    b ∈ sortedSuccessors edges a ↔ (a, b) ∈ edges := by
  simp [sortedSuccessors]

theorem isEntered_iff : isEntered edges v = true ↔ ∃ u, (u, v) ∈ edges := by
  rw [isEntered, Bool.not_eq_true', List.isEmpty_eq_false_iff_exists_mem]
  simp only [mem_predecessors]

theorem mem_freedBy : v ∈ freedBy edges node ↔
    (node, v) ∈ edges ∧ ∀ u, (u, v) ∈ edges → u = node := by
  rw [freedBy, List.mem_filter, mem_sortedSuccessors, Bool.not_eq_true', ← Bool.not_eq_true,
    isEntered_iff]
  simp only [mem_notLeaving, not_exists, not_and, not_not]

theorem nodup_freedBy (edges : List (String × String)) (node : String) : (freedBy edges node).Nodup :=
  ((perm_sortBy _).nodup_iff.mpr (nodup_distinct _)).filter _

/-! ## Removing free names -/

/-- Whether no edge from a remaining name enters the node. -/
def isFree (edges : List (String × String)) (remaining : List String) (node : String) : Bool :=
  (predecessors edges node).all fun source => !remaining.contains source

/-- Removes the first free name as long as there is one: the names in the order of their removal,
and those that are left. -/
def peel (edges : List (String × String)) (remaining : List String) :
    List String × List String :=
  match _h : remaining.find? (isFree edges remaining) with
  | none => ([], remaining)
  | some node =>
      let (order, left) := peel edges (remaining.erase node)
      (node :: order, left)
termination_by remaining.length
decreasing_by
  have hmem := List.mem_of_find?_eq_some _h
  have := List.length_pos_of_mem hmem
  rw [List.length_erase_of_mem hmem]
  omega

theorem isFree_iff :
    isFree edges remaining node = true ↔ ∀ source, (source, node) ∈ edges → source ∉ remaining := by
  simp [isFree]

theorem peel_of_none
    (h : remaining.find? (isFree edges remaining) = none) :
    peel edges remaining = ([], remaining) := by
  rw [peel]
  split <;> simp_all

theorem peel_of_some
    (h : remaining.find? (isFree edges remaining) = some node) :
    peel edges remaining =
      (node :: (peel edges (remaining.erase node)).1, (peel edges (remaining.erase node)).2) := by
  rw [peel]
  split <;> simp_all

/-- Removing names loses none of them. -/
theorem perm_peel (edges : List (String × String)) (remaining : List String) :
    ((peel edges remaining).1 ++ (peel edges remaining).2).Perm remaining := by
  induction remaining using peel.induct edges with
  | case1 remaining hnone => simp [peel_of_none hnone]
  | case2 remaining node hfind _ _ _ ih =>
      rw [peel_of_some hfind]
      exact (ih.cons node).trans (List.perm_cons_erase (List.mem_of_find?_eq_some hfind)).symm

/-- No edge leads from a removed name to itself or to a name removed earlier. -/
theorem pairwise_peel (edges : List (String × String)) (remaining : List String) :
    (peel edges remaining).1.Pairwise (fun a b => (b, a) ∉ edges) ∧
      ∀ a ∈ (peel edges remaining).1, (a, a) ∉ edges := by
  induction remaining using peel.induct edges with
  | case1 remaining hnone => simp [peel_of_none hnone]
  | case2 remaining node hfind _ _ _ ih =>
      rw [peel_of_some hfind]
      have hfree := isFree_iff.mp (List.find?_some hfind)
      have hlater : ∀ b ∈ (peel edges (remaining.erase node)).1, (b, node) ∉ edges := by
        intro b hb hedge
        refine hfree b hedge (List.mem_of_mem_erase (b := node) ?_)
        exact (perm_peel edges _).mem_iff.mp (List.mem_append_left _ hb)
      -- what is removed later was still there when the node was free
      refine ⟨List.pairwise_cons.mpr ⟨hlater, ih.1⟩, ?_⟩
      intro a ha
      rcases List.mem_cons.mp ha with rfl | ha
      · exact fun hedge => hfree a hedge (List.mem_of_find?_eq_some hfind)
      · exact ih.2 a ha

/-- An edge leads to a later member of a list in which none leads to an earlier one. -/
theorem idxOf_lt_of_pairwise {a b : String} (hpair : order.Pairwise fun a b => (b, a) ∉ edges)
    (hself : (a, a) ∉ edges) (ha : a ∈ order) (hb : b ∈ order) (hab : (a, b) ∈ edges) :
    order.idxOf a < order.idxOf b := by
  have hia := List.idxOf_lt_length_of_mem ha
  have hib := List.idxOf_lt_length_of_mem hb
  rcases Nat.lt_trichotomy (order.idxOf a) (order.idxOf b) with hlt | heq | hgt
  · exact hlt
  · obtain rfl : a = b := List.idxOf_inj ha |>.mp heq
    exact absurd hab hself
  · have := List.pairwise_iff_getElem.mp hpair _ _ hib hia hgt
    rw [List.getElem_idxOf, List.getElem_idxOf] at this
    exact absurd hab this

/-- A list in which every edge leads to a later member belongs to an acyclic graph. -/
theorem acyclic_of_pairwise (hmem : ∀ a b, (a, b) ∈ edges → a ∈ order ∧ b ∈ order)
    (hpair : order.Pairwise fun a b => (b, a) ∉ edges) (hself : ∀ a ∈ order, (a, a) ∉ edges) :
    Acyclic edges := by
  have hstep : ∀ a b, (a, b) ∈ edges → order.idxOf a < order.idxOf b := by
    intro a b hab
    obtain ⟨ha, hb⟩ := hmem a b hab
    exact idxOf_lt_of_pairwise hpair (hself a ha) ha hb hab
  -- so a path only ever leads to a later place, and none leads back to its start
  have hlt : ∀ a b, Leads edges a b → order.idxOf a < order.idxOf b := by
    intro a b h
    induction h with
    | single h => exact hstep _ _ h
    | tail _ hlast ih => exact ih.trans (hstep _ _ hlast)
  exact fun a ha => Nat.lt_irrefl _ (hlt a a ha)

/-! ## The frontier holds the free names -/

/-- What is known when names are taken from a frontier: the edges not used up are those that leave a
remaining name, and they only lead to remaining names; the frontier holds the free ones. -/
structure Draining (edges unused : List (String × String)) (remaining frontier : List String) :
    Prop where
  nodup : remaining.Nodup
  sorted : remaining.Pairwise (nameLE · · = true)
  mem_unused : ∀ u v, (u, v) ∈ unused ↔ (u, v) ∈ edges ∧ u ∈ remaining
  closed : ∀ u v, (u, v) ∈ edges → u ∈ remaining → v ∈ remaining
  frontier_eq : frontier = remaining.filter (isFree edges remaining)

namespace Draining

variable (h : Draining edges unused remaining (node :: frontier))
include h

theorem find?_eq : remaining.find? (isFree edges remaining) = some node := by
  rw [← List.head?_filter, ← h.frontier_eq, List.head?_cons]

theorem mem_frontier : v ∈ node :: frontier ↔ v ∈ remaining ∧ isFree edges remaining v = true := by
  rw [h.frontier_eq, List.mem_filter]

theorem node_notMem : node ∉ frontier := by
  have hnodup : (node :: frontier).Nodup := h.frontier_eq ▸ h.nodup.filter _
  exact (List.nodup_cons.mp hnodup).1

/-- The edges that the first name uses up hold back just the names that are free after it. -/
theorem mem_next : v ∈ frontier ++ freedBy unused node ↔
    v ∈ remaining.erase node ∧ isFree edges (remaining.erase node) v = true := by
  have hnode := (h.mem_frontier.mp List.mem_cons_self).1
  rw [List.mem_append, mem_freedBy, h.nodup.mem_erase_iff, isFree_iff]
  simp only [h.mem_unused, h.nodup.mem_erase_iff]
  constructor
  · rintro (hv | ⟨⟨hedge, -⟩, honly⟩)
    · obtain ⟨hmem, hfree⟩ := h.mem_frontier.mp (.tail _ hv)
      exact ⟨⟨ne_of_mem_of_not_mem hv h.node_notMem, hmem⟩,
        fun u huv hu => isFree_iff.mp hfree u huv hu.2⟩
    · have hmem := h.closed node v hedge hnode
      have hself := isFree_iff.mp (h.mem_frontier.mp List.mem_cons_self).2
      refine ⟨⟨?_, hmem⟩, fun u huv hu => hu.1 (honly u ⟨huv, hu.2⟩)⟩
      rintro rfl
      exact hself _ hedge hnode
  · rintro ⟨⟨hne, hmem⟩, hfree⟩
    -- a name is free after the node because of it, or was free before
    by_cases hedge : (node, v) ∈ edges
    · refine .inr ⟨⟨hedge, hnode⟩, fun u ⟨huv, hu⟩ => ?_⟩
      exact not_not.mp fun hune => hfree u huv ⟨hune, hu⟩
    · have hfree' : isFree edges remaining v = true := isFree_iff.mpr fun u huv hu =>
        hfree u huv ⟨fun heq => hedge (heq ▸ huv), hu⟩
      exact .inl ((List.mem_cons.mp (h.mem_frontier.mpr ⟨hmem, hfree'⟩)).resolve_left hne)

/-- Taking the first name of the frontier removes the first free name. -/
theorem next : Draining edges (notLeaving unused node) (remaining.erase node)
    (insertAllSorted nameLE frontier (freedBy unused node)) where
  nodup := h.nodup.erase _
  sorted := h.sorted.sublist List.erase_sublist
  mem_unused u v := by
    rw [mem_notLeaving, h.mem_unused, h.nodup.mem_erase_iff, and_assoc, and_comm (a := u ≠ node)]
  closed u v huv hu := by
    refine h.nodup.mem_erase_iff.mpr ⟨?_, h.closed u v huv (List.mem_of_mem_erase hu)⟩
    rintro rfl
    exact isFree_iff.mp (h.mem_frontier.mp List.mem_cons_self).2 u huv (List.mem_of_mem_erase hu)
  frontier_eq := by
    have hfrontier : (node :: frontier).Nodup := h.frontier_eq ▸ h.nodup.filter _
    have hsorted : (node :: frontier).Pairwise (nameLE · · = true) :=
      h.frontier_eq ▸ h.sorted.filter _
    refine List.Perm.eq_of_pairwise (fun _ _ _ _ => isOrder_nameLE.antisymm)
      (pairwise_insertAllSorted isOrder_nameLE.toIsRanking _ (List.pairwise_cons.mp hsorted).2)
      ((h.sorted.sublist List.erase_sublist).filter _) ?_
    -- a name that is freed now was held back before
    have hdisjoint : List.Disjoint frontier (freedBy unused node) := fun v hv hfreed => by
      have hfree := (h.mem_frontier.mp (.tail _ hv)).2
      have hedge := (h.mem_unused node v).mp (mem_freedBy.mp hfreed).1
      exact isFree_iff.mp hfree node hedge.1 hedge.2
    have hnodup : (frontier ++ freedBy unused node).Nodup :=
      (List.nodup_cons.mp hfrontier).2.append (nodup_freedBy _ _) hdisjoint
    refine (perm_insertAllSorted _ _).trans ?_
    refine (List.perm_ext_iff_of_nodup hnodup ((h.nodup.erase _).filter _)).mpr fun v => ?_
    rw [h.mem_next, List.mem_filter]

end Draining

/-- **The frontier is worked off in the order in which free names are removed.** -/
theorem drain_eq_peel (h : Draining edges unused remaining frontier) :
    drain unused frontier = (peel edges remaining).1 := by
  induction unused, frontier using drain.induct generalizing remaining with
  | case1 unused =>
      have hnone : remaining.find? (isFree edges remaining) = none := by
        rw [← List.head?_filter, ← h.frontier_eq, List.head?_nil]
      rw [drain, peel_of_none hnone]
  | case2 unused node frontier ih =>
      rw [drain, peel_of_some h.find?_eq, ih h.next]

/-- The names that no edge enters come to the frontier first. -/
theorem draining_start (listed : List String) (edges : List (String × String)) :
    Draining edges edges (sortNames (mentionedNodes listed edges))
      (sortNames ((mentionedNodes listed edges).filter (!isEntered edges ·))) where
  nodup := (perm_sortBy _).nodup_iff.mpr (nodup_distinct _)
  sorted := pairwise_sortBy isOrder_nameLE.toIsRanking _
  mem_unused u v := by
    rw [mem_sortNames, mem_mentionedNodes]
    exact ⟨fun huv => ⟨huv, .inr ⟨_, huv, .inl rfl⟩⟩, And.left⟩
  closed u v huv _ := mem_sortNames.mpr (mem_mentionedNodes.mpr (.inr ⟨_, huv, .inr rfl⟩))
  frontier_eq := by
    refine List.Perm.eq_of_pairwise (fun _ _ _ _ => isOrder_nameLE.antisymm)
      (pairwise_sortBy isOrder_nameLE.toIsRanking _) ((pairwise_sortBy isOrder_nameLE.toIsRanking _).filter _) ?_
    have hfree : ∀ v ∈ mentionedNodes listed edges,
        (!isEntered edges v) = isFree edges (sortNames (mentionedNodes listed edges)) v := by
      intro v _
      rw [Bool.eq_iff_iff, Bool.not_eq_true', ← Bool.not_eq_true, isEntered_iff, isFree_iff, not_exists]
      refine forall_congr' fun u => ⟨fun hno huv => absurd huv hno, fun hno huv => ?_⟩
      exact hno huv (mem_sortNames.mpr (mem_mentionedNodes.mpr (.inr ⟨_, huv, .inl rfl⟩)))
    rw [List.filter_congr hfree]
    exact (perm_sortBy _).trans ((perm_sortBy _).filter _).symm

/-- The order in which names are given is of no account for the search. -/
theorem cycleAmong_congr {next : String → List String} {nodes nodes' : List String}
    (hperm : nodes.Perm nodes') : cycleAmong next nodes = cycleAmong next nodes' := by
  rw [cycleAmong, cycleAmong, sortNames, sortNames, sortBy_eq_of_perm isOrder_nameLE hperm]

/-- Without its frontier: the names are removed, and if some are left, a cycle is looked for among
them. -/
theorem topologicalOrder_eq (listed : List String) (edges : List (String × String)) :
    topologicalOrder listed edges =
      if (peel edges (sortNames (mentionedNodes listed edges))).2 = [] then
        .ok (peel edges (sortNames (mentionedNodes listed edges))).1
      else .error ((cycleAmong (sortedSuccessors edges)
        (peel edges (sortNames (mentionedNodes listed edges))).2).getD []) := by
  have hnodes : (mentionedNodes listed edges).Nodup := nodup_distinct _
  have hperm := (perm_peel edges (sortNames (mentionedNodes listed edges))).trans (perm_sortBy _)
  simp only [topologicalOrder, drain_eq_peel (draining_start listed edges)]
  generalize peel edges (sortNames (mentionedNodes listed edges)) = peeled at hperm ⊢
  obtain ⟨order, left⟩ := peeled
  obtain ⟨-, hleft, hdisjoint⟩ := List.nodup_append.mp (hperm.nodup_iff.mpr hnodes)
  have hlength : order.length + left.length = (mentionedNodes listed edges).length := by
    rw [← List.length_append, hperm.length_eq]
  -- the lengths are compared, which tells whether names are left
  by_cases hne : left = []
  · have hlong : ¬ order.length < (mentionedNodes listed edges).length := by
      rw [hne, List.length_nil] at hlength
      omega
    rw [if_neg hlong, if_pos hne]
  · have hshort : order.length < (mentionedNodes listed edges).length := by
      have := List.length_pos_iff.mpr hne
      omega
    have hrest : ((mentionedNodes listed edges).filter (· ∉ order)).Perm left := by
      refine (List.perm_ext_iff_of_nodup (hnodes.filter _) hleft).mpr fun v => ?_
      rw [List.mem_filter, ← hperm.mem_iff, List.mem_append, decide_eq_true_iff]
      exact ⟨fun ⟨hv, hnot⟩ => hv.resolve_left hnot,
        fun hv => ⟨.inr hv, fun hmem => hdisjoint v hmem v hv rfl⟩⟩
    rw [if_pos hshort, if_neg hne, cycleAmong_congr hrest]

/-- An order is found if all names can be removed. -/
theorem peel_of_topologicalOrder_ok (h : topologicalOrder listed edges = .ok order) :
    peel edges (sortNames (mentionedNodes listed edges)) = (order, []) := by
  rw [topologicalOrder_eq] at h
  split at h
  · rename_i hleft
    exact Prod.ext (Except.ok.inj h) hleft
  · cases h

/-- No edge leads to an earlier name of an order. -/
theorem pairwise_of_topologicalOrder_ok (h : topologicalOrder listed edges = .ok order) :
    order.Pairwise fun a b => (b, a) ∉ edges := by
  have hpair := (pairwise_peel edges (sortNames (mentionedNodes listed edges))).1
  rwa [peel_of_topologicalOrder_ok h] at hpair

/-- An order of names respects edges if every name of the edges stands in it, each once, and every
edge leads to a later name. -/
theorem topologicalOrder_ok (h : topologicalOrder listed edges = .ok order) :
    order.Perm (mentionedNodes listed edges) ∧ Acyclic edges := by
  have hperm := perm_peel edges (sortNames (mentionedNodes listed edges))
  have hself := (pairwise_peel edges (sortNames (mentionedNodes listed edges))).2
  rw [peel_of_topologicalOrder_ok h] at hperm hself
  rw [List.append_nil] at hperm
  have hnodes := hperm.trans (perm_sortBy _)
  refine ⟨hnodes, acyclic_of_pairwise (fun a b hab => ?_) (pairwise_of_topologicalOrder_ok h) hself⟩
  simp only [hnodes.mem_iff, mem_mentionedNodes]
  exact ⟨.inr ⟨_, hab, .inl rfl⟩, .inr ⟨_, hab, .inr rfl⟩⟩

theorem nodup_of_topologicalOrder_ok (h : topologicalOrder listed edges = .ok order) :
    order.Nodup :=
  (topologicalOrder_ok h).1.nodup_iff.mpr (nodup_distinct _)

theorem mem_of_topologicalOrder_ok (h : topologicalOrder listed edges = .ok order) {a : String} :
    a ∈ order ↔ a ∈ listed ∨ ∃ edge ∈ edges, a = edge.1 ∨ a = edge.2 := by
  rw [(topologicalOrder_ok h).1.mem_iff, mem_mentionedNodes]

/-! ## Names that are left over -/

/-- A name that is left over is entered by an edge from a name that is left over. -/
theorem exists_source_of_mem_left {remaining : List String} {a : String}
    (h : a ∈ (peel edges remaining).2) : ∃ b ∈ (peel edges remaining).2, (b, a) ∈ edges := by
  induction remaining using peel.induct edges with
  | case1 remaining hnone =>
      rw [peel_of_none hnone] at h ⊢
      have hbusy : ¬ isFree edges remaining a = true := List.find?_eq_none.mp hnone a h
      rw [isFree_iff] at hbusy
      push Not at hbusy
      obtain ⟨b, hedge, hb⟩ := hbusy
      exact ⟨b, hb, hedge⟩
  | case2 remaining node hfind _ _ _ ih =>
      rw [peel_of_some hfind] at h ⊢
      exact ih h

/-- Among names that are all entered from one another a cycle is found. -/
theorem exists_cycleAmong (hne : left ≠ []) (hsource : ∀ a ∈ left, ∃ b ∈ left, (b, a) ∈ edges) :
    ∃ cycle, cycleAmong (sortedSuccessors edges) left = some cycle := by
  refine Option.ne_none_iff_exists'.mp fun hnone => ?_
  obtain ⟨all, hall, hperm⟩ := exists_finishing_of_findCycle hnone
  have hmem : ∀ a, a ∈ all ↔ a ∈ left := fun a => by simp [hperm.mem_iff]
  cases all with
  | nil =>
      obtain ⟨a, ha⟩ := List.exists_mem_of_ne_nil left hne
      exact List.not_mem_nil ((hmem a).mpr ha)
  | cons last earlier =>
      have hlast : last ∈ left := (hmem last).mp List.mem_cons_self
      obtain ⟨b, hb, hedge⟩ := hsource last hlast
      refine hall.not_mem_next (hperm.nodup_iff.mpr (nodup_distinct _)) ?_ ((hmem b).mpr hb)
        (mem_sortedSuccessors.mpr hedge)
      exact hperm.mem_iff.mp List.mem_cons_self

/-- Without an order the answer is a cycle of names that meets none of them twice. -/
theorem isSimpleCycle_of_topologicalOrder_error (h : topologicalOrder listed edges = .error cycle) :
    IsSimpleCycle (sortedSuccessors edges) (mentionedNodes listed edges) cycle := by
  rw [topologicalOrder_eq] at h
  split at h
  · cases h
  · rename_i hne
    obtain ⟨found, hfound⟩ := exists_cycleAmong hne fun _ => exists_source_of_mem_left
    obtain rfl : found = cycle := by simpa [hfound] using h
    have hcycle := isSimpleCycle_of_findCycle hfound
    refine { hcycle with subset := fun a ha => ?_ }
    have hleft := mem_sortNames.mp (hcycle.subset ha)
    exact mem_sortNames.mp ((perm_peel edges _).mem_iff.mp (List.mem_append_right _ hleft))

theorem isClosedWalk_of_topologicalOrder_error (h : topologicalOrder listed edges = .error cycle) :
    IsClosedWalk (sortedSuccessors edges) cycle :=
  (isSimpleCycle_of_topologicalOrder_error h).isClosedWalk

/-- **Without an order there is a cycle**, and the answer is one: it starts with an edge from the end
of which a path leads back. -/
theorem topologicalOrder_error (h : topologicalOrder listed edges = .error cycle) :
    ∃ a b rest, cycle = a :: b :: rest ∧ (a, b) ∈ edges ∧ (b = a ∨ Leads edges b a) := by
  obtain ⟨a, b, rest, rfl, hab, hback⟩ := (isClosedWalk_of_topologicalOrder_error h).exists_first
  refine ⟨a, b, rest, rfl, mem_sortedSuccessors.mp hab, hback.imp_right fun hback => ?_⟩
  exact Relation.TransGen.mono (fun _ _ => mem_sortedSuccessors.mp) _ _ hback

/-- An acyclic graph has an order. -/
theorem exists_topologicalOrder (listed : List String) (h : Acyclic edges) :
    ∃ order, topologicalOrder listed edges = .ok order := by
  cases horder : topologicalOrder listed edges with
  | ok order => exact ⟨order, rfl⟩
  | error cycle =>
      obtain ⟨a, b, -, -, hab, rfl | hba⟩ := topologicalOrder_error horder
      · exact absurd (.single hab) (h b)
      · exact absurd (.head hab hba) (h a)

/-- A graph that is not acyclic has none. -/
theorem exists_topologicalOrder_error (listed : List String) (h : ¬ Acyclic edges) :
    ∃ cycle, topologicalOrder listed edges = .error cycle := by
  cases horder : topologicalOrder listed edges with
  | ok order => exact absurd (topologicalOrder_ok horder).2 h
  | error cycle => exact ⟨cycle, rfl⟩

end ActivityMatrix.Digraph
