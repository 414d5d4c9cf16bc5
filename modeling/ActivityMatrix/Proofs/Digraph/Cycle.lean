import ActivityMatrix.Digraph.Order
import ActivityMatrix.Proofs.Sorting
import Mathlib.Data.List.Chain
import Mathlib.Data.List.Nodup
import Mathlib.Logic.Relation

/-!
# Cycles that the search finds

A depth-first search for a cycle is right in both directions: it answers nothing exactly if no cycle runs
through the listed nodes, and otherwise a cycle that meets no node twice (`cycleAmong_finds_cycles`).

What is known of a search on the way is `SearchState`: every listed node is finished, on the path, or not
met so far, and of a node on the path every listed successor is finished, still to be looked at, or the
next node of the path. Both directions are read off it.

* `isSimpleCycle_of_searchFrom`: the path of a search is a trail, on which every node is a successor of
  the one below it and what is still to be looked at of a node are successors of it. A successor that
  stands on the trail therefore closes a walk. Since the nodes of the path are listed ones and the list
  repeats none, the walk meets none of them twice.
* `exists_finishing_of_findCycle`: a node whose successors have all been looked at can be finished, so a
  search that answers nothing has finished all nodes, each one after its listed successors. A path from a
  finished node stays among those finished before it, and so it never returns
  (`IsFinishing.not_transGen`).
-/

namespace ActivityMatrix.Digraph

variable {α : Type} {next : α → List α}

/-! ## Closed walks -/

/-- A walk along successors that ends where it starts. -/
def IsClosedWalk (next : α → List α) (walk : List α) : Prop :=
  walk.IsChain (fun a b => b ∈ next a) ∧ ∃ node inner, walk = node :: (inner ++ [node])

/-- A walk leads from its first node to every later one. -/
theorem transGen_of_isChain {r : α → α → Prop} {a b : α} {walk : List α} (h : (a :: walk).IsChain r)
    (hb : b ∈ walk) : Relation.TransGen r a b := by
  induction walk generalizing a with
  | nil => simp at hb
  | cons c walk ih =>
      obtain ⟨hac, hrest⟩ := List.isChain_cons_cons.mp h
      rcases List.mem_cons.mp hb with rfl | hb
      · exact .single hac
      · exact .head hac (ih hrest hb)

/-- A closed walk starts with a step to a node from which it returns. -/
theorem IsClosedWalk.exists_first {walk : List α} (h : IsClosedWalk next walk) :
    ∃ a b rest, walk = a :: b :: rest ∧ b ∈ next a ∧
      (b = a ∨ Relation.TransGen (fun x y => y ∈ next x) b a) := by
  obtain ⟨hchain, a, inner, rfl⟩ := h
  cases inner with
  | nil => exact ⟨a, a, [], rfl, (List.isChain_cons_cons.mp hchain).1, .inl rfl⟩
  | cons b inner =>
      obtain ⟨hab, hrest⟩ := List.isChain_cons_cons.mp hchain
      exact ⟨a, b, inner ++ [a], rfl, hab, .inr (transGen_of_isChain hrest (by simp))⟩

/-- Every node of a path whose last node comes first is a successor of the one before it. -/
def IsTrail (next : α → List α) : List (α × List α) → Prop
  | [] => True
  | (node, others) :: rest =>
      others ⊆ next node ∧ (∀ below ∈ rest.head?, node ∈ next below.1) ∧ IsTrail next rest

/-- The nodes of a trail, the first one first, are a walk. -/
theorem IsTrail.isChain {path : List (α × List α)} (h : IsTrail next path) :
    (path.map Prod.fst).reverse.IsChain fun a b => b ∈ next a := by
  rw [List.isChain_reverse, List.isChain_map]
  induction path with
  | nil => exact .nil
  | cons top rest ih =>
      obtain ⟨node, others⟩ := top
      obtain ⟨-, hnode, hrest⟩ := h
      exact (ih hrest).cons hnode

/-- A walk along successors through listed nodes that ends where it starts and meets no other node
twice. -/
structure IsSimpleCycle (next : α → List α) (nodes cycle : List α) : Prop where
  closed : ∃ node inner, cycle = node :: (inner ++ [node]) ∧ (node :: inner).Nodup
  subset : cycle ⊆ nodes
  steps : cycle.IsChain fun a b => b ∈ next a

theorem IsSimpleCycle.isClosedWalk {nodes cycle : List α} (h : IsSimpleCycle next nodes cycle) :
    IsClosedWalk next cycle := by
  obtain ⟨node, inner, hcycle, -⟩ := h.closed
  exact ⟨h.steps, node, inner, hcycle⟩

/-- A step along a successor from a listed node to a listed node. -/
def StepAmong (next : α → List α) (nodes : List α) (a b : α) : Prop :=
  a ∈ nodes ∧ b ∈ nodes ∧ b ∈ next a

/-- The steps of a cycle of listed nodes lead from a node back to it. -/
theorem IsSimpleCycle.exists_transGen {nodes cycle : List α} (h : IsSimpleCycle next nodes cycle) :
    ∃ a, Relation.TransGen (StepAmong next nodes) a a := by
  have hsteps : cycle.IsChain (StepAmong next nodes) :=
    h.steps.imp_of_mem_imp fun a b ha hb hab => ⟨h.subset ha, h.subset hb, hab⟩
  obtain ⟨node, inner, rfl, -⟩ := h.closed
  exact ⟨node, transGen_of_isChain hsteps (by simp)⟩

section Search

variable [DecidableEq α]

/-- The path is cut off in front of the first place of a node. -/
theorem exists_closedPath_eq {node : α} {path : List (α × List α)} (h : node ∈ path.map Prod.fst) :
    ∃ before after, (path.map Prod.fst).reverse = before ++ node :: after ∧
      closedPath node path = node :: (after ++ [node]) := by
  obtain ⟨before, after, hsplit, hbefore⟩ := List.eq_append_cons_of_mem (List.mem_reverse.mpr h)
  refine ⟨before, after, hsplit, ?_⟩
  rw [closedPath, hsplit, List.dropWhile_append_of_pos (by
    intro a ha
    simpa using fun heq : a = node => hbefore (heq ▸ ha))]
  simp

/-- A successor of the last node that stands on the trail closes a walk. -/
theorem IsTrail.isChain_closedPath {node successor : α} {others : List α} {rest : List (α × List α)}
    (h : IsTrail next ((node, successor :: others) :: rest))
    (hmem : successor ∈ ((node, successor :: others) :: rest).map Prod.fst) :
    (closedPath successor ((node, successor :: others) :: rest)).IsChain fun a b => b ∈ next a := by
  have hstep : successor ∈ next node := h.1 List.mem_cons_self
  have hwalk : ((((node, successor :: others) :: rest).map Prod.fst).reverse ++ [successor]).IsChain
      fun a b => b ∈ next a := by
    refine h.isChain.append (.singleton successor) fun last hlast first hfirst => ?_
    obtain rfl : node = last := by simpa using hlast
    obtain rfl : successor = first := by simpa using hfirst
    exact hstep
  obtain ⟨before, after, hsplit, hclosed⟩ := exists_closedPath_eq hmem
  rw [hsplit, List.append_assoc] at hwalk
  rw [hclosed]
  exact hwalk.right_of_append

end Search

/-! ## Searches -/

/-- Nodes as a search finishes them, the last one first: the listed successors of a node were finished
before it. -/
def IsFinishing (next : α → List α) (listed : List α) : List α → Prop
  | [] => True
  | node :: earlier =>
      (∀ b ∈ next node, b ∈ listed → b ∈ earlier) ∧ IsFinishing next listed earlier

/-- Every listed successor of a node on the path is finished, still to be looked at, or the node above
it. -/
def IsPending (next : α → List α) (listed finished : List α) :
    Option α → List (α × List α) → Prop
  | _, [] => True
  | above, (node, others) :: below =>
      (∀ b ∈ next node, b ∈ listed → b ∈ finished ∨ b ∈ others ∨ above = some b) ∧
        IsPending next listed finished (some node) below

/-- What is known of a search: every listed node is finished, on the path, or not met so far. -/
structure SearchState (next : α → List α) (listed finished unmet : List α)
    (path : List (α × List α)) : Prop where
  trail : IsTrail next path
  finishing : IsFinishing next listed finished
  pending : IsPending next listed finished none path
  perm : (finished ++ path.map Prod.fst ++ unmet).Perm listed

variable {listed finished unmet : List α} {path rest : List (α × List α)} {node successor : α}
  {others : List α}

/-- Of a finished node, the listed successors are finished, too. -/
theorem IsFinishing.mem_of_mem {a b : α} (h : IsFinishing next listed finished)
    (ha : a ∈ finished) (hab : b ∈ next a) (hb : b ∈ listed) : b ∈ finished := by
  induction finished with
  | nil => simp at ha
  | cons node earlier ih =>
      obtain ⟨hnode, hearlier⟩ := h
      rcases List.mem_cons.mp ha with rfl | ha
      · exact .tail _ (hnode b hab hb)
      · exact .tail _ (ih hearlier ha)

/-- The node that is finished last has no listed predecessor. -/
theorem IsFinishing.not_mem_next {last a : α} {earlier : List α}
    (h : IsFinishing next listed (last :: earlier)) (hnodup : (last :: earlier).Nodup)
    (hlast : last ∈ listed) (ha : a ∈ last :: earlier) : last ∉ next a := by
  intro hstep
  refine (List.nodup_cons.mp hnodup).1 ?_
  rcases List.mem_cons.mp ha with rfl | ha
  · exact h.1 _ hstep hlast
  · exact h.2.mem_of_mem ha hstep hlast

/-- A path from a finished node stays among the finished nodes. -/
theorem IsFinishing.mem_of_transGen {a b : α} (h : IsFinishing next listed finished) (ha : a ∈ finished)
    (hab : Relation.TransGen (StepAmong next listed) a b) : b ∈ finished := by
  induction hab with
  | single hstep => exact h.mem_of_mem ha hstep.2.2 hstep.2.1
  | tail _ hstep ih => exact h.mem_of_mem ih hstep.2.2 hstep.2.1

/-- No path leads from a finished node back to it. -/
theorem IsFinishing.not_transGen {a : α} (h : IsFinishing next listed finished) (hnodup : finished.Nodup)
    (ha : a ∈ finished) : ¬ Relation.TransGen (StepAmong next listed) a a := by
  induction finished with
  | nil => exact absurd ha List.not_mem_nil
  | cons node earlier ih =>
      obtain ⟨hnode, hearlier⟩ := List.nodup_cons.mp hnodup
      rcases List.mem_cons.mp ha with rfl | ha
      · intro hcycle
        -- the first step of the path leads to a node that was finished before
        apply hnode
        obtain ⟨b, hstep, hback⟩ := Relation.TransGen.head'_iff.mp hcycle
        have hb : b ∈ earlier := h.1 b hstep.2.2 hstep.2.1
        rcases Relation.reflTransGen_iff_eq_or_transGen.mp hback with rfl | hback
        · exact hb
        · exact h.2.mem_of_transGen hb hback
      · exact ih h.2 hearlier ha

theorem IsPending.mono {above : Option α} {more : List α} (hsub : finished ⊆ more)
    (h : IsPending next listed finished above path) : IsPending next listed more above path := by
  induction path generalizing above with
  | nil => trivial
  | cons top below ih => exact ⟨fun b hb hl => (h.1 b hb hl).imp (@hsub b) id, ih h.2⟩

namespace SearchState

/-- A node of which all successors have been looked at is finished. -/
theorem finish (h : SearchState next listed finished unmet ((node, []) :: rest)) :
    SearchState next listed (node :: finished) unmet rest where
  trail := h.trail.2.2
  finishing := by
    refine ⟨fun b hb hl => ?_, h.finishing⟩
    rcases h.pending.1 b hb hl with hfinished | hothers | habove
    · exact hfinished
    · exact absurd hothers List.not_mem_nil
    · cases habove
  pending := by
    cases rest with
    | nil => trivial
    | cons top below =>
        -- the node above the next one is no longer above it, but finished
        obtain ⟨hnext, hbelow⟩ := h.pending.2
        refine ⟨fun b hb hl => ?_, hbelow.mono (List.subset_cons_self _ _)⟩
        rcases hnext b hb hl with hfinished | hothers | habove
        · exact .inl (.tail _ hfinished)
        · exact .inr (.inl hothers)
        · obtain rfl := Option.some.inj habove
          exact .inl (.head _)
  perm := by
    refine List.Perm.trans ?_ h.perm
    simp only [List.map_cons, List.append_assoc, List.cons_append]
    exact List.perm_middle.symm

/-- A successor that is finished or not listed is passed over. -/
theorem passOver (h : SearchState next listed finished unmet ((node, successor :: others) :: rest))
    (hpath : successor ∉ ((node, successor :: others) :: rest).map Prod.fst)
    (hunmet : successor ∉ unmet) :
    SearchState next listed finished unmet ((node, others) :: rest) where
  trail := ⟨(List.cons_subset.mp h.trail.1).2, h.trail.2⟩
  finishing := h.finishing
  pending := by
    obtain ⟨hnode, hrest⟩ := h.pending
    refine ⟨fun b hb hl => ?_, hrest⟩
    rcases hnode b hb hl with hfinished | hothers | habove
    · exact .inl hfinished
    · rcases List.mem_cons.mp hothers with rfl | hothers
      · have hplace := h.perm.mem_iff.mpr hl
        rw [List.mem_append, List.mem_append] at hplace
        exact .inl ((hplace.resolve_right hunmet).resolve_right hpath)
      · exact .inr (.inl hothers)
    · cases habove
  perm := h.perm

/-- The nodes of the path are listed, and none of them stands on it twice. -/
theorem nodes_path (h : SearchState next listed finished unmet path) (hnodup : listed.Nodup) :
    (path.map Prod.fst).Nodup ∧ path.map Prod.fst ⊆ listed := by
  have hall := h.perm.nodup_iff.mpr hnodup
  refine ⟨(List.nodup_append.mp (List.nodup_append.mp hall).1).2.1, fun a ha => ?_⟩
  exact h.perm.mem_iff.mp (List.mem_append_left _ (List.mem_append_right _ ha))

variable [DecidableEq α]

/-- A successor that was not met so far extends the path. -/
theorem extend (h : SearchState next listed finished unmet ((node, successor :: others) :: rest))
    (hunmet : successor ∈ unmet) :
    SearchState next listed finished (unmet.erase successor)
      ((successor, next successor) :: (node, others) :: rest) where
  trail := by
    obtain ⟨hothers, hrest⟩ := h.trail
    obtain ⟨hstep, hothers⟩ := List.cons_subset.mp hothers
    exact ⟨List.Subset.refl _, by simpa using hstep, hothers, hrest⟩
  finishing := h.finishing
  pending := by
    obtain ⟨hnode, hrest⟩ := h.pending
    refine ⟨fun b hb _ => .inr (.inl hb), fun b hb hl => ?_, hrest⟩
    rcases hnode b hb hl with hfinished | hothers | habove
    · exact .inl hfinished
    · rcases List.mem_cons.mp hothers with rfl | hothers
      · exact .inr (.inr rfl)
      · exact .inr (.inl hothers)
    · cases habove
  -- the node moves from the unmet ones to the trail
  perm := by
    have hmove : (successor :: node :: rest.map Prod.fst ++ unmet.erase successor).Perm
        (node :: rest.map Prod.fst ++ successor :: unmet.erase successor) := List.perm_middle.symm
    refine List.Perm.trans ?_ h.perm
    simp only [List.map_cons, List.append_assoc]
    refine List.Perm.append_left finished (hmove.trans ?_)
    exact (List.perm_cons_erase hunmet).symm.append_left _

/-- A search that finds nothing has finished all that it met. -/
theorem run {left : List α} (h : SearchState next listed finished unmet path)
    (hsearch : searchFrom next unmet path = .ok left) :
    left.Sublist unmet ∧ ∃ more, SearchState next listed more left [] := by
  induction unmet, path using searchFrom.induct next generalizing finished with
  | case1 unmet =>
      obtain rfl : unmet = left := by simpa [searchFrom] using hsearch
      exact ⟨List.Sublist.refl _, finished, h⟩
  | case2 unmet node rest ih =>
      rw [searchFrom] at hsearch
      exact ih h.finish hsearch
  | case3 unmet node successor others rest hmem =>
      rw [searchFrom, if_pos hmem] at hsearch
      cases hsearch
  | case4 unmet node successor others rest hunmet hmem ih =>
      rw [searchFrom, if_neg hmem, if_pos hunmet] at hsearch
      obtain ⟨hsub, hleft⟩ := ih (h.extend hunmet) hsearch
      exact ⟨hsub.trans List.erase_sublist, hleft⟩
  | case5 unmet node successor others rest hunmet hmem ih =>
      rw [searchFrom, if_neg hmem, if_neg hunmet] at hsearch
      exact ih (h.passOver hmem hunmet) hsearch

/-- A root that was not met so far starts a path. -/
theorem start {root : α} (h : SearchState next listed finished unmet []) (hroot : root ∈ unmet) :
    SearchState next listed finished (unmet.erase root) [(root, next root)] where
  trail := ⟨List.Subset.refl _, by simp, trivial⟩
  finishing := h.finishing
  pending := ⟨fun _ hb _ => .inr (.inl hb), trivial⟩
  perm := by
    refine List.Perm.trans ?_ h.perm
    simp only [List.map_cons, List.map_nil, List.append_nil, List.append_assoc,
      List.singleton_append]
    exact (List.perm_cons_erase hroot).symm.append_left finished

/-- Searches from all roots that find nothing have finished all listed nodes. -/
theorem runRoots {roots : List α} (h : SearchState next listed finished unmet [])
    (hnodup : unmet.Nodup) (hroots : unmet ⊆ roots) (hsearch : searchRoots next roots unmet = none) :
    ∃ all, IsFinishing next listed all ∧ all.Perm listed := by
  induction roots generalizing finished unmet with
  | nil =>
      obtain rfl := List.subset_nil.mp hroots
      exact ⟨finished, h.finishing, by simpa using h.perm⟩
  | cons root roots ih =>
      rw [searchRoots] at hsearch
      split at hsearch
      · rename_i hroot
        have hothers : unmet.erase root ⊆ roots := fun a ha => by
          obtain ⟨hne, hmem⟩ := hnodup.mem_erase_iff.mp ha
          exact (List.mem_cons.mp (hroots hmem)).resolve_left hne
        split at hsearch
        · cases hsearch
        · rename_i left hfrom
          obtain ⟨hsub, more, hstate⟩ := (h.start hroot).run hfrom
          exact ih hstate ((hnodup.erase root).sublist hsub) (fun a ha => hothers (hsub.subset ha)) hsearch
      · rename_i hroot
        refine ih h hnodup (fun a ha => ?_) hsearch
        exact (List.mem_cons.mp (hroots ha)).resolve_left fun heq => hroot (heq ▸ ha)

/-- A successor that stands on the path closes a cycle. -/
theorem isSimpleCycle (h : SearchState next listed finished unmet ((node, successor :: others) :: rest))
    (hnodup : listed.Nodup) (hmem : successor ∈ ((node, successor :: others) :: rest).map Prod.fst) :
    IsSimpleCycle next listed (closedPath successor ((node, successor :: others) :: rest)) := by
  obtain ⟨hpath, hlisted⟩ := h.nodes_path hnodup
  obtain ⟨before, after, hsplit, hclosed⟩ := exists_closedPath_eq hmem
  have hsub : (successor :: after).Sublist
      (((node, successor :: others) :: rest).map Prod.fst).reverse := by
    rw [hsplit]
    exact List.sublist_append_right before _
  refine ⟨⟨successor, after, hclosed, hsub.nodup (List.nodup_reverse.mpr hpath)⟩, fun a ha => ?_,
    h.trail.isChain_closedPath hmem⟩
  apply hlisted
  apply List.mem_reverse.mp
  rw [hclosed, ← List.cons_append, List.mem_append, List.mem_singleton] at ha
  rcases ha with ha | rfl
  · exact hsub.subset ha
  · exact hsub.subset List.mem_cons_self

/-- What a search finds is a cycle of listed nodes. -/
theorem isSimpleCycle_of_searchFrom {cycle : List α} (h : SearchState next listed finished unmet path)
    (hnodup : listed.Nodup) (hsearch : searchFrom next unmet path = .error cycle) :
    IsSimpleCycle next listed cycle := by
  induction unmet, path using searchFrom.induct next generalizing finished with
  | case1 unmet => simp [searchFrom] at hsearch
  | case2 unmet node rest ih =>
      rw [searchFrom] at hsearch
      exact ih h.finish hsearch
  | case3 unmet node successor others rest hmem =>
      rw [searchFrom, if_pos hmem] at hsearch
      obtain rfl := Except.error.inj hsearch
      exact h.isSimpleCycle hnodup hmem
  | case4 unmet node successor others rest hunmet hmem ih =>
      rw [searchFrom, if_neg hmem, if_pos hunmet] at hsearch
      exact ih (h.extend hunmet) hsearch
  | case5 unmet node successor others rest hunmet hmem ih =>
      rw [searchFrom, if_neg hmem, if_neg hunmet] at hsearch
      exact ih (h.passOver hmem hunmet) hsearch

theorem isSimpleCycle_of_searchRoots {roots cycle : List α}
    (h : SearchState next listed finished unmet []) (hnodup : listed.Nodup)
    (hsearch : searchRoots next roots unmet = some cycle) : IsSimpleCycle next listed cycle := by
  induction roots generalizing finished unmet with
  | nil => simp [searchRoots] at hsearch
  | cons root roots ih =>
      rw [searchRoots] at hsearch
      split at hsearch
      · rename_i hroot
        split at hsearch
        · rename_i hfrom
          obtain rfl := Option.some.inj hsearch
          exact (h.start hroot).isSimpleCycle_of_searchFrom hnodup hfrom
        · rename_i left hfrom
          obtain ⟨-, more, hstate⟩ := (h.start hroot).run hfrom
          exact ih hstate hsearch
      · exact ih h hsearch

end SearchState

/-! ## What the search answers -/

section Answers

variable [DecidableEq α] {nodes : List α}

/-- No listed node is met before the search starts. -/
theorem searchState_start (next : α → List α) (nodes : List α) :
    SearchState next (distinct nodes) [] (distinct nodes) [] :=
  ⟨trivial, trivial, trivial, List.Perm.refl _⟩

/-- What the search finds is a cycle of listed nodes. -/
theorem isSimpleCycle_of_findCycle {cycle : List α} (h : findCycle next nodes = some cycle) :
    IsSimpleCycle next nodes cycle := by
  have hcycle := (searchState_start next nodes).isSimpleCycle_of_searchRoots (nodup_distinct nodes) h
  exact { hcycle with subset := fun a ha => mem_distinct.mp (hcycle.subset ha) }

/-- A search that finds no cycle has finished all listed nodes, each one after its listed successors. -/
theorem exists_finishing_of_findCycle (h : findCycle next nodes = none) :
    ∃ all, IsFinishing next (distinct nodes) all ∧ all.Perm (distinct nodes) :=
  (searchState_start next nodes).runRoots (nodup_distinct nodes) (List.Subset.refl _) h

/-- The search finds nothing if and only if no path of listed nodes leads back to its start. -/
theorem findCycle_eq_none_iff :
    findCycle next nodes = none ↔ ∀ a, ¬ Relation.TransGen (StepAmong next nodes) a a := by
  constructor
  · intro h a hcycle
    obtain ⟨all, hall, hperm⟩ := exists_finishing_of_findCycle h
    obtain ⟨b, hstep, -⟩ := Relation.TransGen.head'_iff.mp hcycle
    have ha : a ∈ all := hperm.mem_iff.mpr (mem_distinct.mpr hstep.1)
    refine hall.not_transGen (hperm.nodup_iff.mpr (nodup_distinct nodes)) ha ?_
    refine Relation.TransGen.mono (fun x y hxy => ?_) _ _ hcycle
    exact ⟨mem_distinct.mpr hxy.1, mem_distinct.mpr hxy.2.1, hxy.2.2⟩
  · intro h
    by_contra hfound
    obtain ⟨cycle, hcycle⟩ := Option.ne_none_iff_exists'.mp hfound
    obtain ⟨a, ha⟩ := (isSimpleCycle_of_findCycle hcycle).exists_transGen
    exact h a ha

end Answers

/-- **The search decides whether there is a cycle.** Whatever names are listed, in whatever order and how
often, and whatever successors each name has, listed or not: nothing is found exactly if no path along
successors, all of its names listed, leads from a name back to it; and what is found otherwise is such a
path, which ends where it starts and meets no other name twice. -/
theorem cycleAmong_finds_cycles (next : String → List String) (nodes : List String) :
    (cycleAmong next nodes = none ↔ ∀ a, ¬ Relation.TransGen (StepAmong next nodes) a a) ∧
      ((∃ cycle, cycleAmong next nodes = some cycle ∧ IsSimpleCycle next nodes cycle) ↔
        ∃ a, Relation.TransGen (StepAmong next nodes) a a) := by
  have hlisted : ∀ a, a ∈ sortNames nodes ↔ a ∈ nodes := fun a => mem_sortNames
  have hsteps : StepAmong next (sortNames nodes) = StepAmong next nodes := by
    funext a b
    simp only [StepAmong, hlisted]
  have hnone : cycleAmong next nodes = none ↔ ∀ a, ¬ Relation.TransGen (StepAmong next nodes) a a := by
    rw [cycleAmong, findCycle_eq_none_iff, hsteps]
  refine ⟨hnone, fun ⟨cycle, _, hcycle⟩ => hcycle.exists_transGen, fun ⟨a, ha⟩ => ?_⟩
  have hfound : cycleAmong next nodes ≠ none := fun h => hnone.mp h a ha
  obtain ⟨cycle, hcycle⟩ := Option.ne_none_iff_exists'.mp hfound
  have hsimple := isSimpleCycle_of_findCycle hcycle
  exact ⟨cycle, hcycle, { hsimple with subset := fun b hb => (hlisted b).mp (hsimple.subset hb) }⟩

/-- The way through `x`, which is not listed, is not taken. -/
example : cycleAmong (fun a => (([("a", ["x", "b"]), ("x", ["a"]), ("b", ["c", "b"])] :
    List (String × List String)).lookup a).getD []) ["b", "a", "c", "a"] = some ["b", "b"] := by cbv

end ActivityMatrix.Digraph
