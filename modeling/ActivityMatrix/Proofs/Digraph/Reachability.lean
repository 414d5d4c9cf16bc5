import ActivityMatrix.Digraph.Reachability
import Mathlib.Data.Finset.Card
import Mathlib.Logic.Relation

/-!
# Paths along edges

The search `explore` against the paths of a directed graph. `Leads edges a b` says that a path of at
least one edge leads from `a` to `b`, and `Acyclic edges` that no path leads from a node back to it.

* `mem_reachable`, `canReach_iff`: the search finds exactly the nodes that a path leads to, on every
  graph, the node it starts from left out. What it has seen is closed under the edges that it was
  given, and everything it meets lies on a path from the frontier.
* `leads_append_singleton`: a path along one edge more either does without it or runs through it.
* `Acyclic.wellFounded`: along the edges of an acyclic graph one can argue by induction, since the
  nodes before a node are fewer than those before its successors.
-/

namespace ActivityMatrix.Digraph

variable {α : Type} {edges more : List (α × α)} {a b c : α}

/-- The edges as a relation. -/
def Edge (edges : List (α × α)) (a b : α) : Prop :=
  (a, b) ∈ edges

/-- A path of at least one edge leads from a node to a node. -/
def Leads (edges : List (α × α)) : α → α → Prop :=
  Relation.TransGen (Edge edges)

/-- No path leads from a node back to it. -/
def Acyclic (edges : List (α × α)) : Prop :=
  ∀ a, ¬ Leads edges a a

/-! ## Paths -/

theorem Leads.single (h : (a, b) ∈ edges) : Leads edges a b :=
  Relation.TransGen.single h

theorem Leads.trans (hab : Leads edges a b) (hbc : Leads edges b c) : Leads edges a c :=
  Relation.TransGen.trans hab hbc

theorem Leads.head (hab : (a, b) ∈ edges) (hbc : Leads edges b c) : Leads edges a c :=
  Relation.TransGen.head hab hbc

theorem Leads.tail (hab : Leads edges a b) (hbc : (b, c) ∈ edges) : Leads edges a c :=
  Relation.TransGen.tail hab hbc

/-- A path ends with an edge. -/
theorem Leads.exists_last (h : Leads edges a c) :
    ∃ b, (b = a ∨ Leads edges a b) ∧ (b, c) ∈ edges := by
  cases h with
  | single h => exact ⟨a, .inl rfl, h⟩
  | tail h hlast => exact ⟨_, .inr h, hlast⟩

/-- A path starts with an edge. -/
theorem Leads.exists_first (h : Leads edges a c) :
    ∃ b, (a, b) ∈ edges ∧ (b = c ∨ Leads edges b c) := by
  induction h with
  | single h => exact ⟨_, h, .inl rfl⟩
  | tail _ hlast ih =>
      obtain ⟨b, hfirst, hrest⟩ := ih
      refine ⟨b, hfirst, .inr ?_⟩
      rcases hrest with rfl | hrest
      · exact .single hlast
      · exact hrest.tail hlast

/-- If every edge is a path of the second graph, so is every path. -/
theorem Leads.lift (h : ∀ a b, (a, b) ∈ edges → Leads more a b) (hab : Leads edges a b) :
    Leads more a b := by
  induction hab with
  | single hab => exact h _ _ hab
  | tail _ hlast ih => exact ih.trans (h _ _ hlast)

theorem Leads.mono (hsub : edges ⊆ more) (h : Leads edges a b) : Leads more a b :=
  h.lift fun _ _ he => .single (hsub he)

theorem leads_or_eq_trans (hab : b = a ∨ Leads edges a b) (hbc : Leads edges b c) :
    Leads edges a c := by
  rcases hab with rfl | hab
  · exact hbc
  · exact hab.trans hbc

theorem mem_converse : (a, b) ∈ converse edges ↔ (b, a) ∈ edges := by
  simp [converse]

theorem nodup_converse (h : edges.Nodup) : (converse edges).Nodup :=
  h.map Prod.swap_injective

/-- Paths along turned edges are the turned paths. -/
theorem leads_converse : Leads (converse edges) a b ↔ Leads edges b a := by
  have hswap : ∀ {a b}, Leads (converse edges) a b → Leads edges b a := by
    intro a b h
    induction h with
    | single h => exact .single (mem_converse.mp h)
    | tail _ hlast ih => exact .head (mem_converse.mp hlast) ih
  refine ⟨hswap, fun h => ?_⟩
  induction h with
  | single h => exact .single (mem_converse.mpr h)
  | tail _ hlast ih => exact .head (mem_converse.mpr hlast) ih

/-- What holds at the end of a path and is handed on against the edges holds at its start. -/
theorem Leads.mem_of_closed {p : α → Prop} (hclosed : ∀ a b, (a, b) ∈ edges → p b → p a)
    (h : Leads edges a b) (hb : p b) : p a := by
  induction h with
  | single h => exact hclosed _ _ h hb
  | tail _ hlast ih => exact ih (hclosed _ _ hlast hb)

/-- A path along one edge more either does without that edge or runs through it. -/
theorem leads_append_singleton {s t : α} (h : Leads (edges ++ [(s, t)]) a b) :
    Leads edges a b ∨ (s = a ∨ Leads edges a s) ∧ (b = t ∨ Leads edges t b) := by
  -- once a path has run through the new edge, it is the rest from its target that grows
  induction h with
  | single h =>
      rcases List.mem_append.mp h with h | h
      · exact .inl (.single h)
      · simp only [List.mem_singleton, Prod.mk.injEq] at h
        exact .inr ⟨.inl h.1.symm, .inl h.2⟩
  | tail _ hlast ih =>
      rcases List.mem_append.mp hlast with hold | hnew
      · rcases ih with ih | ⟨hs, ht⟩
        · exact .inl (ih.tail hold)
        · refine .inr ⟨hs, .inr ?_⟩
          rcases ht with rfl | ht
          · exact .single hold
          · exact ht.tail hold
      · simp only [List.mem_singleton, Prod.mk.injEq] at hnew
        obtain ⟨rfl, rfl⟩ := hnew
        rcases ih with ih | ⟨hs, -⟩
        · exact .inr ⟨.inr ih, .inl rfl⟩
        · exact .inr ⟨hs, .inl rfl⟩

/-! ## Acyclic graphs -/

theorem Acyclic.ne (h : Acyclic edges) (hab : Leads edges a b) : a ≠ b := by
  rintro rfl
  exact h _ hab

theorem Acyclic.asymm (h : Acyclic edges) (hab : Leads edges a b) : ¬ Leads edges b a :=
  fun hba => h a (hab.trans hba)

theorem Acyclic.mono (h : Acyclic more) (hsub : edges ⊆ more) : Acyclic edges :=
  fun a ha => h a (ha.mono hsub)

theorem acyclic_nil : Acyclic ([] : List (α × α)) := by
  intro a ha
  obtain ⟨b, hb, -⟩ := ha.exists_first
  exact List.not_mem_nil hb

/-- An edge whose target does not lead to its source closes no cycle. -/
theorem Acyclic.append_singleton (h : Acyclic edges) {s t : α} (hne : s ≠ t)
    (hback : ¬ Leads edges t s) : Acyclic (edges ++ [(s, t)]) := by
  intro a ha
  rcases leads_append_singleton ha with ha | ⟨hs, ht⟩
  · exact h a ha
  · rcases ht with rfl | ht
    · rcases hs with rfl | hs
      · exact hne rfl
      · exact hback hs
    · rcases hs with rfl | hs
      · exact hback ht
      · exact hback (ht.trans hs)

/-- Along the edges of an acyclic graph one can argue by induction. -/
theorem Acyclic.wellFounded (h : Acyclic edges) : WellFounded (Edge edges) := by
  classical
  -- the nodes that lead to a node are fewer than those that lead to its successors
  let before (b : α) : Finset α := (edges.map Prod.fst).toFinset.filter (Leads edges · b)
  refine Subrelation.wf (r := InvImage (· < ·) fun b => (before b).card) ?_
    (InvImage.wf _ Nat.lt_wfRel.wf)
  intro a b hab
  refine Finset.card_lt_card (Finset.ssubset_iff_of_subset ?_ |>.mpr ⟨a, ?_, ?_⟩)
  · intro c hc
    obtain ⟨hmem, hca⟩ := Finset.mem_filter.mp hc
    exact Finset.mem_filter.mpr ⟨hmem, hca.tail hab⟩
  · exact Finset.mem_filter.mpr ⟨by simpa using ⟨b, hab⟩, .single hab⟩
  · intro ha
    exact h a (Finset.mem_filter.mp ha).2

/-- The same induction from the successors of a node to the node. -/
theorem Acyclic.wellFounded_swap (h : Acyclic edges) :
    WellFounded fun a b => Edge edges b a := by
  have hswap : Acyclic (converse edges) := by
    intro a ha
    exact h a (leads_converse.mp ha)
  exact Subrelation.wf (fun hab => mem_converse.mpr hab) hswap.wellFounded

/-! ## Neighbours -/

variable [DecidableEq α]

@[simp] theorem mem_successors : b ∈ successors edges a ↔ (a, b) ∈ edges := by
  simp [successors]

@[simp] theorem mem_predecessors : a ∈ predecessors edges b ↔ (a, b) ∈ edges := by
  simp [predecessors]

theorem nodup_successors (h : edges.Nodup) (a : α) : (successors edges a).Nodup := by
  refine List.Nodup.map_on ?_ (h.filter _)
  rintro ⟨s, t⟩ hs ⟨s', t'⟩ hs' htarget
  simp only [List.mem_filter, decide_eq_true_eq] at hs hs'
  exact Prod.ext (hs.2.trans hs'.2.symm) htarget

theorem nodup_predecessors (h : edges.Nodup) (b : α) : (predecessors edges b).Nodup := by
  refine List.Nodup.map_on ?_ (h.filter _)
  rintro ⟨s, t⟩ hs ⟨s', t'⟩ hs' hsource
  simp only [List.mem_filter, decide_eq_true_eq] at hs hs'
  exact Prod.ext hsource (hs.2.trans hs'.2.symm)

theorem predecessors_eq_successors_converse (edges : List (α × α)) (b : α) :
    predecessors edges b = successors (converse edges) b := by
  simp [predecessors, successors, converse, List.filter_map, Function.comp_def]

theorem successors_append_singleton (edges : List (α × α)) (s t a : α) :
    successors (edges ++ [(s, t)]) a = successors edges a ++ if s = a then [t] else [] := by
  rw [successors, List.filter_append, List.map_append]
  by_cases h : s = a <;> simp [h, successors]

theorem predecessors_append_singleton (edges : List (α × α)) (s t b : α) :
    predecessors (edges ++ [(s, t)]) b = predecessors edges b ++ if t = b then [s] else [] := by
  rw [predecessors, List.filter_append, List.map_append]
  by_cases h : t = b <;> simp [h, predecessors]

/-- Without an edge its source has one successor less, and the other nodes have the same ones. -/
theorem successors_filter_ne (h : edges.Nodup) (s t a : α) :
    successors (edges.filter (· ≠ (s, t))) a =
      if a = s then (successors edges s).erase t else successors edges a := by
  have hfilter : successors (edges.filter (· ≠ (s, t))) a =
      ((edges.filter (·.1 = a)).filter (· ≠ (s, t))).map Prod.snd := by
    rw [successors, List.filter_comm]
  have hsource : ∀ edge ∈ edges.filter (·.1 = a), edge.1 = a := fun edge hedge => by
    simpa using (List.mem_filter.mp hedge).2
  rw [hfilter]
  split_ifs with ha
  · subst ha
    rw [(nodup_successors h a).erase_eq_filter, successors, List.filter_map]
    refine congrArg _ (List.filter_congr fun edge hedge => ?_)
    rw [Bool.eq_iff_iff, decide_eq_true_iff, Function.comp_apply, bne_iff_ne]
    simp [Prod.ext_iff, hsource edge hedge]
  · rw [successors, List.filter_eq_self.mpr fun edge hedge => ?_]
    exact decide_eq_true fun heq => ha (by rw [← hsource edge hedge, heq])

theorem predecessors_filter_ne (h : edges.Nodup) (s t b : α) :
    predecessors (edges.filter (· ≠ (s, t))) b =
      if b = t then (predecessors edges t).erase s else predecessors edges b := by
  have hconverse : converse (edges.filter (· ≠ (s, t))) = (converse edges).filter (· ≠ (t, s)) := by
    rw [converse, converse, List.filter_map]
    refine congrArg _ (List.filter_congr fun edge _ => ?_)
    simp [Prod.ext_iff, Bool.or_comm]
  simp only [predecessors_eq_successors_converse, hconverse,
    successors_filter_ne (nodup_converse h)]

/-! ## The search -/

@[simp] theorem mem_notLeaving {edge : α × α} :
    edge ∈ notLeaving edges a ↔ edge ∈ edges ∧ edge.1 ≠ a := by
  simp [notLeaving]

/-- What the search meets is seen already or lies on a path from the frontier. -/
theorem exists_path_of_mem_explore (seen frontier : List α) (h : b ∈ explore edges seen frontier) :
    b ∈ seen ∨ ∃ a ∈ frontier, b = a ∨ Leads edges a b := by
  induction edges, seen, frontier using explore.induct with
  | case1 edges seen => exact .inl (by simpa [explore] using h)
  | case2 edges seen node frontier hseen ih =>
      rw [explore, if_pos hseen] at h
      rcases ih h with h | ⟨a, ha, hab⟩
      · exact .inl h
      · exact .inr ⟨a, .tail _ ha, hab⟩
  | case3 edges seen node frontier hseen ih =>
      rw [explore, if_neg hseen] at h
      have hsub : ∀ {c}, Leads (notLeaving edges node) c b → Leads edges c b :=
        Leads.mono fun _ he => (mem_notLeaving.mp he).1
      -- what was met lies behind the node, behind its successors or behind the rest
      rcases ih h with h | ⟨a, ha, hab⟩
      · rcases List.mem_cons.mp h with rfl | h
        · exact .inr ⟨b, .head _, .inl rfl⟩
        · exact .inl h
      · rcases List.mem_append.mp ha with ha | ha
        · refine .inr ⟨node, .head _, .inr ?_⟩
          rcases hab with rfl | hab
          · exact .single (mem_successors.mp ha)
          · exact .head (mem_successors.mp ha) (hsub hab)
        · exact .inr ⟨a, .tail _ ha, hab.imp id hsub⟩

/-- The search keeps what is seen and meets the frontier. -/
theorem mem_explore_of_mem (seen frontier : List α) (h : b ∈ seen ∨ b ∈ frontier) :
    b ∈ explore edges seen frontier := by
  induction edges, seen, frontier using explore.induct with
  | case1 edges seen => simpa [explore] using h
  | case2 edges seen node frontier hseen ih =>
      rw [explore, if_pos hseen]
      refine ih (h.elim .inl fun h => ?_)
      rcases List.mem_cons.mp h with rfl | h
      · exact .inl hseen
      · exact .inr h
  | case3 edges seen node frontier hseen ih =>
      rw [explore, if_neg hseen]
      refine ih (h.elim (fun h => .inl (.tail _ h)) fun h => ?_)
      rcases List.mem_cons.mp h with rfl | h
      · exact .inl (.head _)
      · exact .inr (List.mem_append_right _ h)

/-- The edges that leave a newly met node lead to nodes that are met. -/
theorem mem_explore_of_edge (seen frontier : List α) (ha : a ∈ explore edges seen frontier)
    (hab : (a, b) ∈ edges) : a ∈ seen ∨ b ∈ explore edges seen frontier := by
  induction edges, seen, frontier using explore.induct with
  | case1 edges seen => exact .inl (by simpa [explore] using ha)
  | case2 edges seen node frontier hseen ih =>
      rw [explore, if_pos hseen] at ha ⊢
      exact ih ha hab
  | case3 edges seen node frontier hseen ih =>
      rw [explore, if_neg hseen] at ha ⊢
      by_cases hnode : a = node
      · subst hnode
        refine .inr (mem_explore_of_mem _ _ (.inr ?_))
        exact List.mem_append_left _ (mem_successors.mpr hab)
      · rcases ih ha (mem_notLeaving.mpr ⟨hab, hnode⟩) with h | h
        · exact .inl ((List.mem_cons.mp h).resolve_left hnode)
        · exact .inr h

/-- The search meets no node twice. -/
theorem nodup_explore (seen frontier : List α) (h : seen.Nodup) : (explore edges seen frontier).Nodup := by
  induction edges, seen, frontier using explore.induct with
  | case1 edges seen => simpa [explore] using h
  | case2 edges seen node frontier hseen ih =>
      rw [explore, if_pos hseen]
      exact ih h
  | case3 edges seen node frontier hseen ih =>
      rw [explore, if_neg hseen]
      exact ih (List.nodup_cons.mpr ⟨hseen, h⟩)

/-- The search finds exactly the other nodes that a path leads to. -/
@[simp] theorem mem_reachable : b ∈ reachable edges a ↔ b ≠ a ∧ Leads edges a b := by
  have hmet : b ∈ explore edges [] (successors edges a) ↔ Leads edges a b := by
    constructor
    · intro h
      rcases exists_path_of_mem_explore _ _ h with h | ⟨c, hc, hcb⟩
      · exact absurd h List.not_mem_nil
      · rcases hcb with rfl | hcb
        · exact .single (mem_successors.mp hc)
        · exact .head (mem_successors.mp hc) hcb
    · intro h
      induction h with
      | single h => exact mem_explore_of_mem _ _ (.inr (mem_successors.mpr h))
      | tail _ hlast ih => exact (mem_explore_of_edge _ _ ih hlast).resolve_left List.not_mem_nil
  rw [reachable, List.mem_filter, hmet, decide_eq_true_eq, and_comm]

theorem canReach_iff : canReach edges a b = true ↔ b ≠ a ∧ Leads edges a b := by
  rw [canReach, List.contains_iff_mem, mem_reachable]

/-- On an acyclic graph the search needs no exception for its start. -/
theorem Acyclic.canReach_iff (h : Acyclic edges) : canReach edges a b = true ↔ Leads edges a b := by
  rw [Digraph.canReach_iff, and_iff_right_iff_imp]
  exact fun hab => (h.ne hab).symm

end ActivityMatrix.Digraph
