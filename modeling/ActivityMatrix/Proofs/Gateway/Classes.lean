import ActivityMatrix.Proofs.Gateway.Components
import Mathlib.Logic.Relation

/-!
# Components are classes

Chains of links connect members of a list (`Connected`). Where links go both ways, that is an equivalence,
and the components that a search gathers are its classes, each in the order of the list, the classes by
their first members (`IsClasses`). There is only one such arrangement (`IsClasses.eq`), so nothing else
would be the components (`isClasses_iff_eq_components`).

A search takes up only what a chain leads to from its start (`connected_of_mem_gather`), and no chain leads
out of what it has taken up (`mem_gather_of_connected`). So no chain among the nodes it leaves runs through
one that it has taken, and what is left can be searched as a list of its own (`connected_left_iff`).
-/

namespace ActivityMatrix

/-! ## Classes of the members of a list -/

/-- Lists are the classes of the members of a list under a relation, arranged as the list is. -/
structure IsClasses {α : Type} (related : α → α → Prop) (nodes : List α) (classes : List (List α)) :
    Prop where
  /-- Every member is in a class. -/
  covers : ∀ a ∈ nodes, ∃ members ∈ classes, a ∈ members
  /-- Along with a member, a class holds exactly the members that it is related to. -/
  mem_iff : ∀ members ∈ classes, ∀ a ∈ members, ∀ b, b ∈ members ↔ b ∈ nodes ∧ related a b
  /-- A class is in the order of the list. -/
  sublist : ∀ members ∈ classes, members.Sublist nodes
  /-- Every class has a first member, and these are in the order of the list, too. -/
  firsts : ∃ heads : List α, classes.map List.head? = heads.map some ∧ heads.Sublist nodes

namespace IsClasses

variable {α : Type} {related : α → α → Prop} {nodes members heads : List α}
  {classes others : List (List α)} {a : α}

theorem mem_heads_iff (hheads : classes.map List.head? = heads.map some) :
    a ∈ heads ↔ ∃ members ∈ classes, members.head? = some a := by
  rw [← List.mem_map, hheads]
  simp

/-- A class is determined by its first member. -/
theorem eq_filter (h : IsClasses related nodes classes) (hnodup : nodes.Nodup)
    (hmembers : members ∈ classes) (ha : a ∈ members) [DecidablePred (related a)] :
    members = nodes.filter (related a ·) := by
  classical
  refine eq_of_sublist_of_mem_iff hnodup (h.sublist members hmembers) List.filter_sublist fun b => ?_
  rw [h.mem_iff members hmembers a ha b, List.mem_filter, decide_eq_true_iff]

/-- First members of classes are first in any classes of the same relation. -/
theorem heads_subset (h : IsClasses related nodes classes) (h' : IsClasses related nodes others)
    (hnodup : nodes.Nodup) (hmembers : members ∈ classes) (ha : members.head? = some a) :
    ∃ members ∈ others, members.head? = some a := by
  classical
  have hmem := List.mem_of_head? ha
  obtain ⟨members', hmembers', hmem'⟩ := h'.covers a ((h.sublist members hmembers).subset hmem)
  refine ⟨members', hmembers', ?_⟩
  rwa [h'.eq_filter hnodup hmembers' hmem', ← h.eq_filter hnodup hmembers hmem]

theorem eq_map_heads (h : IsClasses related nodes classes) (hnodup : nodes.Nodup)
    (hheads : classes.map List.head? = heads.map some) [∀ a, DecidablePred (related a)] :
    classes = heads.map fun a => nodes.filter (related a ·) := by
  let classOf (a : α) : List α := nodes.filter (related a ·)
  have hall : ∀ members ∈ classes, some members = members.head?.map classOf := by
    intro members hmembers
    obtain ⟨a, -, ha⟩ : ∃ a ∈ heads, some a = members.head? :=
      List.mem_map.mp (hheads ▸ List.mem_map_of_mem hmembers)
    rw [← ha, Option.map_some, h.eq_filter hnodup hmembers (List.mem_of_head? ha.symm)]
  refine List.map_injective_iff.mpr (fun _ _ => Option.some.inj) ?_
  calc classes.map some
      _ = classes.map fun members => members.head?.map classOf := List.map_congr_left hall
      _ = (classes.map List.head?).map (Option.map classOf) := by rw [List.map_map]; rfl
      _ = (heads.map some).map (Option.map classOf) := by rw [hheads]
      _ = (heads.map classOf).map some := by rw [List.map_map, List.map_map]; rfl

/-- The classes of a relation are arranged in one way only. -/
theorem eq (h : IsClasses related nodes classes) (h' : IsClasses related nodes others)
    (hnodup : nodes.Nodup) : classes = others := by
  classical
  obtain ⟨heads, hheads, hsub⟩ := h.firsts
  obtain ⟨heads', hheads', hsub'⟩ := h'.firsts
  have hsame : heads = heads' := by
    refine eq_of_sublist_of_mem_iff hnodup hsub hsub' fun a => ?_
    rw [mem_heads_iff hheads, mem_heads_iff hheads']
    constructor
    · rintro ⟨members, hmembers, ha⟩
      exact h.heads_subset h' hnodup hmembers ha
    · rintro ⟨members, hmembers, ha⟩
      exact h'.heads_subset h hnodup hmembers ha
  rw [h.eq_map_heads hnodup hheads, h'.eq_map_heads hnodup hheads', hsame]

end IsClasses

namespace Grouping

variable {α : Type} {linked : α → α → Bool} {frontier nodes more remaining rest : List α} {node a b : α}

/-! ## Chains of links -/

/-- Two members of a list are linked. -/
def LinkedAmong (linked : α → α → Bool) (nodes : List α) (a b : α) : Prop :=
  a ∈ nodes ∧ b ∈ nodes ∧ linked a b = true

/-- A chain of links among the members of a list leads from a node to a node. -/
def Connected (linked : α → α → Bool) (nodes : List α) : α → α → Prop :=
  Relation.ReflTransGen (LinkedAmong linked nodes)

theorem Connected.mono (hsub : nodes ⊆ more) (h : Connected linked nodes a b) :
    Connected linked more a b :=
  Relation.ReflTransGen.mono (fun _ _ hab => ⟨hsub hab.1, hsub hab.2.1, hab.2.2⟩) a b h

/-- Where links go both ways, so do chains. -/
theorem equivalence_connected (hsymm : ∀ a b, linked a b = linked b a) (nodes : List α) :
    Equivalence (Connected linked nodes) := by
  have hlink : Std.Symm (LinkedAmong linked nodes) :=
    ⟨fun a b hab => ⟨hab.2.1, hab.1, hsymm b a ▸ hab.2.2⟩⟩
  exact ⟨fun _ => Relation.ReflTransGen.refl, fun h => Relation.ReflTransGen.stdSymm.symm _ _ h,
    Relation.ReflTransGen.trans⟩

/-! ## One search -/

/-- What is gathered is connected with the frontier. -/
theorem connected_of_mem_gather (ha : a ∈ (gather linked frontier remaining).1) :
    ∃ b ∈ frontier, Connected linked (frontier ++ remaining) b a := by
  induction frontier, remaining using gather.induct linked with
  | case1 remaining => simp [gather] at ha
  | case2 remaining node others _ _ _ ih =>
      rw [gather] at ha
      simp only [List.partition_eq_filter_filter] at ih ha
      rcases List.mem_cons.mp ha with rfl | ha
      · exact ⟨a, .head _, Relation.ReflTransGen.refl⟩
      · obtain ⟨b, hb, hba⟩ := ih ha
        have hchain : Connected linked (node :: others ++ remaining) b a := hba.mono fun c => by
          simp only [List.mem_append, List.mem_filter, List.mem_cons]
          tauto
        rcases List.mem_append.mp hb with hb | hb
        · -- the node was linked with what the search went on from
          obtain ⟨hmem, hlinked⟩ := List.mem_filter.mp hb
          exact ⟨node, .head _, .head ⟨by simp, by simp [hmem], hlinked⟩ hchain⟩
        · exact ⟨b, .tail _ hb, hchain⟩

theorem mem_gather_or {c : α} : c ∈ node :: rest ↔
    c ∈ (gather linked [node] rest).1 ∨ c ∈ (gather linked [node] rest).2 :=
  ((perm_gather [node] rest).mem_iff.symm).trans List.mem_append

/-- No chain leads out of what was gathered. -/
theorem mem_gather_of_connected (ha : a ∈ (gather linked [node] rest).1)
    (hab : Connected linked (node :: rest) a b) : b ∈ (gather linked [node] rest).1 := by
  induction hab with
  | refl => exact ha
  | tail _ hlast ih =>
      refine (mem_gather_or.mp hlast.2.1).resolve_right fun hleft => ?_
      have hlinked := hlast.2.2
      rw [not_linked_of_gather ih hleft] at hlinked
      exact Bool.noConfusion hlinked

/-- Where links go both ways, chains from what is left run through what is left only. -/
theorem connected_left_iff (hsymm : ∀ a b, linked a b = linked b a)
    (ha : a ∈ (gather linked [node] rest).2) :
    b ∈ (gather linked [node] rest).2 ∧ Connected linked (gather linked [node] rest).2 a b ↔
      b ∈ node :: rest ∧ Connected linked (node :: rest) a b := by
  constructor
  · rintro ⟨hb, hab⟩
    exact ⟨mem_gather_or.mpr (.inr hb), hab.mono fun _ hc => mem_gather_or.mpr (.inr hc)⟩
  · rintro ⟨-, hab⟩
    induction hab with
    | refl => exact ⟨ha, Relation.ReflTransGen.refl⟩
    | @tail c d _ hlast ih =>
        obtain ⟨hc, hchain⟩ := ih
        have hd : d ∈ (gather linked [node] rest).2 := by
          refine (mem_gather_or.mp hlast.2.1).resolve_left fun hgathered => ?_
          have hlinked := hlast.2.2
          rw [hsymm, not_linked_of_gather hgathered hc] at hlinked
          exact Bool.noConfusion hlinked
        exact ⟨hd, hchain.tail ⟨hc, hd, hlast.2.2⟩⟩

/-! ## All components -/

variable [DecidableEq α]

/-- The first component is the part of the list that was gathered, with the node it starts from in front. -/
theorem sortBy_gather_eq (linked : α → α → Bool) (hnodup : nodes.Nodup) (hpart : (node :: rest).Sublist nodes) :
    ∃ others, others.Sublist rest ∧
      sortBy (fun a b => decide (position a nodes ≤ position b nodes)) (gather linked [node] rest).1 =
        node :: others := by
  have hnode : node ∈ (gather linked [node] rest).1 := mem_of_mem_frontier (.head _)
  refine ⟨rest.filter (· ∈ (gather linked [node] rest).1), List.filter_sublist, ?_⟩
  have hmembers : ((gather linked [node] rest).1 ++ (gather linked [node] rest).2).Nodup :=
    (perm_gather [node] rest).nodup_iff.mpr (hpart.nodup hnodup)
  have hfilter : node :: rest.filter (· ∈ (gather linked [node] rest).1) =
      (node :: rest).filter (· ∈ (gather linked [node] rest).1) := by
    rw [List.filter_cons_of_pos (by simpa using hnode)]
  rw [hfilter]
  refine sortBy_position_eq hnodup (List.nodup_append.mp hmembers).1
    (List.filter_sublist.trans hpart) fun a => ?_
  rw [List.mem_filter, decide_eq_true_iff]
  exact ⟨fun ha => ⟨mem_gather_or.mpr (.inl ha), ha⟩, And.right⟩

theorem isClasses_componentsIn (hsymm : ∀ a b, linked a b = linked b a) (hnodup : nodes.Nodup)
    (hpart : remaining.Sublist nodes) :
    IsClasses (Connected linked remaining) remaining (componentsIn linked nodes remaining) := by
  induction remaining using componentsIn.induct linked with
  | case1 =>
      rw [componentsIn]
      have hnone : ∀ {β : Type} {x : β}, x ∉ ([] : List β) := List.not_mem_nil
      exact ⟨fun _ ha => absurd ha hnone, fun _ hmembers => absurd hmembers hnone,
        fun _ hmembers => absurd hmembers hnone, [], rfl, .slnil⟩
  | case2 node rest gathered ih =>
      have hleft : gathered.2.Sublist rest := sublist_gather [node] rest
      have hrest := ih (hleft.trans ((List.sublist_cons_self node rest).trans hpart))
      obtain ⟨others, hothers, hfirst⟩ := sortBy_gather_eq linked hnodup hpart
      have hmem : ∀ {a}, a ∈ node :: others ↔ a ∈ gathered.1 := fun {a} => by
        rw [← hfirst]
        exact mem_sortBy
      have hconnected := equivalence_connected hsymm (node :: rest)
      -- everything that was gathered is connected with the node that the search starts from
      have hstart : ∀ {a}, a ∈ gathered.1 → Connected linked (node :: rest) node a := by
        intro a ha
        obtain ⟨b, hb, hba⟩ := connected_of_mem_gather ha
        rwa [List.mem_singleton.mp hb] at hba
      rw [componentsIn]
      change IsClasses _ _ (sortBy _ gathered.1 :: componentsIn linked nodes gathered.2)
      rw [hfirst]
      refine ⟨fun a ha => ?_, fun members hmembers a ha b => ?_, fun members hmembers => ?_, ?_⟩
      · rcases mem_gather_or.mp ha with ha | ha
        · exact ⟨_, .head _, hmem.mpr ha⟩
        · obtain ⟨members, hmembers, ha⟩ := hrest.covers a ha
          exact ⟨members, .tail _ hmembers, ha⟩
      · rcases List.mem_cons.mp hmembers with rfl | hmembers
        · rw [hmem] at ha ⊢
          constructor
          · intro hb
            exact ⟨mem_gather_or.mpr (.inl hb), hconnected.trans (hconnected.symm (hstart ha)) (hstart hb)⟩
          · exact fun hb => mem_gather_of_connected ha hb.2
        · rw [hrest.mem_iff members hmembers a ha]
          exact connected_left_iff hsymm ((hrest.sublist members hmembers).subset ha)
      · rcases List.mem_cons.mp hmembers with rfl | hmembers
        · exact hothers.cons_cons node
        · exact (hrest.sublist members hmembers).trans (hleft.trans (List.sublist_cons_self node rest))
      · obtain ⟨heads, hheads, hsub⟩ := hrest.firsts
        exact ⟨node :: heads, by simp [hheads], (hsub.trans hleft).cons_cons node⟩

/-- **Components are the classes of connected nodes.** Of a list without repetition and links that go both
ways, connection by chains of links among its members is an equivalence, and the components are its
classes: each in the order of the list, and the classes by their first members. No other lists are. -/
theorem isClasses_iff_eq_components (hsymm : ∀ a b, linked a b = linked b a) (hnodup : nodes.Nodup) :
    Equivalence (Connected linked nodes) ∧
      ∀ classes, IsClasses (Connected linked nodes) nodes classes ↔ classes = components linked nodes := by
  have hclasses := isClasses_componentsIn hsymm hnodup (List.Sublist.refl nodes)
  refine ⟨equivalence_connected hsymm nodes, fun classes => ⟨fun h => h.eq hclasses hnodup, ?_⟩⟩
  rintro rfl
  exact hclasses

/-- Two chains that run across each other, and a node without links. -/
def crossedLinks (a b : String) : Bool :=
  [("a", "e"), ("e", "c"), ("d", "b")].any fun link =>
    (a == link.1 && b == link.2) || (a == link.2 && b == link.1)

theorem isClasses_crossedLinks :
    (∀ a b, crossedLinks a b = crossedLinks b a) ∧ ["a", "b", "c", "d", "e", "f"].Nodup ∧
      IsClasses (Connected crossedLinks ["a", "b", "c", "d", "e", "f"]) ["a", "b", "c", "d", "e", "f"]
        [["a", "c", "e"], ["b", "d"], ["f"]] := by
  have hsymm : ∀ a b, crossedLinks a b = crossedLinks b a := by
    intro a b
    simp only [crossedLinks, Bool.and_comm, Bool.or_comm]
  have hnodup : ["a", "b", "c", "d", "e", "f"].Nodup := by decide
  exact ⟨hsymm, hnodup, ((isClasses_iff_eq_components hsymm hnodup).2 _).mpr (by decide +kernel)⟩

end Grouping

end ActivityMatrix
