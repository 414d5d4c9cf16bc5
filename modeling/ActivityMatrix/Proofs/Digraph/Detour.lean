import ActivityMatrix.Proofs.Digraph.Reachability
import ActivityMatrix.Proofs.Sorting

/-!
# Detours

How paths fare when the edges of a graph are led through a new node, and when a node is taken out
again. A detour replaces all edges from some sources to some targets by edges through one node; a
bypass replaces the edges through a node by direct ones. Every path of the old graph between nodes
that stay has a counterpart in the new one (`IsDetour.leads`, `IsBypass.leads`), and a new path is an
old one unless it runs from a source to a target (`IsDetour.leads_or_crosses`,
`IsBypass.leads_of_leads`). Where no edges come together on the way to a node, none do so afterwards
(`IsDetour.unjoined`, `IsBypass.unjoined`). No node that stays gets more successors or predecessors
than it had. What holds of successors holds of predecessors, since a detour or a bypass is one along
turned edges as well.
-/

namespace ActivityMatrix.Digraph

variable {α : Type} {edges more : List (α × α)} {a b c via : α} {sources targets : List α}

/-- The first arrival at a node uses no edge of that node. -/
theorem exists_first_arrival (hmore : ∀ a b, a ≠ via → b ≠ via → (a, b) ∈ more → (a, b) ∈ edges)
    (ha : a ≠ via) (h : Leads more a via) :
    ∃ s, (s = a ∨ Leads edges a s) ∧ (s, via) ∈ more := by
  induction h using Relation.TransGen.head_induction_on with
  | single h => exact ⟨_, .inl rfl, h⟩
  | @head a c hac hrest ih =>
      by_cases hc : c = via
      · subst hc
        exact ⟨a, .inl rfl, hac⟩
      · obtain ⟨s, hcs, hs⟩ := ih hc
        refine ⟨s, .inr ?_, hs⟩
        have hedge : (a, c) ∈ edges := hmore a c ha hc hac
        rcases hcs with rfl | hcs
        · exact .single hedge
        · exact .head hedge hcs

/-! ## Leading edges through a new node -/

/-- The edges from the sources to the targets are replaced by edges from the sources to a node and
from that node to the targets. -/
def IsDetour (edges more : List (α × α)) (sources targets : List α) (via : α) : Prop :=
  ∀ a b, (a, b) ∈ more ↔ ((a, b) ∈ edges ∧ ¬ (a ∈ sources ∧ b ∈ targets)) ∨
    (a ∈ sources ∧ b = via) ∨ (a = via ∧ b ∈ targets)

namespace IsDetour

variable (h : IsDetour edges more sources targets via)
include h

theorem source_mem (ha : a ∈ sources) : (a, via) ∈ more :=
  (h a via).mpr (.inr (.inl ⟨ha, rfl⟩))

theorem target_mem (hb : b ∈ targets) : (via, b) ∈ more :=
  (h via b).mpr (.inr (.inr ⟨rfl, hb⟩))

theorem leads_across (ha : a ∈ sources) (hb : b ∈ targets) : Leads more a b :=
  .head (h.source_mem ha) (.single (h.target_mem hb))

/-- Paths stay, some of them through the new node. -/
theorem leads (hab : Leads edges a b) : Leads more a b := by
  refine hab.lift fun a b hedge => ?_
  by_cases hacross : a ∈ sources ∧ b ∈ targets
  · exact h.leads_across hacross.1 hacross.2
  · exact .single ((h a b).mpr (.inl ⟨hedge, hacross⟩))

/-- A path between nodes of the old graph was there before, or it runs from a source to a target. -/
theorem leads_or_crosses (hnew : ∀ a b, (a, b) ∈ edges → a ≠ via ∧ b ≠ via) (ha : a ≠ via)
    (hb : b ≠ via) (hab : Leads more a b) : Leads edges a b ∨ ∃ s ∈ sources, ∃ t ∈ targets,
      (s = a ∨ Leads edges a s) ∧ (b = t ∨ Leads edges t b) := by
  -- a path that ends at the new node has come to a source by old edges
  suffices hends : (b ≠ via → Leads edges a b ∨ ∃ s ∈ sources, ∃ t ∈ targets,
        (s = a ∨ Leads edges a s) ∧ (b = t ∨ Leads edges t b)) ∧
      (b = via → ∃ s ∈ sources, s = a ∨ Leads edges a s) from hends.1 hb
  clear hb
  induction hab with
  | @single b hab =>
      rcases (h a b).mp hab with ⟨hedge, -⟩ | ⟨hsource, rfl⟩ | ⟨rfl, -⟩
      · exact ⟨fun _ => .inl (.single hedge), fun heq => absurd heq (hnew a b hedge).2⟩
      · exact ⟨fun hne => absurd rfl hne, fun _ => ⟨a, hsource, .inl rfl⟩⟩
      · exact absurd rfl ha
  | @tail b c _ hbc ih =>
      rcases (h b c).mp hbc with ⟨hedge, -⟩ | ⟨hsource, rfl⟩ | ⟨rfl, htarget⟩
      · refine ⟨fun _ => ?_, fun heq => absurd heq (hnew b c hedge).2⟩
        refine (ih.1 (hnew b c hedge).1).imp (·.tail hedge) ?_
        rintro ⟨s, hs, t, ht, has, htb⟩
        refine ⟨s, hs, t, ht, has, .inr ?_⟩
        rcases htb with rfl | htb
        · exact .single hedge
        · exact htb.tail hedge
      · refine ⟨fun hne => absurd rfl hne, fun _ => ?_⟩
        by_cases hb : b = c
        · exact ih.2 hb
        · rcases ih.1 hb with hab | ⟨s, hs, -, -, has, -⟩
          · exact ⟨b, hsource, .inr hab⟩
          · exact ⟨s, hs, has⟩
      · obtain ⟨s, hs, has⟩ := ih.2 rfl
        exact ⟨fun _ => .inr ⟨s, hs, c, htarget, has, .inl rfl⟩, fun _ => ⟨s, hs, has⟩⟩

/-- Edges into a node that is no target and not the new node stay as they are. -/
theorem mem_iff_of_notMem_targets (hb : b ∉ targets) (hvia : b ≠ via) :
    (a, b) ∈ more ↔ (a, b) ∈ edges := by
  rw [h a b]
  simp [hb, hvia]

/-- Edges out of a node that is no source and not the new node stay as they are. -/
theorem mem_iff_of_notMem_sources (ha : a ∉ sources) (hvia : a ≠ via) :
    (a, b) ∈ more ↔ (a, b) ∈ edges := by
  rw [h a b]
  simp [ha, hvia]

end IsDetour

/-! ## Taking a node out -/

/-- The edges through a node are replaced by edges from its predecessors to its successors. -/
def IsBypass (edges more : List (α × α)) (via : α) : Prop :=
  ∀ a b, (a, b) ∈ more ↔ ((a, b) ∈ edges ∧ a ≠ via ∧ b ≠ via) ∨
    ((a, via) ∈ edges ∧ (via, b) ∈ edges)

/-- Paths between other nodes stay, some of them without the node. -/
theorem IsBypass.leads (h : IsBypass edges more via) (ha : a ≠ via) (hb : b ≠ via)
    (hab : Leads edges a b) : Leads more a b := by
  -- a path that ends at the node itself is kept up to the last node before it
  suffices hends : (b ≠ via → Leads more a b) ∧
      (b = via → ∃ s, (s = a ∨ Leads more a s) ∧ (s, via) ∈ edges) from hends.1 hb
  clear hb
  induction hab with
  | @single b hab =>
      refine ⟨fun hb => .single ((h a b).mpr (.inl ⟨hab, ha, hb⟩)), ?_⟩
      rintro rfl
      exact ⟨a, .inl rfl, hab⟩
  | @tail b c hab hbc ih =>
      by_cases hb : b = via
      · subst hb
        obtain ⟨s, hs, hsb⟩ := ih.2 rfl
        have hsc : (s, c) ∈ more := (h s c).mpr (.inr ⟨hsb, hbc⟩)
        refine ⟨fun _ => leads_or_eq_trans hs (.single hsc), ?_⟩
        rintro rfl
        exact ⟨s, hs, hsb⟩
      · refine ⟨fun hc => (ih.1 hb).tail ((h b c).mpr (.inl ⟨hbc, hb, hc⟩)), ?_⟩
        rintro rfl
        exact ⟨b, .inr (ih.1 hb), hbc⟩

/-- Paths without the node were there before. -/
theorem IsBypass.leads_of_leads (h : IsBypass edges more via) (hab : Leads more a b) :
    Leads edges a b := by
  refine hab.lift fun a b hedge => ?_
  rcases (h a b).mp hedge with ⟨hold, -⟩ | ⟨hin, hout⟩
  · exact .single hold
  · exact .head hin (.single hout)

/-! ## Ways on which nothing comes together -/

/-- A node is on the way to another one: it is that node, or leads to it. -/
def OnWay (edges : List (α × α)) (b v : α) : Prop :=
  v = b ∨ Leads edges v b

/-- No two edges come together in a node or on the way to it. -/
def Unjoined (edges : List (α × α)) (b : α) : Prop :=
  ∀ v, OnWay edges b v → ∀ s t, (s, v) ∈ edges → (t, v) ∈ edges → s = t

theorem OnWay.leads (h : OnWay edges b c) (hac : (a, c) ∈ edges) : Leads edges a b := by
  rcases h with rfl | hcb
  · exact .single hac
  · exact .head hac hcb

theorem OnWay.head (h : OnWay edges b c) (hac : (a, c) ∈ edges) : OnWay edges b a :=
  .inr (h.leads hac)

/-- What holds of a node and is handed on against the edges holds on the way to it. -/
theorem OnWay.of_closed {p : α → Prop} (hclosed : ∀ a b, (a, b) ∈ edges → p b → p a)
    (h : OnWay edges b a) (hb : p b) : p a := by
  rcases h with rfl | hab
  · exact hb
  · exact hab.mem_of_closed hclosed hb

/-- A way is an old one, if the edges into the nodes of the old ways are old ones. -/
theorem OnWay.of_into (hinto : ∀ u v, OnWay edges b v → (u, v) ∈ more → (u, v) ∈ edges)
    (h : OnWay more b a) : OnWay edges b a :=
  h.of_closed (fun u v huv hv => hv.head (hinto u v hv huv)) (.inl rfl)

theorem Leads.of_into (hinto : ∀ u v, OnWay edges b v → (u, v) ∈ more → (u, v) ∈ edges)
    (h : Leads more a b) : Leads edges a b := by
  obtain ⟨c, hac, hcb⟩ := h.exists_first
  have hold := OnWay.of_into hinto hcb
  exact hold.leads (hinto a c hold hac)

theorem Unjoined.of_into (h : Unjoined edges b)
    (hinto : ∀ u v, OnWay edges b v → (u, v) ∈ more → (u, v) ∈ edges) : Unjoined more b := by
  intro v hv s t hs ht
  have hold := hv.of_into hinto
  exact h v hold s t (hinto s v hold hs) (hinto t v hold ht)

namespace IsDetour

variable (h : IsDetour edges more sources targets via)
  (hnew : ∀ a b, (a, b) ∈ edges → a ≠ via ∧ b ≠ via) (hvia : via ∉ targets) (hb : b ≠ via)
  (hacross : ∀ s ∈ sources, ∀ t ∈ targets, OnWay edges b t → (s, t) ∈ edges)
include h hnew hvia hb hacross

/-- What is on the way to a node after a detour was so before, or it is the new node and one of its
targets was. -/
theorem onWay_or_onWay_target (hv : OnWay more b a) :
    a ≠ via ∧ OnWay edges b a ∨ a = via ∧ ∃ t ∈ targets, OnWay edges b t := by
  refine hv.of_closed (p := fun v => v ≠ via ∧ OnWay edges b v ∨
    v = via ∧ ∃ t ∈ targets, OnWay edges b t) (fun u v huv hv => ?_) (.inl ⟨hb, .inl rfl⟩)
  rcases hv with ⟨hne, hway⟩ | ⟨rfl, t, ht, hway⟩
  · rcases (h u v).mp huv with ⟨huv, -⟩ | ⟨-, heq⟩ | ⟨rfl, htarget⟩
    · exact .inl ⟨(hnew u v huv).1, hway.head huv⟩
    · exact absurd heq hne
    · exact .inr ⟨rfl, v, htarget, hway⟩
  · rcases (h u v).mp huv with ⟨huv, -⟩ | ⟨hsource, -⟩ | ⟨-, htarget⟩
    · exact absurd rfl (hnew u v huv).2
    · have hut := hacross u hsource t ht hway
      exact .inl ⟨(hnew u t hut).1, hway.head hut⟩
    · exact absurd htarget hvia

/-- A detour brings nothing together on the way to a node, if every source has an edge to each target
that is on the way. -/
theorem unjoined (hsources : sources ≠ []) (hold : Unjoined edges b) : Unjoined more b := by
  intro v hv s t hs ht
  rcases h.onWay_or_onWay_target hnew hvia hb hacross hv with ⟨hne, hway⟩ |
    ⟨rfl, target, htarget, hway⟩
  · -- an edge from elsewhere into a target would have come together with that of a source
    have hapart : ∀ {u}, (u, v) ∈ edges → ¬ (u ∈ sources ∧ v ∈ targets) → v ∉ targets := by
      intro u huv hcross hmem
      obtain ⟨source, hsource⟩ := List.exists_mem_of_ne_nil sources hsources
      obtain rfl := hold v hway u source huv (hacross source hsource v hmem hway)
      exact hcross ⟨hsource, hmem⟩
    rcases (h s v).mp hs with ⟨hs, hs'⟩ | ⟨-, heq⟩ | ⟨rfl, hmem⟩
    · rcases (h t v).mp ht with ⟨ht, -⟩ | ⟨-, heq⟩ | ⟨-, hmem⟩
      · exact hold v hway s t hs ht
      · exact absurd heq hne
      · exact absurd hmem (hapart hs hs')
    · exact absurd heq hne
    · rcases (h t v).mp ht with ⟨ht, ht'⟩ | ⟨-, heq⟩ | ⟨rfl, -⟩
      · exact absurd hmem (hapart ht ht')
      · exact absurd heq hne
      · rfl
  · -- what enters the new node are sources, and they all have an edge to its target
    have hsource : ∀ {u}, (u, v) ∈ more → u ∈ sources := by
      intro u huv
      rcases (h u v).mp huv with ⟨huv, -⟩ | ⟨hsource, -⟩ | ⟨-, hmem⟩
      · exact absurd rfl (hnew u v huv).2
      · exact hsource
      · exact absurd hmem hvia
    exact hold target hway s t (hacross s (hsource hs) target htarget hway)
      (hacross t (hsource ht) target htarget hway)

end IsDetour

theorem IsBypass.unjoined (h : IsBypass edges more via) (hold : Unjoined edges b) :
    Unjoined more b := by
  intro v hv s t hs ht
  have hway : OnWay edges b v := hv.imp_right h.leads_of_leads
  rcases (h s v).mp hs with ⟨hs, hsvia, -⟩ | ⟨hs, hvia⟩
  · rcases (h t v).mp ht with ⟨ht, -⟩ | ⟨-, hvia⟩
    · exact hold v hway s t hs ht
    · exact absurd (hold v hway s via hs hvia) hsvia
  · rcases (h t v).mp ht with ⟨ht, htvia, -⟩ | ⟨ht, -⟩
    · exact absurd (hold v hway t via ht hvia) htvia
    · exact hold via (hway.head hvia) s t hs ht

/-! ## Degrees -/

theorem IsDetour.converse (h : IsDetour edges more sources targets via) :
    IsDetour (converse edges) (Digraph.converse more) targets sources via := by
  intro a b
  rw [mem_converse, mem_converse, h b a, and_comm (a := a ∈ targets)]
  tauto

theorem IsBypass.converse (h : IsBypass edges more via) :
    IsBypass (converse edges) (Digraph.converse more) via := by
  intro a b
  simp only [mem_converse, h b a]
  tauto

variable [DecidableEq α]

/-- A detour gives no node more successors, if every source has an edge to some target. -/
theorem IsDetour.length_successors_le (h : IsDetour edges more sources targets via)
    (hnodup : more.Nodup) (hsources : ∀ s ∈ sources, ∃ t ∈ targets, (s, t) ∈ edges)
    (ha : a ≠ via) : (successors more a).length ≤ (successors edges a).length := by
  by_cases hsource : a ∈ sources
  · obtain ⟨t, ht, hat⟩ := hsources a hsource
    have hmem : t ∈ successors edges a := mem_successors.mpr hat
    -- the new node takes the place of a target
    calc (successors more a).length
        ≤ (via :: (successors edges a).erase t).length := by
          refine length_le_of_subset (nodup_successors hnodup a) fun b hb => ?_
          rcases (h a b).mp (mem_successors.mp hb) with ⟨hab, hacross⟩ | ⟨-, rfl⟩ | ⟨rfl, -⟩
          · have hbt : b ≠ t := fun heq => hacross ⟨hsource, heq ▸ ht⟩
            exact .tail _ ((List.mem_erase_of_ne hbt).mpr (mem_successors.mpr hab))
          · exact .head _
          · exact absurd rfl ha
      _ = (successors edges a).length := by
          rw [List.length_cons, List.length_erase_of_mem hmem]
          exact Nat.sub_add_cancel (List.length_pos_of_mem hmem)
  · refine length_le_of_subset (nodup_successors hnodup a) fun b hb => ?_
    exact mem_successors.mpr ((h.mem_iff_of_notMem_sources hsource ha).mp (mem_successors.mp hb))

/-- A bypass gives no other node more successors, if the node taken out has at most one. -/
theorem IsBypass.length_successors_le (h : IsBypass edges more via) (hnodup : more.Nodup)
    (hsingle : (successors edges via).length ≤ 1) :
    (successors more a).length ≤ (successors edges a).length := by
  by_cases hvia : (a, via) ∈ edges
  · have hmem : via ∈ successors edges a := mem_successors.mpr hvia
    -- the successors of the node taken out take its place
    calc (successors more a).length
        ≤ (successors edges via ++ (successors edges a).erase via).length := by
          refine length_le_of_subset (nodup_successors hnodup a) fun b hb => ?_
          rcases (h a b).mp (mem_successors.mp hb) with ⟨hab, -, hb⟩ | ⟨-, hb⟩
          · refine List.mem_append_right _ ((List.mem_erase_of_ne hb).mpr ?_)
            exact mem_successors.mpr hab
          · exact List.mem_append_left _ (mem_successors.mpr hb)
      _ ≤ (successors edges a).length := by
          have := List.length_pos_of_mem hmem
          rw [List.length_append, List.length_erase_of_mem hmem]
          omega
  · refine length_le_of_subset (nodup_successors hnodup a) fun b hb => ?_
    rcases (h a b).mp (mem_successors.mp hb) with ⟨hab, -⟩ | ⟨hab, -⟩
    · exact mem_successors.mpr hab
    · exact absurd hab hvia

theorem IsDetour.length_predecessors_le (h : IsDetour edges more sources targets via)
    (hnodup : more.Nodup) (htargets : ∀ t ∈ targets, ∃ s ∈ sources, (s, t) ∈ edges)
    (hb : b ≠ via) : (predecessors more b).length ≤ (predecessors edges b).length := by
  rw [predecessors_eq_successors_converse, predecessors_eq_successors_converse]
  refine h.converse.length_successors_le (nodup_converse hnodup) (fun t ht => ?_) hb
  obtain ⟨s, hs, hst⟩ := htargets t ht
  exact ⟨s, hs, mem_converse.mpr hst⟩

theorem IsBypass.length_predecessors_le (h : IsBypass edges more via) (hnodup : more.Nodup)
    (hsingle : (predecessors edges via).length ≤ 1) :
    (predecessors more b).length ≤ (predecessors edges b).length := by
  rw [predecessors_eq_successors_converse] at hsingle
  rw [predecessors_eq_successors_converse, predecessors_eq_successors_converse]
  exact h.converse.length_successors_le (nodup_converse hnodup) hsingle

end ActivityMatrix.Digraph
