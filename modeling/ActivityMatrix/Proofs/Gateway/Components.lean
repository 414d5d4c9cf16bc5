import ActivityMatrix.Proofs.Gateway.Grouping

/-!
# Components and links

A search takes up what is linked with something that it has gathered, and leaves what is linked with
nothing of it (`exists_linked_of_mem_gather`, `not_linked_of_gather`). So the components of more than one
member hold exactly the members of the list that are linked with another member (`mem_large_components`).
That is all that grouping makes of components: those of one kind of link are put together into one group,
and where one of them ends and the next begins is not kept.
-/

namespace ActivityMatrix.Grouping

variable {α : Type} {linked : α → α → Bool} {frontier nodes remaining rest : List α} {node a b : α}

/-! ## One search -/

theorem mem_of_mem_frontier (h : a ∈ frontier) : a ∈ (gather linked frontier remaining).1 := by
  induction frontier, remaining using gather.induct linked with
  | case1 remaining => exact absurd h List.not_mem_nil
  | case2 remaining node others _ _ _ ih =>
      rw [gather]
      rcases List.mem_cons.mp h with rfl | h
      · exact List.mem_cons_self
      · exact List.mem_cons_of_mem _ (ih (List.mem_append_right _ h))

theorem sublist_gather (frontier remaining : List α) :
    (gather linked frontier remaining).2.Sublist remaining := by
  induction frontier, remaining using gather.induct linked with
  | case1 remaining => simp [gather]
  | case2 remaining node others _ _ _ ih =>
      rw [gather]
      refine ih.trans ?_
      rw [List.partition_eq_filter_filter]
      exact List.filter_sublist

/-- What is left is linked from nothing that was gathered. -/
theorem not_linked_of_gather (ha : a ∈ (gather linked frontier remaining).1)
    (hb : b ∈ (gather linked frontier remaining).2) : linked a b = false := by
  induction frontier, remaining using gather.induct linked with
  | case1 remaining => simp [gather] at ha
  | case2 remaining node others _ _ _ ih =>
      rw [gather] at ha hb
      rcases List.mem_cons.mp ha with rfl | ha
      · have hleft := (sublist_gather _ _).subset hb
        rw [List.partition_eq_filter_filter] at hleft
        simpa using (List.mem_filter.mp hleft).2
      · exact ih ha hb

/-- What is gathered beyond the frontier is linked from something else that was gathered. -/
theorem exists_linked_of_mem_gather (hnodup : (frontier ++ remaining).Nodup)
    (ha : a ∈ (gather linked frontier remaining).1) :
    a ∈ frontier ∨ ∃ b ∈ (gather linked frontier remaining).1, b ≠ a ∧ linked b a = true := by
  induction frontier, remaining using gather.induct linked with
  | case1 remaining => simp [gather] at ha
  | case2 remaining node others _ _ _ ih =>
      have hperm := List.filter_append_perm (linked node) remaining
      rw [gather] at ha ⊢
      simp only [List.partition_eq_filter_filter] at ih ha ⊢
      obtain ⟨hnode, hothers⟩ := List.nodup_cons.mp hnodup
      rcases List.mem_cons.mp ha with rfl | ha
      · exact .inl List.mem_cons_self
      · have hlater : ((remaining.filter (linked node) ++ others) ++
            remaining.filter (not ∘ linked node)).Nodup := by
          refine List.Perm.nodup_iff ?_ |>.mp hothers
          rw [List.append_assoc]
          refine (hperm.symm.append_left others).trans ?_
          exact List.perm_append_comm_assoc ..
        -- what is new in the frontier was taken up by the node itself
        rcases ih hlater ha with hfrontier | ⟨b, hb, hne, hlinked⟩
        · rcases List.mem_append.mp hfrontier with htaken | hother
          · obtain ⟨hmem, hlinked⟩ := List.mem_filter.mp htaken
            refine .inr ⟨node, List.mem_cons_self, ?_, hlinked⟩
            rintro rfl
            exact hnode (List.mem_append_right _ hmem)
          · exact .inl (List.mem_cons_of_mem _ hother)
        · exact .inr ⟨b, List.mem_cons_of_mem _ hb, hne, hlinked⟩

/-! ## Components of more than one member -/

/-- A search from one node that gathers anything else gathers a partner for every member. -/
theorem exists_partner_of_mem_gather (hsymm : ∀ a b, linked a b = linked b a)
    (hnodup : (node :: rest).Nodup) (hlength : 1 < (gather linked [node] rest).1.length)
    (ha : a ∈ (gather linked [node] rest).1) :
    ∃ b ∈ (gather linked [node] rest).1, b ≠ a ∧ linked a b = true := by
  rcases exists_linked_of_mem_gather hnodup ha with hstart | ⟨b, hb, hne, hlinked⟩
  · -- the node that the search starts from is linked with what it takes up first
    obtain rfl := List.mem_singleton.mp hstart
    rw [gather, List.append_nil, List.partition_eq_filter_filter] at hlength ⊢
    cases htaken : rest.filter (linked a) with
    | nil =>
        rw [htaken, gather] at hlength
        exact absurd hlength (by simp)
    | cons c others =>
        have hc : c ∈ rest.filter (linked a) := htaken ▸ List.mem_cons_self
        obtain ⟨hmem, hlinked⟩ := List.mem_filter.mp hc
        refine ⟨c, List.mem_cons_of_mem _ (mem_of_mem_frontier List.mem_cons_self), ?_, hlinked⟩
        rintro rfl
        exact (List.nodup_cons.mp hnodup).1 hmem
  · exact ⟨b, hb, hne, hsymm b a ▸ hlinked⟩

variable [DecidableEq α]

/-- Components of more than one member hold what is linked with something else. -/
theorem mem_large_componentsIn (hsymm : ∀ a b, linked a b = linked b a) (hnodup : remaining.Nodup) :
    a ∈ ((componentsIn linked nodes remaining).filter (·.length > 1)).flatten ↔
      a ∈ remaining ∧ ∃ b ∈ remaining, b ≠ a ∧ linked a b = true := by
  induction remaining using componentsIn.induct linked with
  | case1 => simp [componentsIn]
  | case2 node rest gathered ih =>
      have hsplit : ∀ {b}, b ∈ node :: rest ↔ b ∈ gathered.1 ∨ b ∈ gathered.2 := fun {b} =>
        ((perm_gather [node] rest).mem_iff.symm).trans List.mem_append
      have hleft := ih ((sublist_gather [node] rest).nodup (List.nodup_cons.mp hnodup).2)
      have hmembers : a ∈ ((componentsIn linked nodes (node :: rest)).filter (·.length > 1)).flatten ↔
          (a ∈ gathered.1 ∧ 1 < gathered.1.length) ∨
            a ∈ ((componentsIn linked nodes gathered.2).filter (·.length > 1)).flatten := by
        rw [componentsIn, List.filter_cons]
        by_cases hlarge : 1 < gathered.1.length
        · simp [gathered, (perm_sortBy _).length_eq, hlarge]
        · simp [gathered, (perm_sortBy _).length_eq, hlarge]
      rw [hmembers, hleft]
      constructor
      · rintro (⟨ha, hlarge⟩ | ⟨ha, b, hb, hlinked⟩)
        · obtain ⟨b, hb, hlinked⟩ := exists_partner_of_mem_gather hsymm hnodup hlarge ha
          exact ⟨hsplit.mpr (.inl ha), b, hsplit.mpr (.inl hb), hlinked⟩
        · exact ⟨hsplit.mpr (.inr ha), b, hsplit.mpr (.inr hb), hlinked⟩
      · rintro ⟨ha, b, hb, hne, hlinked⟩
        -- nothing that was gathered is linked with anything that was left
        rcases hsplit.mp ha with ha | ha <;> rcases hsplit.mp hb with hb | hb
        · refine .inl ⟨ha, ?_⟩
          by_contra hsmall
          exact hne (eq_of_length_le_one (Nat.le_of_not_lt hsmall) hb ha)
        · exact absurd hlinked (by simp [not_linked_of_gather ha hb])
        · exact absurd hlinked (by simp [hsymm a b, not_linked_of_gather hb ha])
        · exact .inr ⟨ha, b, hb, hne, hlinked⟩

/-- The components of more than one member hold the nodes that are linked with another node. -/
theorem mem_large_components (hsymm : ∀ a b, linked a b = linked b a) (hnodup : nodes.Nodup) :
    a ∈ ((components linked nodes).filter (·.length > 1)).flatten ↔
      a ∈ nodes ∧ ∃ b ∈ nodes, b ≠ a ∧ linked a b = true :=
  mem_large_componentsIn hsymm hnodup

end ActivityMatrix.Grouping
