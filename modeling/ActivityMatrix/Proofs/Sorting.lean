import ActivityMatrix.Sorting
import ActivityMatrix.Table
import Mathlib.Data.List.Nodup
import Mathlib.Data.List.Pairwise
import Mathlib.Data.List.Perm.Subperm

/-!
# Lists, sorted and counted

Sorting by insertion rearranges a list: nothing is lost, added or repeated. Under an order the result
depends on the members alone (`sortBy_distinct_eq`), and all orders of names are orders. Positions in a
list rank its members, and sorting by position brings them into its order (`sortBy_position_eq`). Beside
it stand two comparisons of lists by their members, and the case that a test picks a single member.
-/

namespace ActivityMatrix

variable {α : Type} {le : α → α → Bool}

theorem perm_insertSorted (a : α) (l : List α) : (insertSorted le a l).Perm (a :: l) := by
  induction l with
  | nil => exact .refl _
  | cons b rest ih =>
      unfold insertSorted
      split
      · exact .refl _
      · exact (ih.cons b).trans (.swap a b rest)

/-- A sorted list is a permutation of the list it comes from. -/
theorem perm_sortBy (l : List α) : (sortBy le l).Perm l := by
  induction l with
  | nil => exact .refl _
  | cons a rest ih => exact (perm_insertSorted a _).trans (ih.cons a)

@[simp] theorem mem_sortBy {a : α} {l : List α} : a ∈ sortBy le l ↔ a ∈ l :=
  (perm_sortBy l).mem_iff

@[simp] theorem mem_sortNames {a : String} {names : List String} :
    a ∈ sortNames names ↔ a ∈ names :=
  mem_sortBy

@[simp] theorem mem_sortPairs {a : String × String} {pairs : List (String × String)} :
    a ∈ sortPairs pairs ↔ a ∈ pairs :=
  mem_sortBy

@[simp] theorem mem_sortByRank {rank : String → Nat} {a : String} {names : List String} :
    a ∈ sortByRank rank names ↔ a ∈ names :=
  mem_sortBy

/-! ## Sorted lists -/

/-- A test that compares any two members, some of which may be ranked alike. -/
structure IsRanking (le : α → α → Bool) : Prop where
  total : ∀ a b, le a b = true ∨ le b a = true
  trans : ∀ {a b c}, le a b = true → le b c = true → le a c = true

/-- A test that says which of two members comes first. -/
structure IsOrder (le : α → α → Bool) : Prop extends IsRanking le where
  antisymm : ∀ {a b}, le a b = true → le b a = true → a = b

theorem pairwise_insertSorted (h : IsRanking le) (a : α) {l : List α}
    (hl : l.Pairwise (le · · = true)) : (insertSorted le a l).Pairwise (le · · = true) := by
  induction l with
  | nil => exact List.pairwise_singleton _ _
  | cons b rest ih =>
      obtain ⟨hb, hrest⟩ := List.pairwise_cons.mp hl
      unfold insertSorted
      split
      · rename_i hab
        refine List.pairwise_cons.mpr ⟨fun c hc => ?_, hl⟩
        rcases List.mem_cons.mp hc with rfl | hc
        · exact hab
        · exact h.trans hab (hb c hc)
      · rename_i hab
        refine List.pairwise_cons.mpr ⟨fun c hc => ?_, ih hrest⟩
        rcases List.mem_cons.mp ((perm_insertSorted a rest).mem_iff.mp hc) with rfl | hc
        · exact (h.total c b).resolve_left hab
        · exact hb c hc

theorem pairwise_sortBy (h : IsRanking le) (l : List α) : (sortBy le l).Pairwise (le · · = true) := by
  induction l with
  | nil => exact .nil
  | cons a rest ih => exact pairwise_insertSorted h a ih

theorem perm_insertAllSorted (l more : List α) : (insertAllSorted le l more).Perm (l ++ more) := by
  induction more generalizing l with
  | nil => exact .of_eq (List.append_nil l).symm
  | cons a more ih =>
      exact (ih _).trans (((perm_insertSorted a l).append_right more).trans List.perm_middle.symm)

theorem pairwise_insertAllSorted (h : IsRanking le) {l : List α} (more : List α)
    (hl : l.Pairwise (le · · = true)) : (insertAllSorted le l more).Pairwise (le · · = true) := by
  induction more generalizing l with
  | nil => exact hl
  | cons a more ih => exact ih (pairwise_insertSorted h a hl)

/-- Sorting forgets how a list was arranged. -/
theorem sortBy_eq_of_perm (h : IsOrder le) {l l' : List α} (hperm : l.Perm l') :
    sortBy le l = sortBy le l' := by
  refine List.Perm.eq_of_pairwise (fun _ _ _ _ => h.antisymm) (pairwise_sortBy h.toIsRanking l)
    (pairwise_sortBy h.toIsRanking l') ?_
  exact (perm_sortBy l).trans (hperm.trans (perm_sortBy l').symm)

/-- Only the members of a list count when each is taken once and they are sorted. -/
theorem sortBy_distinct_eq [DecidableEq α] (h : IsOrder le) {l l' : List α}
    (hmem : ∀ a, a ∈ l ↔ a ∈ l') : sortBy le (distinct l) = sortBy le (distinct l') := by
  refine sortBy_eq_of_perm h ?_
  refine (List.perm_ext_iff_of_nodup (nodup_distinct l) (nodup_distinct l')).mpr fun a => ?_
  rw [mem_distinct, mem_distinct, hmem]

/-- Pairs are in order by their first members, and by the second ones where those are equal. -/
theorem IsOrder.lex {β : Type} [DecidableEq α] {le' : β → β → Bool} (h : IsOrder le)
    (h' : IsOrder le') :
    IsOrder fun a b : α × β => if a.1 = b.1 then le' a.2 b.2 else le a.1 b.1 where
  total a b := by
    by_cases hab : a.1 = b.1
    · simpa [hab] using h'.total a.2 b.2
    · simpa [hab, Ne.symm hab] using h.total a.1 b.1
  trans {a b c} hab hbc := by
    by_cases hfirst : a.1 = b.1 <;> by_cases hsecond : b.1 = c.1
    · simp only [hfirst, hsecond, if_true] at hab hbc ⊢
      exact h'.trans hab hbc
    · simpa [hfirst, hsecond] using hbc
    · rw [if_neg hfirst, hsecond] at hab
      rw [if_neg (hsecond ▸ hfirst)]
      exact hab
    · rw [if_neg hfirst] at hab
      rw [if_neg hsecond] at hbc
      -- were these two equal, so would be the one in between
      have hne : a.1 ≠ c.1 := fun heq => hfirst (h.antisymm hab (heq ▸ hbc))
      rw [if_neg hne]
      exact h.trans hab hbc
  antisymm {a b} hab hba := by
    by_cases heq : a.1 = b.1
    · rw [if_pos heq] at hab
      rw [if_pos heq.symm] at hba
      exact Prod.ext heq (h'.antisymm hab hba)
    · rw [if_neg heq] at hab
      rw [if_neg (Ne.symm heq)] at hba
      exact absurd (h.antisymm hab hba) heq

/-- Members are in order by what an injective function makes of them. -/
theorem IsOrder.comap {β : Type} (h : IsOrder le) {f : β → α} (hf : Function.Injective f) :
    IsOrder fun a b => le (f a) (f b) where
  total a b := h.total (f a) (f b)
  trans := h.trans
  antisymm hab hba := hf (h.antisymm hab hba)

theorem isOrder_nameLE : IsOrder nameLE where
  total a b := by
    rcases Std.lt_trichotomy a b with h | h | h <;> simp [nameLE, h]
  trans {a b c} hab hbc := by
    simp only [nameLE, Bool.or_eq_true, beq_iff_eq, decide_eq_true_eq] at hab hbc ⊢
    rcases hab with rfl | hab
    · exact hbc
    · rcases hbc with rfl | hbc
      · exact .inr hab
      · exact .inr (String.lt_trans hab hbc)
  antisymm {a b} hab hba := by
    simp only [nameLE, Bool.or_eq_true, beq_iff_eq, decide_eq_true_eq] at hab hba
    rcases hab with heq | hab
    · exact heq
    · rcases hba with heq | hba
      · exact heq.symm
      · exact absurd (String.lt_trans hab hba) (String.lt_irrefl a)

theorem isOrder_pairLE : IsOrder pairLE :=
  isOrder_nameLE.lex isOrder_nameLE

theorem isOrder_tripleLE : IsOrder tripleLE :=
  isOrder_nameLE.lex isOrder_pairLE

/-! ## Ordered pairs -/

/-- The ordered pairs of a list are the pairs in which its members stand one after the other. -/
theorem mem_orderedPairs {l : List α} {pair : α × α} :
    pair ∈ orderedPairs l ↔ [pair.1, pair.2].Sublist l := by
  induction l with
  | nil => simp [orderedPairs]
  | cons a rest ih =>
      obtain ⟨b, c⟩ := pair
      rw [orderedPairs, List.mem_append, ih, List.cons_sublist_cons', List.singleton_sublist]
      simp only [List.mem_map, Prod.mk.injEq]
      constructor
      · rintro (⟨d, hd, rfl, rfl⟩ | h)
        · exact .inr ⟨rfl, hd⟩
        · exact .inl h
      · rintro (h | ⟨rfl, hc⟩)
        · exact .inr h
        · exact .inl ⟨c, hc, rfl, rfl⟩

/-- What holds of all ordered pairs holds of every two members. -/
theorem forall_mem_orderedPairs {p : α → α → Prop} {l : List α} :
    (∀ pair ∈ orderedPairs l, p pair.1 pair.2) ↔ l.Pairwise p := by
  simp [List.pairwise_iff_forall_sublist, mem_orderedPairs]

theorem mem_of_mem_orderedPairs {l : List α} {pair : α × α} (h : pair ∈ orderedPairs l) :
    pair.1 ∈ l ∧ pair.2 ∈ l := by
  have hsub := (mem_orderedPairs.mp h).subset
  exact ⟨hsub (by simp), hsub (by simp)⟩

/-- Of two different members of a list one stands before the other. -/
theorem mem_orderedPairs_or {l : List α} {a b : α} (ha : a ∈ l) (hb : b ∈ l) (hne : a ≠ b) :
    (a, b) ∈ orderedPairs l ∨ (b, a) ∈ orderedPairs l := by
  let either (a b : α) : Prop := (a, b) ∈ orderedPairs l ∨ (b, a) ∈ orderedPairs l
  have : Std.Symm either := ⟨fun _ _ => Or.symm⟩
  have heither : l.Pairwise either := forall_mem_orderedPairs.mp fun _ => Or.inl
  exact heither.forall ha hb hne

/-- In a list without repetition no two members stand each before the other. -/
theorem swap_notMem_orderedPairs {l : List α} (hnodup : l.Nodup) {a b : α}
    (h : (a, b) ∈ orderedPairs l) : (b, a) ∉ orderedPairs l := by
  induction l with
  | nil => simp [orderedPairs] at h
  | cons c rest ih =>
      obtain ⟨hc, hrest⟩ := List.nodup_cons.mp hnodup
      intro hswap
      simp only [orderedPairs, List.mem_append, List.mem_map, Prod.mk.injEq] at h hswap
      rcases h with ⟨_, hb, rfl, rfl⟩ | h <;> rcases hswap with ⟨_, ha, rfl, rfl⟩ | hswap
      · exact hc hb
      · exact hc (mem_of_mem_orderedPairs hswap).2
      · exact hc (mem_of_mem_orderedPairs h).2
      · exact ih hrest h hswap

theorem ne_of_mem_orderedPairs {l : List α} (hnodup : l.Nodup) {a b : α}
    (h : (a, b) ∈ orderedPairs l) : a ≠ b := by
  rintro rfl
  exact swap_notMem_orderedPairs hnodup h h

theorem nodup_orderedPairs {l : List α} (hnodup : l.Nodup) : (orderedPairs l).Nodup := by
  induction l with
  | nil => exact .nil
  | cons a rest ih =>
      obtain ⟨ha, hrest⟩ := List.nodup_cons.mp hnodup
      refine (hrest.map fun _ _ h => (Prod.mk.inj h).2).append (ih hrest) fun pair hpair hlater => ?_
      obtain ⟨b, -, rfl⟩ := List.mem_map.mp hpair
      exact ha (mem_of_mem_orderedPairs hlater).1

/-- Of two different members of a list each can be put before all occurrences of the other one. -/
theorem exists_perm_orderedPairs [DecidableEq α] {l : List α} {a b : α} (ha : a ∈ l) (hb : b ∈ l)
    (hne : a ≠ b) : ∃ l' : List α, l'.Perm l ∧ (a, b) ∈ orderedPairs l' ∧ (b, a) ∉ orderedPairs l' := by
  have hfirst : a ∈ l.filter (· = a) := List.mem_filter.mpr ⟨ha, by simp⟩
  have hsecond : b ∈ l.filter (fun c => !decide (c = a)) := List.mem_filter.mpr ⟨hb, by simp [hne.symm]⟩
  refine ⟨_, List.filter_append_perm (· = a) l, mem_orderedPairs.mpr ?_, fun h => ?_⟩
  · exact (List.singleton_sublist.mpr hfirst).append (List.singleton_sublist.mpr hsecond)
  · obtain ⟨front, back, hsplit, hfront, hback⟩ := List.sublist_append_iff.mp (mem_orderedPairs.mp h)
    cases front with
    | nil =>
        have hmem : a ∈ back := by
          rw [List.nil_append] at hsplit
          simp [← hsplit]
        simpa using (List.mem_filter.mp (hback.subset hmem)).2
    | cons c rest =>
        obtain rfl : b = c := (List.cons.inj hsplit).1
        have heq := (List.mem_filter.mp (hfront.subset List.mem_cons_self)).2
        exact hne (by simpa [eq_comm] using heq)

/-- What is read off the pairs of a list alike in both orders does not depend on the arrangement of the
list. -/
theorem filterMap_orderedPairs_perm {β : Type} {f : α × α → Option β} {l l' : List α}
    (hperm : l.Perm l') (hf : ∀ a ∈ l, ∀ b ∈ l, f (a, b) = f (b, a)) :
    ((orderedPairs l).filterMap f).Perm ((orderedPairs l').filterMap f) := by
  induction hperm with
  | nil => exact .refl _
  | cons a hrest ih =>
      rw [orderedPairs, orderedPairs, List.filterMap_append, List.filterMap_append]
      exact ((hrest.map _).filterMap _).append
        (ih fun b hb c hc => hf b (List.mem_cons_of_mem _ hb) c (List.mem_cons_of_mem _ hc))
  | swap a b rest =>
      have hab : f (b, a) = f (a, b) := hf b (by simp) a (by simp)
      simp only [orderedPairs, List.map_cons, List.cons_append, List.filterMap_cons, hab,
        List.filterMap_append]
      cases f (a, b) with
      | none => exact List.perm_append_comm_assoc ..
      | some c => exact (List.perm_append_comm_assoc ..).cons c
  | trans h₁ _ ih₁ ih₂ =>
      exact (ih₁ hf).trans (ih₂ fun a ha b hb => hf a (h₁.mem_iff.mpr ha) b (h₁.mem_iff.mpr hb))

/-! ## Sorting by position -/

section

variable [DecidableEq α] {nodes l l' : List α} {a b : α}

theorem position_inj (ha : a ∈ nodes) (h : position a nodes = position b nodes) : a = b := by
  induction nodes with
  | nil => exact absurd ha List.not_mem_nil
  | cons c rest ih =>
      unfold position at h
      split at h <;> rename_i hca <;> split at h <;> rename_i hcb
      · exact hca.symm.trans hcb
      · exact absurd h (by simp)
      · exact absurd h (by simp)
      · exact ih ((List.mem_cons.mp ha).resolve_left (Ne.symm hca)) (Nat.succ.inj h)

/-- The members of a list without repetition stand in the order of their positions. -/
theorem pairwise_position (hnodup : nodes.Nodup) :
    nodes.Pairwise fun a b => decide (position a nodes ≤ position b nodes) = true := by
  induction nodes with
  | nil => exact .nil
  | cons c rest ih =>
      obtain ⟨hc, hrest⟩ := List.nodup_cons.mp hnodup
      have hlater : ∀ {a}, a ∈ rest → position a (c :: rest) = position a rest + 1 := fun {a} ha => by
        rw [position, if_neg (ne_of_mem_of_not_mem ha hc).symm]
      refine List.pairwise_cons.mpr ⟨fun b _ => ?_, (ih hrest).imp_of_mem fun {a b} ha hb hab => ?_⟩
      · simp [position]
      · rw [hlater ha, hlater hb]
        simpa using hab

theorem isRanking_position (nodes : List α) :
    IsRanking fun a b => decide (position a nodes ≤ position b nodes) where
  total a b := by simpa using Nat.le_total _ _
  trans h h' := by
    simp only [decide_eq_true_eq] at h h' ⊢
    exact Nat.le_trans h h'

/-- Lists whose members stand in the order of their positions are told apart by their members. -/
theorem eq_of_pairwise_position (hnodup : l.Nodup) (hnodup' : l'.Nodup) (hsub : l ⊆ nodes)
    (h : l.Pairwise fun a b => decide (position a nodes ≤ position b nodes) = true)
    (h' : l'.Pairwise fun a b => decide (position a nodes ≤ position b nodes) = true)
    (hmem : ∀ a, a ∈ l ↔ a ∈ l') : l = l' := by
  refine List.Perm.eq_of_pairwise (fun a b ha _ hab hba => position_inj (hsub ha) ?_) h h'
    ((List.perm_ext_iff_of_nodup hnodup hnodup').mpr hmem)
  exact Nat.le_antisymm (of_decide_eq_true hab) (of_decide_eq_true hba)

/-- Parts of a list without repetition, in its order, are told apart by their members. -/
theorem eq_of_sublist_of_mem_iff (hnodup : nodes.Nodup) (h : l.Sublist nodes) (h' : l'.Sublist nodes)
    (hmem : ∀ a, a ∈ l ↔ a ∈ l') : l = l' :=
  eq_of_pairwise_position (h.nodup hnodup) (h'.nodup hnodup) h.subset
    ((pairwise_position hnodup).sublist h) ((pairwise_position hnodup).sublist h') hmem

/-- Sorting by position brings members of a list into its order. -/
theorem sortBy_position_eq (hnodup : nodes.Nodup) (h : l.Nodup) (hpart : l'.Sublist nodes)
    (hmem : ∀ a, a ∈ l ↔ a ∈ l') :
    sortBy (fun a b => decide (position a nodes ≤ position b nodes)) l = l' := by
  refine eq_of_pairwise_position ((perm_sortBy l).nodup_iff.mpr h) (hpart.nodup hnodup) (fun a ha => ?_)
    (pairwise_sortBy (isRanking_position nodes) l) ((pairwise_position hnodup).sublist hpart) fun a => ?_
  · exact hpart.subset ((hmem a).mp (mem_sortBy.mp ha))
  · rw [mem_sortBy, hmem]

end

/-! ## Counting -/

/-- A list without repetition is no longer than one that holds its members. -/
theorem length_le_of_subset {l l' : List α} (hnodup : l.Nodup) (h : l ⊆ l') :
    l.length ≤ l'.length :=
  (List.subperm_of_subset hnodup h).length_le

theorem notMem_of_nodup_append_cons {l rest : List α} {a : α} (h : (l ++ a :: rest).Nodup) : a ∉ l := by
  intro ha
  exact (List.nodup_append.mp h).2.2 a ha a List.mem_cons_self rfl

/-- A list of at most one member does not tell members apart. -/
theorem eq_of_length_le_one {l : List α} {a b : α} (h : l.length ≤ 1) (ha : a ∈ l) (hb : b ∈ l) :
    a = b := by
  rcases l with _ | ⟨c, _ | ⟨_, _⟩⟩
  · exact absurd ha List.not_mem_nil
  · exact (List.mem_singleton.mp ha).trans (List.mem_singleton.mp hb).symm
  · simp at h

/-- A list without repetition that does not tell members apart has at most one. -/
theorem length_le_one {l : List α} (hnodup : l.Nodup) (h : ∀ a b, a ∈ l → b ∈ l → a = b) :
    l.length ≤ 1 := by
  rcases l with _ | ⟨a, l⟩
  · exact Nat.zero_le 1
  · exact length_le_of_subset hnodup fun b hb => List.mem_singleton.mpr (h b a hb (.head _))

/-- What one member of a list without repetition satisfies alone picks that member. -/
theorem filter_eq_singleton {p : α → Bool} {l : List α} {a : α} (hnodup : l.Nodup) (ha : a ∈ l)
    (hp : ∀ b ∈ l, p b = true ↔ b = a) : l.filter p = [a] := by
  refine List.perm_singleton.mp
    ((List.perm_ext_iff_of_nodup (hnodup.filter p) (List.nodup_singleton a)).mpr fun b => ?_)
  rw [List.mem_filter, List.mem_singleton]
  constructor
  · exact fun hb => (hp b hb.1).mp hb.2
  · rintro rfl
    exact ⟨ha, (hp b ha).mpr rfl⟩

/-- A count gets smaller if nothing new is counted and something is not counted any more. -/
theorem countP_lt [DecidableEq α] {p q : α → Bool} {l : List α} {a : α} (ha : a ∈ l)
    (hsub : ∀ b ∈ l, q b = true → p b = true) (hp : p a = true) (hq : q a = false) :
    l.countP q < l.countP p := by
  have hperm := List.perm_cons_erase ha
  have hrest : (l.erase a).countP q ≤ (l.erase a).countP p :=
    List.countP_mono_left fun b hb => hsub b (List.mem_of_mem_erase hb)
  rw [hperm.countP_eq q, hperm.countP_eq p, List.countP_cons, List.countP_cons, hp, hq]
  simp only [Bool.false_eq_true, if_false, if_true]
  omega

/-- Everything but one member of a list without repetition is counted exactly if all other members are. -/
theorem countP_add_one_eq_length_iff [DecidableEq α] {p : α → Bool} {l : List α} {a : α}
    (hnodup : l.Nodup) (ha : a ∈ l) (hp : ¬ p a = true) :
    l.countP p + 1 = l.length ↔ ∀ b ∈ l, b ≠ a → p b = true := by
  have hperm := List.perm_cons_erase ha
  rw [hperm.countP_eq p, hperm.length_eq, List.countP_cons_of_neg hp, List.length_cons,
    Nat.add_right_cancel_iff, List.countP_eq_length]
  refine forall_congr' fun b => ?_
  rw [hnodup.mem_erase_iff]
  tauto

/-- Nothing is left out of a list without repetition. -/
theorem distinct_eq_self [DecidableEq α] {l : List α} (h : l.Nodup) : distinct l = l := by
  induction l with
  | nil => rfl
  | cons a rest ih =>
      obtain ⟨ha, hrest⟩ := List.nodup_cons.mp h
      have hrest' : rest.filter (· ≠ a) = rest :=
        List.filter_eq_self.mpr fun b hb => decide_eq_true (ne_of_mem_of_not_mem hb ha)
      rw [distinct, ih hrest, hrest']

end ActivityMatrix
