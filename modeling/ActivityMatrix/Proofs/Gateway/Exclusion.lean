import ActivityMatrix.Proofs.Gateway.Components
import ActivityMatrix.Proofs.RelationSets.Classified

/-!
# Exclusive groups

A kind that is inferred is exclusive only if every two of the targets exclude each other
(`pairwise_of_gatewayKind`). Two of the strategies infer every exclusive group in this way. The third one
puts all targets that some other target excludes into one group, which need not exclude each other, and
calls the group exclusive. By then it has taken away the targets with a parallel or inclusive partner, so
that nothing at all is stated of two members that do not exclude each other (`PartlyExclusive`); and it
infers the kind after all when no further group comes about. This is the only way in which a group is
exclusive without all of its pairs being so (`exclusive_group`).
-/

namespace ActivityMatrix

variable {r : RelationSets} {targets remaining members : List String} {group : GatewayGroup} {a b : String}

/-! ## Kinds that are inferred -/

theorem GatewayKind.eq_exclusive_of_infer {pairs : List (Option PairKind)}
    (h : GatewayKind.infer pairs = .exclusive) : ∀ pair ∈ pairs, pair = some .exclusive := by
  unfold GatewayKind.infer at h
  split_ifs at h with hempty hall
  simpa using hall

namespace RelationSets

/-- An exclusive gateway is inferred only for targets that exclude each other. -/
theorem pairwise_of_gatewayKind (h : r.gatewayKind targets = .exclusive) :
    targets.Pairwise fun a b => r.pairKind a b = some .exclusive :=
  forall_mem_orderedPairs.mp fun pair hpair =>
    GatewayKind.eq_exclusive_of_infer h _ (List.mem_map.mpr ⟨pair, hpair, rfl⟩)

end RelationSets

namespace Grouping

/-! ## Groups by kind of pair -/

/-- Pairs of a kind connect the targets that form such a pair with another target. -/
theorem mem_connectedBy_iff {kind : PairKind} (hnodup : targets.Nodup) :
    a ∈ connectedBy r kind targets ↔
      a ∈ targets ∧ ∃ b ∈ targets, b ≠ a ∧ r.pairKind a b = some kind := by
  refine (mem_large_components (fun a b => ?_) hnodup).trans (by simp)
  rw [r.pairKind_comm]

/-- No two of the given targets form a pair of a kind. -/
def FreeOf (r : RelationSets) (kind : PairKind) (targets : List String) : Prop :=
  ∀ a ∈ targets, ∀ b ∈ targets, b ≠ a → r.pairKind a b ≠ some kind

/-- What pairs of a kind do not connect forms no such pair. -/
theorem freeOf_not_connectedBy {kind : PairKind} (hnodup : targets.Nodup) :
    FreeOf r kind (targets.filter (!(connectedBy r kind targets).contains ·)) := by
  intro a ha b hb hne hkind
  obtain ⟨ha, hout⟩ := List.mem_filter.mp ha
  have hin : a ∈ connectedBy r kind targets :=
    (mem_connectedBy_iff hnodup).mpr ⟨ha, b, List.mem_of_mem_filter hb, hne, hkind⟩
  simp [hin] at hout

/-- A group by kind of pair is what that kind connects among targets of which no two form a pair of the
kinds before. -/
theorem exists_free_of_mem_relationGroups {kinds : List (PairKind × GatewayKind)}
    (hnodup : remaining.Nodup) (hgroup : group ∈ (relationGroups r kinds remaining).1) :
    ∃ earlier kind later free, kinds = earlier ++ (kind, group.kind) :: later ∧
      free.Sublist remaining ∧ group.targets = connectedBy r kind free ∧
        ∀ before ∈ earlier, FreeOf r before.1 free := by
  induction kinds generalizing remaining with
  | nil => simp [relationGroups] at hgroup
  | cons entry kinds ih =>
      obtain ⟨kind, gateway⟩ := entry
      -- a group of a later kind is formed among what this kind has left
      have hrest : group ∈ (relationGroups r kinds
            (remaining.filter (!(connectedBy r kind remaining).contains ·))).1 →
          ∃ earlier kind' later free,
            (kind, gateway) :: kinds = earlier ++ (kind', group.kind) :: later ∧
            free.Sublist remaining ∧ group.targets = connectedBy r kind' free ∧
              ∀ before ∈ earlier, FreeOf r before.1 free := by
        intro hgroup
        obtain ⟨earlier, kind', later, free, rfl, hfree, htargets, hearlier⟩ :=
          ih (hnodup.filter _) hgroup
        refine ⟨(kind, gateway) :: earlier, kind', later, free, rfl,
          hfree.trans List.filter_sublist, htargets, fun before hbefore => ?_⟩
        rcases List.mem_cons.mp hbefore with rfl | hbefore
        · exact fun a ha b hb =>
            freeOf_not_connectedBy hnodup a (hfree.subset ha) b (hfree.subset hb)
        · exact hearlier before hbefore
      simp only [relationGroups] at hgroup
      split at hgroup
      · exact hrest hgroup
      · rcases List.mem_cons.mp hgroup with rfl | hgroup
        · exact ⟨[], kind, kinds, remaining, rfl, .refl _, rfl, fun _ h => absurd h List.not_mem_nil⟩
        · exact hrest hgroup

/-- Of several groups that rearrange targets without repetition none has them all. -/
theorem exists_left_out {groups : List GatewayGroup} (hnodup : targets.Nodup)
    (hperm : (groups.map (·.targets)).flatten.Perm targets)
    (hne : ∀ group ∈ groups, group.targets ≠ []) (hseveral : 1 < groups.length)
    (hgroup : group ∈ groups) : ∃ target ∈ targets, target ∉ group.targets := by
  obtain ⟨before, after, rfl⟩ := List.append_of_mem hgroup
  have hothers : before ++ after ≠ [] := by
    intro hnone
    obtain ⟨rfl, rfl⟩ := List.append_eq_nil_iff.mp hnone
    simp at hseveral
  obtain ⟨other, hother⟩ := List.exists_mem_of_ne_nil _ hothers
  have hmem : other ∈ before ++ group :: after := by
    rcases List.mem_append.mp hother with hother | hother
    · exact List.mem_append_left _ hother
    · exact List.mem_append_right _ (List.mem_cons_of_mem _ hother)
  -- a target of another group is not in this one
  obtain ⟨target, htarget⟩ := List.exists_mem_of_ne_nil _ (hne other hmem)
  have hall := hperm.nodup_iff.mpr hnodup
  refine ⟨target, hperm.mem_iff.mp (List.mem_flatten.mpr ⟨_, List.mem_map.mpr ⟨other, hmem, rfl⟩,
    htarget⟩), fun hin => ?_⟩
  have hapart : List.Disjoint group.targets ((before ++ after).map (·.targets)).flatten := by
    refine List.disjoint_of_nodup_append (List.Perm.nodup_iff ?_ |>.mp hall)
    simp only [List.map_append, List.map_cons, List.flatten_append, List.flatten_cons]
    exact List.perm_append_comm_assoc ..
  exact hapart hin (List.mem_flatten.mpr ⟨_, List.mem_map.mpr ⟨other, hother, rfl⟩, htarget⟩)

/-! ## Exclusive groups -/

/-- Some of the given targets, each of which excludes another one of them; any two exclude each other, or
nothing is stated of them. -/
structure PartlyExclusive (r : RelationSets) (targets members : List String) : Prop where
  left_out : ∃ target ∈ targets, target ∉ members
  partner : ∀ a ∈ members, ∃ b ∈ members, b ≠ a ∧ r.pairKind a b = some .exclusive
  unstated : ∀ a ∈ members, ∀ b ∈ members, b ≠ a →
    r.pairKind a b = some .exclusive ∨ r.pairKind a b = none

/-- What pairs of a kind connect has its partners among what they connect. -/
theorem exists_partner_of_mem_connectedBy {kind : PairKind} (hnodup : targets.Nodup)
    (ha : a ∈ connectedBy r kind targets) :
    ∃ b ∈ connectedBy r kind targets, b ≠ a ∧ r.pairKind a b = some kind := by
  obtain ⟨ha, b, hb, hne, hkind⟩ := (mem_connectedBy_iff hnodup).mp ha
  refine ⟨b, (mem_connectedBy_iff hnodup).mpr ⟨hb, a, ha, hne.symm, ?_⟩, hne, hkind⟩
  rw [r.pairKind_comm, hkind]

/-- An exclusive group by kind of pair is what exclusion connects among targets that form no parallel and
no inclusive pair. -/
theorem exists_free_of_exclusive (hnodup : targets.Nodup) (hgroup : group ∈ connectedGroups r targets)
    (hkind : group.kind = .exclusive) :
    ∃ free, free.Sublist targets ∧ group.targets = connectedBy r .exclusive free ∧
      FreeOf r .parallel free ∧ FreeOf r .inclusive free := by
  rcases List.mem_append.mp hgroup with hgroup | hgroup
  · obtain ⟨earlier, kind, later, free, hkinds, hfree, htargets, hearlier⟩ :=
      exists_free_of_mem_relationGroups hnodup hgroup
    rw [hkind, groupKinds] at hkinds
    -- the exclusive group is the last of the three kinds
    rcases earlier with _ | ⟨_, _ | ⟨_, _ | ⟨_, earlier⟩⟩⟩ <;> simp at hkinds
    obtain ⟨rfl, rfl, rfl, -⟩ := hkinds
    exact ⟨free, hfree, htargets, hearlier _ (.head _), hearlier _ (.tail _ (.head _))⟩
  · obtain ⟨target, -, rfl⟩ := List.mem_map.mp hgroup
    cases hkind

theorem exclusive_group_byRelation (hnodup : targets.Nodup) (hgroup : group ∈ byRelation r targets)
    (hkind : group.kind = .exclusive) :
    (group.targets.Pairwise fun a b => r.pairKind a b = some .exclusive) ∨
      PartlyExclusive r targets group.targets := by
  rw [byRelation_eq] at hgroup
  split at hgroup
  · obtain rfl := List.mem_singleton.mp hgroup
    exact .inl (RelationSets.pairwise_of_gatewayKind hkind)
  · rename_i hseveral
    have hlength : 1 < (connectedGroups r targets).length := by
      simp only [Bool.or_eq_true, decide_eq_true_eq, not_or] at hseveral
      exact Nat.lt_of_not_le hseveral.1
    obtain ⟨free, hfree, htargets, hparallel, hinclusive⟩ :=
      exists_free_of_exclusive hnodup hgroup hkind
    refine .inr ⟨?_, ?_, ?_⟩
    · exact exists_left_out hnodup (perm_connectedGroups hnodup) (covers_connectedGroups targets).2
        hlength hgroup
    · rw [htargets]
      exact fun a ha => exists_partner_of_mem_connectedBy (hfree.nodup hnodup) ha
    · rw [htargets]
      intro a ha b hb hne
      have ha := mem_of_mem_connectedBy ha
      have hb := mem_of_mem_connectedBy hb
      -- pairs of the kinds before were taken out first
      cases hpair : r.pairKind a b with
      | none => exact .inr rfl
      | some kind =>
          cases kind with
          | exclusive => exact .inl rfl
          | parallel => exact absurd hpair (hparallel a ha b hb hne)
          | inclusive => exact absurd hpair (hinclusive a ha b hb hne)

theorem exclusive_group_byLevel {level : String → Int} (hgroup : group ∈ byLevel r level targets)
    (hkind : group.kind = .exclusive) :
    group.targets.Pairwise fun a b => r.pairKind a b = some .exclusive := by
  have hsingle : ∀ {members : List String}, group = single r members →
      group.targets.Pairwise fun a b => r.pairKind a b = some .exclusive := by
    rintro members rfl
    exact RelationSets.pairwise_of_gatewayKind hkind
  rw [byLevel_eq] at hgroup
  split at hgroup
  · exact hsingle (List.mem_singleton.mp hgroup)
  · rcases mem_levelGroups.mp hgroup with ⟨bucket, -, -, heq⟩ | ⟨-, heq⟩
    · exact hsingle heq
    · -- the targets of the levels that do not agree share a parallel group
      rw [heq] at hkind
      cases hkind

end Grouping

/-- The targets of an exclusive group exclude each other, unless it was formed by kind of pair beside
other groups: then some of its pairs may be unstated. -/
theorem GroupingStrategy.exclusive_group {strategy : GroupingStrategy} {level : String → Int}
    (hnodup : targets.Nodup) (hgroup : group ∈ strategy.group r level targets)
    (hkind : group.kind = .exclusive) :
    (group.targets.Pairwise fun a b => r.pairKind a b = some .exclusive) ∨
      strategy = .relation ∧ Grouping.PartlyExclusive r targets group.targets := by
  cases strategy with
  | pairwise =>
      obtain rfl := List.mem_singleton.mp hgroup
      exact .inl (RelationSets.pairwise_of_gatewayKind hkind)
  | relation =>
      exact (Grouping.exclusive_group_byRelation hnodup hgroup hkind).imp_right fun h => ⟨rfl, h⟩
  | layerAware => exact .inl (Grouping.exclusive_group_byLevel hgroup hkind)

end ActivityMatrix
