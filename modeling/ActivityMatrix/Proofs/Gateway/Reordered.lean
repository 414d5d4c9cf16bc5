import ActivityMatrix.Proofs.Gateway.Exclusion
import Mathlib.Data.Finset.Dedup
import Mathlib.Data.List.Perm.Basic

/-!
# Targets in another order

The order in which targets are given decides the order of the groups and the order inside them, and
nothing else (`GroupingStrategy.group_reordered`). Three things read that order on the way. A kind is
inferred from a list of pairs, but asks only whether all or some of them are of a kind. A search for
components meets the targets one after another, but what it puts together are the targets that have a
partner. And the targets of a level agree or not by a comparison with their first pair, which is a
comparison of every two pairs.

Groups are compared by their content, the kind with the targets as a multiset: it still tells how many
targets there are, on which the strategies decide.
-/

namespace ActivityMatrix

variable {r : RelationSets} {targets targets' remaining remaining' : List String}

/-- The kind of a group and its targets, in no order. -/
def GatewayGroup.content (group : GatewayGroup) : GatewayKind × Multiset String :=
  (group.kind, group.targets)

/-! ## Kinds -/

theorem GatewayKind.infer_perm {pairs pairs' : List (Option PairKind)} (h : pairs.Perm pairs') :
    infer pairs = infer pairs' := by
  rw [infer, infer, h.isEmpty_eq, h.all_eq, h.any_eq, h.any_eq]

theorem RelationSets.perm_pairKinds (h : targets.Perm targets') :
    (r.pairKinds targets).Perm (r.pairKinds targets') := by
  have hpairs := filterMap_orderedPairs_perm (f := fun pair => some (r.pairKind pair.1 pair.2)) h
    fun a _ b _ => congrArg some (r.pairKind_comm a b)
  simpa only [List.filterMap_eq_map', RelationSets.pairKinds] using hpairs

namespace Grouping

theorem content_single (h : targets.Perm targets') :
    (single r targets).content = (single r targets').content := by
  refine Prod.ext (GatewayKind.infer_perm (RelationSets.perm_pairKinds h)) ?_
  exact Multiset.coe_eq_coe.mpr h

/-! ## Groups by kind of pair -/

theorem perm_connectedBy (kind : PairKind) (hnodup : targets.Nodup) (h : targets.Perm targets') :
    (connectedBy r kind targets).Perm (connectedBy r kind targets') := by
  have hnodup' : targets'.Nodup := h.nodup_iff.mp hnodup
  refine (List.perm_ext_iff_of_nodup (nodup_connectedBy hnodup) (nodup_connectedBy hnodup')).mpr ?_
  intro a
  rw [mem_connectedBy_iff hnodup, mem_connectedBy_iff hnodup']
  simp only [h.mem_iff]

/-- The kinds come in a fixed order, so the groups do; what is left over is rearranged. -/
theorem content_relationGroups (kinds : List (PairKind × GatewayKind)) (hnodup : remaining.Nodup)
    (h : remaining.Perm remaining') :
    (relationGroups r kinds remaining).1.map GatewayGroup.content =
        (relationGroups r kinds remaining').1.map GatewayGroup.content ∧
      (relationGroups r kinds remaining).2.Perm (relationGroups r kinds remaining').2 := by
  induction kinds generalizing remaining remaining' with
  | nil => exact ⟨rfl, h⟩
  | cons entry kinds ih =>
      obtain ⟨kind, gateway⟩ := entry
      have hmembers : (connectedBy r kind remaining).Perm (connectedBy r kind remaining') :=
        perm_connectedBy kind hnodup h
      have hothers : (remaining.filter (!(connectedBy r kind remaining).contains ·)).Perm
          (remaining'.filter (!(connectedBy r kind remaining').contains ·)) := by
        simp only [hmembers.contains_eq]
        exact h.filter _
      obtain ⟨hgroups, hleft⟩ := ih (hnodup.filter _) hothers
      refine ⟨?_, hleft⟩
      simp only [relationGroups, hmembers.isEmpty_eq]
      split
      · exact hgroups
      · rw [List.map_cons, List.map_cons, hgroups]
        congr 1
        exact Prod.ext rfl (Multiset.coe_eq_coe.mpr hmembers)

theorem perm_content_connectedGroups (hnodup : targets.Nodup) (h : targets.Perm targets') :
    ((connectedGroups r targets).map GatewayGroup.content).Perm
      ((connectedGroups r targets').map GatewayGroup.content) := by
  obtain ⟨hgroups, hleft⟩ := content_relationGroups (r := r) groupKinds hnodup h
  rw [connectedGroups, connectedGroups, List.map_append, List.map_append, hgroups]
  exact ((hleft.map _).map _).append_left _

theorem all_isSingleton_eq (groups : List GatewayGroup) : groups.all GatewayGroup.isSingleton =
    (groups.map GatewayGroup.content).all fun content => content.2.card == 1 := by
  rw [List.all_map]
  rfl

theorem perm_content_byRelation (hnodup : targets.Nodup) (h : targets.Perm targets') :
    ((byRelation r targets).map GatewayGroup.content).Perm
      ((byRelation r targets').map GatewayGroup.content) := by
  have hgroups := perm_content_connectedGroups (r := r) hnodup h
  have hlength : (connectedGroups r targets).length = (connectedGroups r targets').length := by
    simpa using hgroups.length_eq
  have hsingletons : (connectedGroups r targets).all GatewayGroup.isSingleton =
      (connectedGroups r targets').all GatewayGroup.isSingleton := by
    rw [all_isSingleton_eq, all_isSingleton_eq, hgroups.all_eq]
  rw [byRelation_eq, byRelation_eq, hlength, hsingletons]
  split
  · exact .of_eq (congrArg (fun content => [content]) (content_single h))
  · exact hgroups

/-! ## Groups by level -/

theorem agrees_iff {bucket : List String} : agrees r bucket = true ↔
    r.pairKinds bucket ≠ [] ∧ ∃ kind, ∀ pair ∈ r.pairKinds bucket, pair = some kind := by
  rw [agrees]
  cases hpairs : r.pairKinds bucket with
  | nil => simp
  | cons first others =>
      cases first with
      | none => simp
      | some kind =>
          constructor
          · intro hall
            refine ⟨List.cons_ne_nil _ _, kind, fun pair hpair => ?_⟩
            rcases List.mem_cons.mp hpair with rfl | hpair
            · rfl
            · exact beq_iff_eq.mp (List.all_eq_true.mp hall pair hpair)
          · rintro ⟨-, other, hall⟩
            obtain rfl : kind = other := Option.some.inj (hall _ List.mem_cons_self)
            exact List.all_eq_true.mpr fun pair hpair =>
              beq_iff_eq.mpr (hall pair (List.mem_cons_of_mem _ hpair))

theorem agrees_perm (h : targets.Perm targets') : agrees r targets = agrees r targets' := by
  have hpairs : (r.pairKinds targets).Perm (r.pairKinds targets') := RelationSets.perm_pairKinds h
  rw [Bool.eq_iff_iff, agrees_iff, agrees_iff]
  simp only [hpairs.mem_iff, ne_eq, ← List.isEmpty_iff, hpairs.isEmpty_eq]

/-- The targets of a level. -/
def ofLevel (level : String → Int) (targets : List String) (n : Int) : List String :=
  targets.filter (level · = n)

theorem perm_ofLevel {level : String → Int} (h : targets.Perm targets') (n : Int) :
    (ofLevel level targets n).Perm (ofLevel level targets' n) :=
  h.filter _

/-- The buckets are the targets of each level that occurs. -/
theorem perm_levelBuckets (level : String → Int) (targets : List String) :
    (levelBuckets level targets).Perm ((distinct (targets.map level)).map (ofLevel level targets)) := by
  refine ((perm_sortBy _).map Prod.snd).trans (.of_eq ?_)
  simp only [groupInOrder, List.map_map, List.filter_map, Function.comp_def, List.map_id']
  rfl

/-- Buckets that are picked by what does not depend on the order of their members are those of the same
levels. -/
theorem exists_levels_of_filter {p : List String → Bool}
    (hp : ∀ {bucket bucket' : List String}, bucket.Perm bucket' → p bucket = p bucket')
    (level : String → Int) (h : targets.Perm targets') : ∃ levels : List Int,
      ((levelBuckets level targets).filter p).Perm (levels.map (ofLevel level targets)) ∧
        ((levelBuckets level targets').filter p).Perm (levels.map (ofLevel level targets')) := by
  have hlevels : (distinct (targets'.map level)).Perm (distinct (targets.map level)) := by
    refine (List.perm_ext_iff_of_nodup (nodup_distinct _) (nodup_distinct _)).mpr fun n => ?_
    rw [mem_distinct, mem_distinct, (h.map level).mem_iff]
  have hsame : p ∘ ofLevel level targets' = p ∘ ofLevel level targets :=
    funext fun n => hp (perm_ofLevel h.symm n)
  refine ⟨(distinct (targets.map level)).filter (p ∘ ofLevel level targets), ?_, ?_⟩
  · exact ((perm_levelBuckets level targets).filter p).trans (.of_eq List.filter_map)
  · calc (levelBuckets level targets').filter p
        |>.Perm (((distinct (targets'.map level)).map (ofLevel level targets')).filter p) :=
          (perm_levelBuckets level targets').filter p
      _ = ((distinct (targets'.map level)).filter (p ∘ ofLevel level targets)).map
            (ofLevel level targets') := by rw [List.filter_map, hsame]
      _ |>.Perm (((distinct (targets.map level)).filter (p ∘ ofLevel level targets)).map
            (ofLevel level targets')) := (hlevels.filter _).map _

theorem perm_content_levelGroups (level : String → Int) (h : targets.Perm targets') :
    ((levelGroups r level targets).map GatewayGroup.content).Perm
      ((levelGroups r level targets').map GatewayGroup.content) := by
  obtain ⟨agreeing, hfirst, hfirst'⟩ := exists_levels_of_filter (agrees_perm (r := r)) level h
  obtain ⟨others, hrest, hrest'⟩ :=
    exists_levels_of_filter (fun hperm => congrArg not (agrees_perm (r := r) hperm)) level h
  have hagreeing : ((((levelBuckets level targets).filter (agrees r)).map (single r)).map
        GatewayGroup.content).Perm
      ((((levelBuckets level targets').filter (agrees r)).map (single r)).map
        GatewayGroup.content) := by
    refine ((hfirst.map _).map _).trans (.trans (.of_eq ?_) ((hfirst'.map _).map _).symm)
    simp only [List.map_map]
    exact List.map_congr_left fun n _ => content_single (perm_ofLevel h n)
  have hothers : ((levelBuckets level targets).filter (!agrees r ·)).flatten.Perm
      ((levelBuckets level targets').filter (!agrees r ·)).flatten := by
    refine hrest.flatten.trans (.trans ?_ hrest'.flatten.symm)
    rw [← List.flatMap_def, ← List.flatMap_def]
    exact List.Perm.flatMap_left others fun n _ => perm_ofLevel h n
  rw [levelGroups, levelGroups, List.map_append, List.map_append]
  refine hagreeing.append (.of_eq ?_)
  rw [hothers.isEmpty_eq]
  split
  · rfl
  · exact congrArg (fun members => [(GatewayKind.parallel, members)]) (Multiset.coe_eq_coe.mpr hothers)

theorem perm_content_byLevel (level : String → Int) (h : targets.Perm targets') :
    ((byLevel r level targets).map GatewayGroup.content).Perm
      ((byLevel r level targets').map GatewayGroup.content) := by
  have hgroups := perm_content_levelGroups (r := r) level h
  have hlength : (levelGroups r level targets).length = (levelGroups r level targets').length := by
    simpa using hgroups.length_eq
  rw [byLevel_eq, byLevel_eq, hlength]
  split
  · exact .of_eq (congrArg (fun content => [content]) (content_single h))
  · exact hgroups

end Grouping

/-- Every strategy makes groups of the same content. -/
theorem GroupingStrategy.perm_content_group (strategy : GroupingStrategy) (r : RelationSets)
    (level : String → Int) (hnodup : targets.Nodup) (hperm : targets.Perm targets') :
    ((strategy.group r level targets).map GatewayGroup.content).Perm
      ((strategy.group r level targets').map GatewayGroup.content) := by
  cases strategy with
  | pairwise => exact .of_eq (congrArg (fun content => [content]) (Grouping.content_single hperm))
  | relation => exact Grouping.perm_content_byRelation hnodup hperm
  | layerAware => exact Grouping.perm_content_byLevel level hperm

/-- **Grouping does not see the order of the targets.** Whatever the relations and levels are, the groups
that a strategy makes of rearranged targets are, up to their order, groups of the same kinds over the same
sets of targets. -/
theorem GroupingStrategy.group_reordered (strategy : GroupingStrategy) (r : RelationSets)
    (level : String → Int) (hnodup : targets.Nodup) (hperm : targets.Perm targets') :
    ((strategy.group r level targets).map fun group => (group.kind, group.targets.toFinset)).Perm
      ((strategy.group r level targets').map fun group => (group.kind, group.targets.toFinset)) := by
  have hset : (fun group : GatewayGroup => (group.kind, group.targets.toFinset)) =
      (fun content : GatewayKind × Multiset String => (content.1, content.2.toFinset)) ∘
        GatewayGroup.content := rfl
  rw [hset, ← List.map_map, ← List.map_map]
  exact (strategy.perm_content_group r level hnodup hperm).map _

/-- With an activity of which nothing is stated, both the groups and their members come in another order. -/
theorem GroupingStrategy.group_reordered_mixedPairs :
    let given := ["d", "a", "c", "e", "b", "f"]
    let other := ["f", "c", "b", "e", "d", "a"]
    given.Nodup ∧ given.Perm other ∧
      relation.group mixedPairs (fun _ => 0) given =
        [⟨.parallel, ["a", "b"]⟩, ⟨.exclusive, ["d", "c"]⟩, ⟨.parallel, ["e"]⟩, ⟨.parallel, ["f"]⟩] ∧
      relation.group mixedPairs (fun _ => 0) other =
        [⟨.parallel, ["b", "a"]⟩, ⟨.exclusive, ["c", "d"]⟩, ⟨.parallel, ["f"]⟩, ⟨.parallel, ["e"]⟩] ∧
      ((relation.group mixedPairs (fun _ => 0) given).map fun group =>
          (group.kind, group.targets.toFinset)).Perm
        ((relation.group mixedPairs (fun _ => 0) other).map fun group =>
          (group.kind, group.targets.toFinset)) := by
  intro given other
  have hnodup : given.Nodup := by decide
  have hperm : given.Perm other := by decide
  exact ⟨hnodup, hperm, by decide +kernel, by decide +kernel,
    group_reordered relation mixedPairs (fun _ => 0) hnodup hperm⟩

end ActivityMatrix
