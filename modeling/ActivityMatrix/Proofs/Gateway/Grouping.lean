import ActivityMatrix.Gateway.Grouping
import ActivityMatrix.Proofs.Sorting
import Mathlib.Data.List.Flatten
import Mathlib.Data.List.Nodup

/-!
# Groups cover their targets

Whatever the strategy, the groups hold the given targets and nothing else, no group is empty
(`GroupingStrategy.covers_group`), and no target is in two of them (`GroupingStrategy.nodup_group`). So
the groups divide the targets among them (`GroupingStrategy.group_divides`). The components that a search
gathers are a rearrangement of the list it searches, and a strategy only moves targets between groups and
the rest.
-/

namespace ActivityMatrix

/-! ## Groups of entries with one key -/

theorem mem_groupInOrder {κ α : Type} [DecidableEq κ] {entries : List (κ × α)}
    {group : κ × List α} :
    group ∈ groupInOrder entries ↔ (∃ a, (group.1, a) ∈ entries) ∧
      group.2 = (entries.filter fun entry => entry.1 = group.1).map Prod.snd := by
  obtain ⟨key, members⟩ := group
  simp only [groupInOrder, List.mem_map, mem_distinct, Prod.mk.injEq, Prod.exists]
  constructor
  · rintro ⟨_, ⟨_, a, ha, rfl⟩, rfl, rfl⟩
    exact ⟨⟨a, ha⟩, rfl⟩
  · rintro ⟨⟨a, ha⟩, hmembers⟩
    exact ⟨key, ⟨key, a, ha, rfl⟩, rfl, hmembers.symm⟩

/-- A value stands in the group of its key. -/
theorem mem_of_mem_groupInOrder {κ α : Type} [DecidableEq κ] {entries : List (κ × α)}
    {group : κ × List α} (h : group ∈ groupInOrder entries) {a : α} :
    a ∈ group.2 ↔ (group.1, a) ∈ entries := by
  rw [(mem_groupInOrder.mp h).2]
  constructor
  · intro ha
    obtain ⟨⟨key, b⟩, hb, rfl⟩ := List.mem_map.mp ha
    obtain ⟨hmem, hkey⟩ := List.mem_filter.mp hb
    rwa [← of_decide_eq_true hkey]
  · intro ha
    exact List.mem_map.mpr ⟨_, List.mem_filter.mpr ⟨ha, decide_eq_true rfl⟩, rfl⟩

theorem exists_mem_groupInOrder {κ α : Type} [DecidableEq κ] {entries : List (κ × α)} {key : κ}
    {a : α} (h : (key, a) ∈ entries) :
    ∃ members, (key, members) ∈ groupInOrder entries ∧ a ∈ members := by
  let members := (entries.filter fun entry => entry.1 = key).map Prod.snd
  have hgroup : (key, members) ∈ groupInOrder entries := mem_groupInOrder.mpr ⟨⟨a, h⟩, rfl⟩
  exact ⟨members, hgroup, (mem_of_mem_groupInOrder hgroup).mpr h⟩

theorem nodup_of_mem_groupInOrder {κ α : Type} [DecidableEq κ] {entries : List (κ × α)}
    {group : κ × List α} (h : group ∈ groupInOrder entries) (hentries : entries.Nodup) :
    group.2.Nodup := by
  rw [(mem_groupInOrder.mp h).2]
  refine List.Nodup.map_on ?_ (hentries.filter _)
  rintro ⟨key, a⟩ ha ⟨key', a'⟩ ha' heq
  have hkey : key = key' :=
    calc key = group.1 := of_decide_eq_true (List.mem_filter.mp ha).2
      _ = key' := (of_decide_eq_true (List.mem_filter.mp ha').2).symm
  exact Prod.ext hkey heq

/-- No two groups have one key. -/
theorem nodup_keys_groupInOrder {κ α : Type} [DecidableEq κ] (entries : List (κ × α)) :
    ((groupInOrder entries).map Prod.fst).Nodup := by
  rw [groupInOrder, List.map_map]
  simpa [Function.comp_def] using nodup_distinct (entries.map Prod.fst)

namespace Grouping

/-! ## Components rearrange a list -/

section

variable {α : Type} {linked : α → α → Bool}

/-- Gathering loses nothing of the frontier and of what remains. -/
theorem perm_gather (frontier remaining : List α) :
    ((gather linked frontier remaining).1 ++ (gather linked frontier remaining).2).Perm
      (frontier ++ remaining) := by
  induction frontier, remaining using gather.induct linked with
  | case1 remaining => simp [gather]
  | case2 remaining node others _ _ _ ih =>
      rw [gather]
      refine List.Perm.cons node (ih.trans ?_)
      rw [List.partition_eq_filter_filter]
      calc (remaining.filter (linked node) ++ others) ++ remaining.filter (!linked node ·)
          |>.Perm ((others ++ remaining.filter (linked node)) ++ remaining.filter (!linked node ·)) :=
            List.perm_append_comm.append_right _
        _ |>.Perm (others ++ remaining) := by
            rw [List.append_assoc]
            exact (List.filter_append_perm (linked node) remaining).append_left others

variable [DecidableEq α]

theorem perm_flatten_componentsIn (nodes remaining : List α) :
    (componentsIn linked nodes remaining).flatten.Perm remaining := by
  induction remaining using componentsIn.induct linked with
  | case1 => simp [componentsIn]
  | case2 node rest gathered ih =>
      rw [componentsIn, List.flatten_cons]
      refine ((perm_sortBy _).append ih).trans ?_
      exact perm_gather [node] rest

/-- The components of a list hold its members and nothing else. -/
theorem mem_flatten_components {nodes : List α} {a : α} :
    a ∈ (components linked nodes).flatten ↔ a ∈ nodes :=
  (perm_flatten_componentsIn nodes nodes).mem_iff

end

/-! ## The strategies -/

variable {r : RelationSets} {targets remaining : List String} {target : String}
  {group : GatewayGroup}

/-- Groups hold given targets and nothing else, and none of them is empty. -/
def Covers (groups : List GatewayGroup) (targets : List String) : Prop :=
  (∀ target, (∃ group ∈ groups, target ∈ group.targets) ↔ target ∈ targets) ∧
    ∀ group ∈ groups, group.targets ≠ []

theorem covers_single (h : targets ≠ []) : Covers [single r targets] targets := by
  simpa [Covers, single] using h

theorem Covers.ite {c : Prop} [Decidable c] {groups others : List GatewayGroup}
    (h : Covers groups targets) (h' : Covers others targets) :
    Covers (if c then groups else others) targets := by
  split
  · exact h
  · exact h'

theorem mem_of_mem_connectedBy {kind : PairKind} (h : target ∈ connectedBy r kind targets) :
    target ∈ targets := by
  obtain ⟨component, hcomponent, htarget⟩ := List.mem_flatten.mp h
  exact mem_flatten_components.mp
    (List.mem_flatten.mpr ⟨component, List.mem_of_mem_filter hcomponent, htarget⟩)

/-- The groups by kind of pair and what is left over hold the targets together. -/
theorem covers_relationGroups (kinds : List (PairKind × GatewayKind)) (remaining : List String) :
    (∀ target, (∃ group ∈ (relationGroups r kinds remaining).1, target ∈ group.targets) ∨
        target ∈ (relationGroups r kinds remaining).2 ↔ target ∈ remaining) ∧
      ∀ group ∈ (relationGroups r kinds remaining).1, group.targets ≠ [] := by
  induction kinds generalizing remaining with
  | nil => simp [relationGroups]
  | cons kind kinds ih =>
      obtain ⟨pair, gateway⟩ := kind
      obtain ⟨hmem, hne⟩ := ih (remaining.filter (!(connectedBy r pair remaining).contains ·))
      -- what this kind of pair connects and what it leaves over are what there was
      have hrest : ∀ target, target ∈ connectedBy r pair remaining ∨
          target ∈ remaining.filter (!(connectedBy r pair remaining).contains ·) ↔
            target ∈ remaining := by
        intro target
        have hmember : target ∈ connectedBy r pair remaining → target ∈ remaining :=
          mem_of_mem_connectedBy
        simp only [List.mem_filter, Bool.not_eq_true', List.contains_eq_mem, decide_eq_false_iff_not]
        tauto
      rw [relationGroups]
      by_cases hempty : connectedBy r pair remaining = []
      · simp only [hempty, List.isEmpty_nil, if_true] at hmem hne hrest ⊢
        refine ⟨fun target => (hmem target).trans ?_, hne⟩
        simp
      · have hflag : (connectedBy r pair remaining).isEmpty = false := by
          simpa [List.isEmpty_iff] using hempty
        simp only [hflag, Bool.false_eq_true, if_false]
        refine ⟨fun target => ?_, ?_⟩
        · rw [← hrest target, ← hmem target]
          simp [or_assoc]
        · simpa [hempty] using hne

/-- The groups by kind of pair, with a group for each target left over. -/
def connectedGroups (r : RelationSets) (targets : List String) : List GatewayGroup :=
  (relationGroups r groupKinds targets).1 ++
    (relationGroups r groupKinds targets).2.map fun target => ⟨.parallel, [target]⟩

theorem byRelation_eq (r : RelationSets) (targets : List String) : byRelation r targets =
    if (connectedGroups r targets).length ≤ 1 ||
        (connectedGroups r targets).all GatewayGroup.isSingleton then [single r targets]
      else connectedGroups r targets :=
  rfl

theorem covers_connectedGroups (targets : List String) : Covers (connectedGroups r targets) targets := by
  obtain ⟨hmem, hne⟩ := covers_relationGroups (r := r) groupKinds targets
  refine ⟨fun target => ?_, fun group hgroup => ?_⟩
  · rw [← hmem target]
    simp [connectedGroups, or_and_right, exists_or]
  · rcases List.mem_append.mp hgroup with hgroup | hgroup
    · exact hne group hgroup
    · obtain ⟨target, -, rfl⟩ := List.mem_map.mp hgroup
      simp

theorem covers_byRelation (h : targets ≠ []) : Covers (byRelation r targets) targets := by
  rw [byRelation_eq]
  exact (covers_single h).ite (covers_connectedGroups targets)

/-- The buckets hold the targets, and none of them is empty. -/
theorem mem_levelBuckets (level : String → Int) (targets : List String) :
    (∀ target, (∃ bucket ∈ levelBuckets level targets, target ∈ bucket) ↔ target ∈ targets) ∧
      ∀ bucket ∈ levelBuckets level targets, bucket ≠ [] := by
  have hentry : ∀ {target n}, (n, target) ∈ targets.map (fun target => (level target, target)) ↔
      target ∈ targets ∧ n = level target := by
    intro target n
    simp [eq_comm, and_comm]
  constructor
  · intro target
    simp only [levelBuckets, List.mem_map, mem_sortBy, Prod.exists]
    constructor
    · rintro ⟨bucket, ⟨n, members, hgroup, rfl⟩, htarget⟩
      exact (hentry.mp ((mem_of_mem_groupInOrder hgroup).mp htarget)).1
    · intro htarget
      have hmem := hentry.mpr ⟨htarget, rfl⟩
      obtain ⟨members, hgroup, hmember⟩ := exists_mem_groupInOrder hmem
      exact ⟨members, ⟨level target, members, hgroup, rfl⟩, hmember⟩
  · intro bucket hbucket
    simp only [levelBuckets, List.mem_map, mem_sortBy, Prod.exists] at hbucket
    obtain ⟨n, members, hgroup, rfl⟩ := hbucket
    obtain ⟨a, ha⟩ := (mem_groupInOrder.mp hgroup).1
    exact List.ne_nil_of_mem ((mem_of_mem_groupInOrder hgroup).mpr ha)

/-- The groups by level, with a parallel group for the levels whose pairs do not agree. -/
def levelGroups (r : RelationSets) (level : String → Int) (targets : List String) : List GatewayGroup :=
  let rest := ((levelBuckets level targets).filter (!agrees r ·)).flatten
  ((levelBuckets level targets).filter (agrees r)).map (single r) ++
    if rest.isEmpty then [] else [⟨.parallel, rest⟩]

theorem byLevel_eq (r : RelationSets) (level : String → Int) (targets : List String) :
    byLevel r level targets =
      if (levelGroups r level targets).length = 1 then [single r targets]
        else levelGroups r level targets := by
  rw [byLevel, List.partition_eq_filter_filter]
  rfl

/-- A group by level is that of a level whose pairs agree, or the parallel group of all other levels. -/
theorem mem_levelGroups {level : String → Int} : group ∈ levelGroups r level targets ↔
    (∃ bucket ∈ levelBuckets level targets, agrees r bucket = true ∧ group = single r bucket) ∨
      group.targets ≠ [] ∧
        group = ⟨.parallel, ((levelBuckets level targets).filter (!agrees r ·)).flatten⟩ := by
  rw [levelGroups, List.mem_append, List.mem_map]
  refine or_congr (exists_congr fun bucket => ?_) ?_
  · rw [List.mem_filter, and_assoc, eq_comm (a := single r bucket)]
  · generalize ((levelBuckets level targets).filter (!agrees r ·)).flatten = rest
    by_cases hrest : rest = []
    · simp only [hrest, List.isEmpty_nil, if_true, List.not_mem_nil, false_iff, not_and]
      rintro hne rfl
      exact hne rfl
    · simp only [List.isEmpty_iff, hrest, if_false, List.mem_singleton]
      refine ⟨?_, And.right⟩
      rintro rfl
      exact ⟨hrest, rfl⟩

theorem covers_levelGroups (level : String → Int) (targets : List String) :
    Covers (levelGroups r level targets) targets := by
  obtain ⟨hmem, hne⟩ := mem_levelBuckets level targets
  refine ⟨fun target => ?_, fun group hgroup => ?_⟩
  · rw [← hmem target]
    constructor
    · rintro ⟨group, hgroup, htarget⟩
      rcases mem_levelGroups.mp hgroup with ⟨bucket, hbucket, -, rfl⟩ | ⟨-, rfl⟩
      · exact ⟨bucket, hbucket, htarget⟩
      · obtain ⟨bucket, hbucket, htarget⟩ := List.mem_flatten.mp htarget
        exact ⟨bucket, List.mem_of_mem_filter hbucket, htarget⟩
    · rintro ⟨bucket, hbucket, htarget⟩
      -- a bucket that agrees is a group of its own, the others are one group together
      by_cases hagree : agrees r bucket
      · exact ⟨single r bucket, mem_levelGroups.mpr (.inl ⟨bucket, hbucket, hagree, rfl⟩), htarget⟩
      · have hrest : target ∈ ((levelBuckets level targets).filter (!agrees r ·)).flatten :=
          List.mem_flatten.mpr
            ⟨bucket, List.mem_filter.mpr ⟨hbucket, by simpa using hagree⟩, htarget⟩
        exact ⟨_, mem_levelGroups.mpr (.inr ⟨List.ne_nil_of_mem hrest, rfl⟩), hrest⟩
  · rcases mem_levelGroups.mp hgroup with ⟨bucket, hbucket, -, rfl⟩ | ⟨hrest, -⟩
    · exact hne bucket hbucket
    · exact hrest

theorem covers_byLevel (level : String → Int) (h : targets ≠ []) :
    Covers (byLevel r level targets) targets := by
  rw [byLevel_eq]
  exact (covers_single h).ite (covers_levelGroups level targets)

/-! ## No target is in two groups -/

theorem nodup_connectedBy {kind : PairKind} (hnodup : targets.Nodup) :
    (connectedBy r kind targets).Nodup :=
  (List.filter_sublist.flatten).nodup ((perm_flatten_componentsIn _ _).nodup_iff.mpr hnodup)

/-- Groups by kind of pair and what is left over rearrange the targets. -/
theorem perm_relationGroups (kinds : List (PairKind × GatewayKind)) (hnodup : remaining.Nodup) :
    (((relationGroups r kinds remaining).1.map (·.targets)).flatten ++
      (relationGroups r kinds remaining).2).Perm remaining := by
  induction kinds generalizing remaining with
  | nil => simp [relationGroups]
  | cons entry kinds ih =>
      obtain ⟨kind, gateway⟩ := entry
      let taken := connectedBy r kind remaining
      have htaken : taken.Perm (remaining.filter (taken.contains ·)) := by
        refine (List.perm_ext_iff_of_nodup (nodup_connectedBy hnodup) (hnodup.filter _)).mpr fun a => ?_
        simp only [List.mem_filter, List.contains_eq_mem, decide_eq_true_eq]
        exact ⟨fun ha => ⟨mem_of_mem_connectedBy ha, ha⟩, And.right⟩
      have hsplit : (taken ++ remaining.filter (!taken.contains ·)).Perm remaining :=
        (htaken.append_right _).trans (List.filter_append_perm (taken.contains ·) remaining)
      -- a kind of pair that connects nothing makes no group, so it adds no targets
      have hflatten : ∀ groups : List GatewayGroup,
          ((if taken.isEmpty then groups else ⟨gateway, taken⟩ :: groups).map (·.targets)).flatten =
            taken ++ (groups.map (·.targets)).flatten := by
        intro groups
        split
        · rename_i hempty
          simp [List.isEmpty_iff.mp hempty]
        · simp
      simp only [relationGroups]
      rw [hflatten, List.append_assoc]
      exact ((ih (hnodup.filter _)).append_left taken).trans hsplit

theorem perm_connectedGroups (hnodup : targets.Nodup) :
    ((connectedGroups r targets).map (·.targets)).flatten.Perm targets := by
  refine List.Perm.trans ?_ (perm_relationGroups (r := r) groupKinds hnodup)
  rw [connectedGroups, List.map_append, List.flatten_append, List.map_map]
  refine List.Perm.append_left _ ?_
  simp [Function.comp_def, ← List.flatMap_def]

/-- No target is in two buckets, since it has one level. -/
theorem nodup_levelBuckets (level : String → Int) (hnodup : targets.Nodup) :
    (levelBuckets level targets).flatten.Nodup := by
  let entries := targets.map fun target => (level target, target)
  have hentries : entries.Nodup := hnodup.map fun a b heq => (Prod.mk.inj heq).2
  have hlevel : ∀ group ∈ groupInOrder entries, ∀ a ∈ group.2, group.1 = level a := by
    intro group hgroup a ha
    obtain ⟨b, -, hb⟩ := List.mem_map.mp ((mem_of_mem_groupInOrder hgroup).mp ha)
    obtain ⟨hkey, rfl⟩ := Prod.mk.inj hb
    exact hkey.symm
  have hperm : (levelBuckets level targets).Perm ((groupInOrder entries).map Prod.snd) :=
    (perm_sortBy _).map Prod.snd
  rw [hperm.flatten.nodup_iff, List.nodup_flatten, List.pairwise_map]
  refine ⟨fun bucket hbucket => ?_, ?_⟩
  · obtain ⟨group, hgroup, rfl⟩ := List.mem_map.mp hbucket
    exact nodup_of_mem_groupInOrder hgroup hentries
  · refine (List.pairwise_map.mp (nodup_keys_groupInOrder entries)).imp_of_mem ?_
    intro group other hgroup hother hne a ha ha'
    exact hne ((hlevel group hgroup a ha).trans (hlevel other hother a ha').symm)

theorem nodup_levelGroups (level : String → Int) (hnodup : targets.Nodup) :
    ((levelGroups r level targets).map (·.targets)).flatten.Nodup := by
  have hflatten : ((levelGroups r level targets).map (·.targets)).flatten =
      ((levelBuckets level targets).filter (agrees r) ++
        (levelBuckets level targets).filter (!agrees r ·)).flatten := by
    simp only [levelGroups, List.map_append, List.flatten_append, List.map_map]
    generalize ((levelBuckets level targets).filter (!agrees r ·)).flatten = rest
    cases rest <;> simp [Function.comp_def, single]
  rw [hflatten]
  exact (List.filter_append_perm (agrees r) _).flatten.nodup_iff.mpr (nodup_levelBuckets level hnodup)

theorem nodup_single : (([single r targets].map (·.targets)).flatten).Nodup ↔ targets.Nodup := by
  simp [single]

end Grouping

/-- Every strategy covers the targets it is given. -/
theorem GroupingStrategy.covers_group (strategy : GroupingStrategy) (r : RelationSets)
    (level : String → Int) {targets : List String} (h : targets ≠ []) :
    Grouping.Covers (strategy.group r level targets) targets := by
  cases strategy with
  | pairwise => exact Grouping.covers_single h
  | relation => exact Grouping.covers_byRelation h
  | layerAware => exact Grouping.covers_byLevel level h

/-- No strategy puts a target into two groups. -/
theorem GroupingStrategy.nodup_group (strategy : GroupingStrategy) (r : RelationSets)
    (level : String → Int) {targets : List String} (h : targets.Nodup) :
    ((strategy.group r level targets).map (·.targets)).flatten.Nodup := by
  have hsingle := (Grouping.nodup_single (r := r)).mpr h
  cases strategy with
  | pairwise => exact hsingle
  | relation =>
      rw [group, Grouping.byRelation_eq]
      split
      · exact hsingle
      · exact (Grouping.perm_connectedGroups h).nodup_iff.mpr h
  | layerAware =>
      rw [group, Grouping.byLevel_eq]
      split
      · exact hsingle
      · exact Grouping.nodup_levelGroups level h

/-- **Grouping divides the targets.** Whatever the relations and levels are, every strategy makes at least
one group of given targets, none of its groups is empty, and laid side by side the groups hold every
target exactly once and nothing else. -/
theorem GroupingStrategy.group_divides (strategy : GroupingStrategy) (r : RelationSets)
    (level : String → Int) {targets : List String} (hne : targets ≠ []) (hnodup : targets.Nodup) :
    strategy.group r level targets ≠ [] ∧
      (∀ group ∈ strategy.group r level targets, group.targets ≠ []) ∧
      ((strategy.group r level targets).map (·.targets)).flatten.Perm targets := by
  obtain ⟨hmem, hfilled⟩ := strategy.covers_group r level hne
  refine ⟨fun hnone => ?_, hfilled, ?_⟩
  · obtain ⟨target, htarget⟩ := List.exists_mem_of_ne_nil targets hne
    obtain ⟨group, hgroup, -⟩ := (hmem target).mpr htarget
    rw [hnone] at hgroup
    exact List.not_mem_nil hgroup
  · refine (List.perm_ext_iff_of_nodup (strategy.nodup_group r level hnodup) hnodup).mpr fun target => ?_
    rw [← hmem target]
    simp

/-- Two activities that occur together, two that exclude each other, and one of which nothing is stated. -/
def mixedPairs : RelationSets :=
  { activities := ["a", "b", "c", "d", "e"]
    order := ["a", "b", "c", "d", "e"]
    exclusive := [("c", "d")]
    parallel := [("a", "b")] }

theorem GroupingStrategy.group_divides_mixedPairs :
    ["d", "a", "c", "e", "b"] ≠ [] ∧ ["d", "a", "c", "e", "b"].Nodup ∧
      relation.group mixedPairs (fun _ => 0) ["d", "a", "c", "e", "b"] =
        [⟨.parallel, ["a", "b"]⟩, ⟨.exclusive, ["d", "c"]⟩, ⟨.parallel, ["e"]⟩] ∧
      ((relation.group mixedPairs (fun _ => 0) ["d", "a", "c", "e", "b"]).map
        (·.targets)).flatten.Perm ["d", "a", "c", "e", "b"] := by
  have hne : ["d", "a", "c", "e", "b"] ≠ [] := by decide
  have hnodup : ["d", "a", "c", "e", "b"].Nodup := by decide
  obtain ⟨-, -, hperm⟩ := group_divides relation mixedPairs (fun _ => 0) hne hnodup
  exact ⟨hne, hnodup, by decide +kernel, hperm⟩

/-- The same targets by level: the level of `a`, `e` and `b` does not agree, that of `d` and `c` does. -/
example :
    GroupingStrategy.layerAware.group mixedPairs (fun a => if a = "c" ∨ a = "d" then 1 else 3)
        ["d", "a", "c", "e", "b"] =
      [⟨.exclusive, ["d", "c"]⟩, ⟨.parallel, ["a", "e", "b"]⟩] := by
  decide +kernel

end ActivityMatrix
