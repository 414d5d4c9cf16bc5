import ActivityMatrix.Proofs.Gateway.Exclusion
import ActivityMatrix.Proofs.RelationSets.Consistency
import ActivityMatrix.Proofs.Synthesis.Invariant
import ActivityMatrix.Proofs.Synthesis.Shown

/-!
# What exclusive splits exclude

A split over groups and the split of a group enter into the log where they were opened, of which kind, and
over which branches. If the kind is exclusive, one expects the targets of any two branches to be a pair of
the exclusive relations. That is so for the split of a group whose kind was inferred from its targets. But
the kind of a split over groups is inferred from the first target of each group, and groups by kind of pair
take in every target that some other one of them excludes; both make exclusive splits over targets that do
not exclude each other (`exclusive_splits_spread`). What every exclusive split does exclude, for every
valid matrix, all options and every anchor, is `Excludes` (`exclusive_splits`).
-/

namespace ActivityMatrix

variable {m : Matrix} {allowed : Option (List String)} {order : List String} {a b anchor place : String}
  {targets members : List String} {branches : List (List String)} {options : SynthesisOptions}

namespace RelationSets

variable {r : RelationSets}

/-- Two activities are a pair of the exclusive relations. -/
def ExclusivePair (r : RelationSets) (a b : String) : Prop :=
  canonicalPair a b ∈ r.exclusive

/-- Two activities are a pair of no kind. -/
def UnstatedPair (r : RelationSets) (a b : String) : Prop :=
  ∀ kind, canonicalPair a b ∉ r.ofKind kind

theorem pairwise_exclusivePair
    (h : targets.Pairwise fun a b => (ofMatrixWithOrder m order).pairKind a b = some .exclusive) :
    targets.Pairwise (ofMatrixWithOrder m order).ExclusivePair :=
  h.imp pairKind_eq_exclusive_iff.mp

end RelationSets

namespace Drafting

open RelationSets

/-- The targets that a synthesis puts in groups behind an anchor, with the strategy that forms the
groups. -/
inductive Grouped (r : RelationSets) (options : SynthesisOptions) :
    String → GroupingStrategy → List String → Prop where
  /-- The activities that nothing precedes follow the start event. -/
  | start : Grouped r options startEventId options.startGrouping r.startActivities
  /-- The direct successors of an activity follow it. -/
  | follow (activity : String) :
      Grouped r options activity options.grouping (r.directSuccessors activity)

/-- What an exclusive split behind an anchor excludes. -/
inductive Excludes (r : RelationSets) (options : SynthesisOptions) :
    String → String → List (List String) → Prop where
  /-- A split over groups: the first targets of the groups exclude each other. -/
  | merged {anchor : String} {branches : List (List String)} (firsts : List String)
      (heads : branches.map List.head? = firsts.map some) (exclusive : firsts.Pairwise r.ExclusivePair) :
      Excludes r options anchor mergedSplitPlace branches
  /-- The split of a group: all targets exclude each other. -/
  | own {anchor : String} (members : List String) (exclusive : members.Pairwise r.ExclusivePair) :
      Excludes r options anchor splitPlace (members.map ([·]))
  /-- The split of a group that was formed by kind of pair beside other groups: each target excludes
  another one of them, and any two targets exclude each other or are a pair of no kind. -/
  | connected {anchor : String} {targets : List String} (members : List String)
      (grouped : Grouped r options anchor .relation targets)
      (left_out : ∃ target ∈ targets, target ∉ members)
      (partner : ∀ a ∈ members, ∃ b ∈ members, b ≠ a ∧ r.ExclusivePair a b)
      (unstated : ∀ a ∈ members, ∀ b ∈ members, b ≠ a → r.ExclusivePair a b ∨ r.UnstatedPair a b) :
      Excludes r options anchor splitPlace (members.map ([·]))

/-- A step opens no exclusive split but one that excludes what it should. -/
def OpensExcluding (r : RelationSets) (options : SynthesisOptions) (step : SynthesisStep) : Prop :=
  ∀ anchor place branches, step = .opened anchor place .exclusive branches →
    Excludes r options anchor place branches

/-! ## The splits that are opened -/

/-- The split of a group whose kind was inferred from its targets. -/
theorem opensExcluding_inferred (anchor : String) (members : List String) :
    OpensExcluding (ofMatrixWithOrder m order) options
      (.opened anchor splitPlace ((ofMatrixWithOrder m order).gatewayKind members)
        (members.map ([·]))) := by
  intro anchor place branches heq
  injection heq with hanchor hplace hkind hbranches
  subst hanchor hplace hbranches
  exact .own members (pairwise_exclusivePair (pairwise_of_gatewayKind hkind))

/-- The splits over the groups of a strategy. -/
theorem opensExcluding_grouped {strategy : GroupingStrategy} {level : String → Int}
    (hnodup : targets.Nodup)
    (hgrouped : Grouped (ofMatrixWithOrder m order) options anchor strategy targets) :
    Opens (OpensExcluding (ofMatrixWithOrder m order) options) (ofMatrixWithOrder m order) anchor
      (strategy.group (ofMatrixWithOrder m order) level targets) where
  own group hgroup _ := by
    intro anchor place branches heq
    injection heq with hanchor hplace hkind hbranches
    subst hanchor hplace hbranches
    rcases strategy.exclusive_group hnodup hgroup hkind with hpairs | ⟨rfl, hpartly⟩
    · exact .own group.targets (pairwise_exclusivePair hpairs)
    -- only the strategy by relations makes a group some of whose pairs are unstated
    · refine .connected group.targets hgrouped hpartly.left_out (fun a ha => ?_)
        fun a ha b hb hne => ?_
      · obtain ⟨b, hb, hne, hkind⟩ := hpartly.partner a ha
        exact ⟨b, hb, hne, pairKind_eq_exclusive_iff.mp hkind⟩
      · exact (hpartly.unstated a ha b hb hne).imp pairKind_eq_exclusive_iff.mp
          pairKind_eq_none_iff.mp
  merged firsts heads := by
    intro anchor place branches heq
    injection heq with hanchor hplace hkind hbranches
    subst hanchor hplace hbranches
    refine .merged firsts ?_ (pairwise_exclusivePair (pairwise_of_gatewayKind hkind))
    rw [← heads, List.map_map]
    rfl

/-- A synthesis of a valid matrix opens no exclusive split but those that exclude what they should. -/
theorem permits_opensExcluding (hvalid : m.validate allowed = .ok order) (levels : Levels)
    (options : SynthesisOptions) :
    Permits (OpensExcluding (ofMatrixWithOrder m order) options)
      ⟨ofMatrixWithOrder m order, levels, options⟩ where
  other _ hstep anchor place branches heq := absurd heq (hstep anchor place .exclusive branches)
  start := opensExcluding_grouped ((listed_of_validate hvalid).nodup.filter _) .start
  follow activity := opensExcluding_grouped (nodup_directSuccessors _ activity) (.follow activity)
  attach anchor members := opensExcluding_inferred anchor members

/-- Only what is entered into the log matters for what the log holds. -/
theorem kept_log (allowed : SynthesisStep → Prop) :
    Kept allowed fun d => ∀ entry ∈ d.log, allowed entry.step where
  insertGateway h _ _ := h
  insertFlow h _ := h
  deleteFlow h := h
  deleteNode h := h
  note h hnotes := hnotes.log ▸ h
  record h hstep entry hentry := by
    rcases List.mem_append.mp hentry with hentry | hentry
    · exact h entry hentry
    · exact List.mem_singleton.mp hentry ▸ hstep

end Drafting

namespace Synthesis

open Drafting

/-- A run enters only permitted steps into its log. -/
theorem log_allowed_of_run {allowed : SynthesisStep → Prop} {plan : SynthesisPlan} {d : Draft}
    (hplan : Permits allowed plan) (hrun : (phases plan).run blankDraft = .ok () d) :
    ∀ entry ∈ d.log, allowed entry.step := by
  have hkept := kept_log allowed
  have hadd : ∀ node, Maintains (fun d => ∀ entry ∈ d.log, allowed entry.step) (addNode node) :=
    fun node => maintains_addNode fun h _ => h
  have hnodes : Maintains (fun d => ∀ entry ∈ d.log, allowed entry.step) (addNodes plan) :=
    maintains_addNodes (hadd startNode) (fun a => hadd (taskNode a)) (hadd endNode)
  exact (maintains_phases hkept hplan hnodes).of_run (by simp [blankDraft]) hrun

/-- **What exclusive splits exclude.** Every valid matrix has a result under all options, and every
exclusive split that was opened on the way, behind whatever anchor, excludes what `Excludes` says: for a
split over groups the first targets of the groups, for the split of a group all of its targets, or, if the
group was formed by kind of pair beside other groups, another one for each target, where nothing is stated
of the pairs that are not exclusive. -/
theorem exclusive_splits (hvalid : m.validate allowed = .ok order) (options : SynthesisOptions) :
    ∃ result, synthesize options (RelationSets.ofMatrixWithOrder m order) = .ok result ∧
      ∀ entry ∈ result.log, ∀ anchor place branches,
        entry.step = .opened anchor place .exclusive branches →
          Excludes (RelationSets.ofMatrixWithOrder m order) options anchor place branches := by
  obtain ⟨levels, hlevels⟩ := RelationSets.exists_levels_of_validate hvalid options.levelStrategy
  obtain ⟨d, hrun, -⟩ := exists_draft hvalid options levels
  refine ⟨_, synthesize_of_run hlevels hrun, ?_⟩
  exact log_allowed_of_run (permits_opensExcluding hvalid levels options) hrun

/-- Five activities in no order: `a` and `b` occur together, `c` and `e` exclude `d`, and `a` excludes
`c`. -/
def sharedExclusions : Matrix :=
  let cell (a b : String) : Relation :=
    if a = b then .identity
    else if canonicalPair a b = ("a", "b") then ⟨Temporal.unordered, Existential.equivalent⟩
    else if [("c", "d"), ("d", "e"), ("a", "c")].contains (canonicalPair a b) then
      ⟨Temporal.unordered, Existential.exclusive⟩
    else .unrelated
  let names := ["a", "b", "c", "d", "e"]
  .ofCells (.ofList (names.map fun a => (a, .ofList (names.map fun b => (b, cell a b))))) names

def sharedExclusionsOrder : List String := ["a", "b", "c", "d", "e"]

theorem validate_sharedExclusions : sharedExclusions.validate none = .ok sharedExclusionsOrder :=
  eq_ok_of_toOption (by decide +kernel)

theorem exclusive_splits_sharedExclusions :
    sharedExclusions.validate none = .ok sharedExclusionsOrder ∧
      ∃ result, synthesize {} (RelationSets.ofMatrixWithOrder sharedExclusions sharedExclusionsOrder) =
          .ok result ∧
        ∀ entry ∈ result.log, ∀ anchor place branches,
          entry.step = .opened anchor place .exclusive branches →
            Excludes (RelationSets.ofMatrixWithOrder sharedExclusions sharedExclusionsOrder) {} anchor
              place branches :=
  ⟨validate_sharedExclusions, exclusive_splits validate_sharedExclusions {}⟩

/-- Exclusive splits need not exclude all of their targets: behind the start event, one is opened over two
groups whose members `b` and `c` are no exclusive pair, and one over a group whose members `c` and `e` are
none. -/
theorem exclusive_splits_spread :
    ∃ relations result, Run sharedExclusions none sharedExclusionsOrder {} relations result ∧
      (∃ entry ∈ result.log, entry.step =
        .opened startEventId mergedSplitPlace .exclusive [["a", "b"], ["c", "d", "e"]]) ∧
      (∃ entry ∈ result.log, entry.step =
        .opened startEventId splitPlace .exclusive [["c"], ["d"], ["e"]]) ∧
      ¬ relations.ExclusivePair "b" "c" ∧ ¬ relations.ExclusivePair "c" "e" := by
  obtain ⟨relations, result, run⟩ :=
    exists_run validate_sharedExclusions (by decide) (by decide) {}
  have hlog := run.of_answers (fun result =>
    (result.log.map LogEntry.step).contains
      (.opened startEventId mergedSplitPlace .exclusive [["a", "b"], ["c", "d", "e"]]) &&
    (result.log.map LogEntry.step).contains
      (.opened startEventId splitPlace .exclusive [["c"], ["d"], ["e"]])) (by decide +kernel)
  simp only [Bool.and_eq_true, List.contains_iff_mem, List.mem_map] at hlog
  refine ⟨relations, result, run, hlog.1, hlog.2, ?_, ?_⟩
  · rw [run.relations_eq]
    unfold RelationSets.ExclusivePair
    decide +kernel
  · rw [run.relations_eq]
    unfold RelationSets.ExclusivePair
    decide +kernel

end Synthesis

end ActivityMatrix
