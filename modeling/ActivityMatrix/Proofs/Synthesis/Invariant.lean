import ActivityMatrix.Synthesis
import ActivityMatrix.Proofs.Synthesis.Yields

/-!
# What a synthesis cannot break

A synthesis changes its draft in few ways: it adds gateways that play a role and notes that, adds flows
that the guard lets pass, removes flows and nodes, keeps notes beside the graph, and enters steps into the
log. What none of these breaks (`Kept`) no phase breaks (`Maintains`), for any plan at all and whether or
not the plan comes from a valid matrix, and even if a step stops on the way.

The id of a gateway is made before the gateway is added, and other steps may lie in between. They keep notes
only, so that the id is still free when its turn comes (`Fresh`). The one place where a step enters something
that depends on the plan is the opening of a split, so the phases ask which openings the plan permits
(`Permits`).
-/

namespace ActivityMatrix.Drafting

open ProcessGraph

variable {α β : Type} {inv before after : Draft → Prop} {allowed : SynthesisStep → Prop} {plan : SynthesisPlan}
  {step : Drafting α} {next : α → Drafting β} {d d' : Draft} {s t a anchor source place : String}
  {kind : GatewayKind} {branches : List (List String)} {targets members : List String}
  {groups : List GatewayGroup} {visit : String → Drafting Unit}

/-! ## Steps that maintain something -/

/-- The draft that a step leaves, whether it stops or not. -/
def left (step : Drafting α) (d : Draft) : Draft :=
  match step.run d with
  | .ok _ d' => d'
  | .error _ d' => d'

/-- A step that is taken where one thing holds leaves a draft of which another one holds. -/
def Leaves (before after : Draft → Prop) (step : Drafting α) : Prop :=
  ∀ d, before d → after (left step d)

/-- A step leaves true of the draft what was true of it. -/
abbrev Maintains (inv : Draft → Prop) (step : Drafting α) : Prop :=
  Leaves inv inv step

theorem left_of_ok {a : α} (hrun : step.run d = .ok a d') : left step d = d' := by
  rw [left, hrun]

theorem left_of_error {fault : SynthesisFault} (hrun : step.run d = .error fault d') :
    left step d = d' := by
  rw [left, hrun]

/-- What a step leaves true holds of its result. -/
theorem Leaves.of_run {a : α} (h : Leaves before after step) (hd : before d)
    (hrun : step.run d = .ok a d') : after d' :=
  left_of_ok hrun ▸ h d hd

theorem left_bind_of_ok {a : α} (hrun : step.run d = .ok a d') :
    left (step >>= next) d = left (next a) d' := by
  rw [left, left, EStateM.run_bind, hrun]

theorem left_bind_of_error {fault : SynthesisFault} (hrun : step.run d = .error fault d') :
    left (step >>= next) d = d' := by
  rw [left, EStateM.run_bind, hrun]

/-- What holds between two steps has to suffice at the end as well, since the first one may stop. -/
theorem Leaves.trans {mid : Draft → Prop} (hstep : Leaves before mid step)
    (hmid : ∀ d, mid d → after d) (hnext : ∀ a, Leaves mid after (next a)) :
    Leaves before after (step >>= next) := by
  intro d h
  have hd := hstep d h
  cases hrun : step.run d with
  | ok a d' =>
      rw [left_of_ok hrun] at hd
      rw [left_bind_of_ok hrun]
      exact hnext a d' hd
  | error fault d' =>
      rw [left_of_error hrun] at hd
      rw [left_bind_of_error hrun]
      exact hmid d' hd

theorem Leaves.bind (hstep : Leaves before inv step) (hnext : ∀ a, Maintains inv (next a)) :
    Leaves before inv (step >>= next) :=
  hstep.trans (fun _ h => h) hnext

theorem maintains_pure (a : α) : Maintains inv (pure a : Drafting α) :=
  fun _ h => h

theorem maintains_throw (fault : SynthesisFault) : Maintains inv (throw fault : Drafting α) :=
  fun _ h => h

theorem leaves_get {next : Draft → Drafting β} (hnext : ∀ d, Leaves before after (next d)) :
    Leaves before after (get >>= next) :=
  fun d h => hnext d d h

theorem leaves_graph {next : ProcessGraph → Drafting β} (hnext : ∀ g, Leaves before after (next g)) :
    Leaves before after (graph >>= next) :=
  fun d h => hnext d.graph d h

theorem leaves_ite {c : Prop} [Decidable c] {other : Drafting α} (hstep : Leaves before after step)
    (hother : Leaves before after other) : Leaves before after (if c then step else other) := by
  split
  · exact hstep
  · exact hother

theorem maintains_forM {items : List β} {body : β → Drafting Unit}
    (hbody : ∀ item ∈ items, Maintains inv (body item)) : Maintains inv (items.forM body) := by
  induction items with
  | nil => exact maintains_pure _
  | cons item rest ih =>
      exact (hbody item (.head _)).bind fun _ => ih fun other hother => hbody other (.tail _ hother)

theorem maintains_foldlM {σ : Type} {items : List β} {body : σ → β → Drafting σ} {start : σ}
    (hbody : ∀ found, ∀ item ∈ items, Maintains inv (body found item)) :
    Maintains inv (items.foldlM body start) := by
  induction items generalizing start with
  | nil => exact maintains_pure _
  | cons item rest ih =>
      rw [List.foldlM_cons]
      exact (hbody start item (.head _)).bind fun _ =>
        ih fun found other hother => hbody found other (.tail _ hother)

/-! ## The changes that a synthesis makes -/

/-- Between two drafts nothing differs but what is noted beside the graph, the log and the gateways added,
and no activity is less marked as expanded than before. -/
structure Notes (d d' : Draft) : Prop where
  graph : d'.graph = d.graph
  log : d'.log = d.log
  additions : d'.additions = d.additions
  processed : d.processed ⊆ d'.processed

/-- Something that notes do not break. -/
structure KeptBeside (inv : Draft → Prop) : Prop where
  note : ∀ {d d'}, inv d → Notes d d' → inv d'

/-- Something that no change of a synthesis breaks, as long as only certain steps are entered into the
log. -/
structure Kept (allowed : SynthesisStep → Prop) (inv : Draft → Prop) : Prop
    extends KeptBeside inv where
  insertGateway : ∀ {d kind role id}, inv d → id ∉ d.graph.ids → role = splitRole ∨ role = joinRole →
    inv (d.insertGateway (gatewayNode kind role id))
  insertFlow : ∀ {d s t}, inv d → d.graph.canAddFlow s t = true →
    inv { d with graph := d.graph.insertFlow s t }
  deleteFlow : ∀ {d s t}, inv d → inv { d with graph := d.graph.deleteFlow s t }
  deleteNode : ∀ {d id}, inv d → inv { d with graph := d.graph.deleteNode id }
  record : ∀ {d step}, inv d → allowed step → inv { d with log := d.log ++ [⟨step, d.graph⟩] }

/-- Something holds, and an id is not taken yet. -/
def Fresh (id : String) (inv : Draft → Prop) (d : Draft) : Prop :=
  inv d ∧ id ∉ d.graph.ids

theorem Leaves.ofFresh {id : String} (h : Maintains inv step) : Leaves (Fresh id inv) inv step :=
  fun d hd => h d hd.1

/-- What is noted takes no id. -/
theorem KeptBeside.fresh (hinv : KeptBeside inv) (id : String) : KeptBeside (Fresh id inv) where
  note h hnotes := ⟨hinv.note h.1 hnotes, hnotes.graph ▸ h.2⟩

/-- A change is made to the graph, or refused. -/
theorem maintains_change {change : ProcessGraph → Except GraphError (α × ProcessGraph)}
    (hchange : ∀ {d answer g}, inv d → change d.graph = .ok (answer, g) →
      inv { d with graph := g }) : Maintains inv (Drafting.change change) := by
  intro d h
  cases hresult : change d.graph with
  | ok changed =>
      obtain ⟨answer, g⟩ := changed
      have hrun : (Drafting.change change).run d = .ok answer { d with graph := g } := by
        simp only [Drafting.change, EStateM.run_bind, EStateM.run_get, hresult]
        rfl
      rw [left_of_ok hrun]
      exact hchange h hresult
  | error error =>
      rw [left_of_error (change_of_error hresult)]
      exact h

/-- A graph that does not refuse a change is open. -/
theorem unlessFrozen_eq_ok {g : ProcessGraph} {change result : α × ProcessGraph}
    (h : g.unlessFrozen change = .ok result) : g.frozen = false ∧ change = result := by
  rw [unlessFrozen] at h
  split at h
  · cases h
  · rename_i hopen
    exact ⟨by simpa using hopen, Except.ok.inj h⟩

section

variable (hbeside : KeptBeside inv)
include hbeside

theorem maintains_modify {f : Draft → Draft} (hf : ∀ d, Notes d (f d)) :
    Maintains inv (modify f : Drafting PUnit) :=
  fun d h => hbeside.note h (hf d)

theorem maintains_modify_bind {f : Draft → Draft} {next : PUnit → Drafting β} (hf : ∀ d, Notes d (f d))
    (hnext : ∀ a, Maintains inv (next a)) : Maintains inv (modify f >>= next) :=
  (maintains_modify hbeside hf).bind hnext

theorem maintains_diagnose (report : Diagnostic) : Maintains inv (diagnose report) :=
  maintains_modify hbeside fun _ => ⟨rfl, rfl, rfl, List.Subset.refl _⟩

end

/-- A node is added, or there is one with its id. -/
theorem maintains_addNode {node : Node}
    (hnode : ∀ {d}, inv d → node.id ∉ d.graph.ids → inv { d with graph := d.graph.insertNode node }) :
    Maintains inv (addNode node) := by
  refine maintains_change fun h hadd => ?_
  obtain ⟨-, hchange⟩ := unlessFrozen_eq_ok hadd
  split at hchange
  · cases hchange
    exact h
  · rename_i hnone
    cases hchange
    refine hnode h fun hmem => ?_
    obtain ⟨other, hother, hid⟩ := mem_ids.mp hmem
    simpa [hid] using List.find?_eq_none.mp hnone other hother

/-- The id that is made for a gateway is not taken. -/
theorem maintains_gatewayId {next : String → Drafting β}
    (hnext : ∀ id, Leaves (Fresh id inv) inv (next id)) :
    Maintains inv (gatewayId kind place anchor >>= next) :=
  fun d h => hnext _ d ⟨h, freshId_notMem _ _⟩

theorem maintains_node (id : String) : Maintains inv (node id) := by
  refine leaves_graph fun g => ?_
  split
  · exact maintains_pure _
  · exact maintains_throw _

section

variable (hinv : Kept allowed inv)
include hinv

theorem maintains_record {step : SynthesisStep} (hstep : allowed step) :
    Maintains inv (Drafting.record step) :=
  fun _ h => hinv.record h hstep

theorem maintains_addFlow (s t : String) : Maintains inv (addFlow s t) := by
  refine maintains_change fun h hadd => ?_
  obtain ⟨-, hchange⟩ := unlessFrozen_eq_ok hadd
  split at hchange
  · rename_i hguard
    cases hchange
    exact hinv.insertFlow h hguard
  · cases hchange
    exact h

theorem maintains_removeFlow (s t : String) : Maintains inv (removeFlow s t) := by
  refine maintains_change fun h hremove => ?_
  obtain ⟨-, hchange⟩ := unlessFrozen_eq_ok hremove
  cases hchange
  exact hinv.deleteFlow h

theorem maintains_removeNode (id : String) : Maintains inv (removeNode id) := by
  refine maintains_change fun h hremove => ?_
  obtain ⟨-, hchange⟩ := unlessFrozen_eq_ok hremove
  cases hchange
  exact hinv.deleteNode h

/-- A gateway whose id is not taken is added, or the graph is frozen. -/
theorem leaves_addGateway {role id : String} (hrole : role = splitRole ∨ role = joinRole) :
    Leaves (Fresh id inv) inv (addGateway kind role id) := by
  rintro d ⟨h, hfresh⟩
  by_cases hfrozen : d.graph.frozen = true
  · have hrun : (addGateway kind role id).run d = .error (.graph .frozen) d := by
      have hadd : (addNode (gatewayNode kind role id)).run d = .error (.graph .frozen) d :=
        change_of_error (if_pos hfrozen)
      simp only [addGateway, graph, EStateM.run_bind, EStateM.run_get, EStateM.run_pure, hadd]
    rw [left_of_error hrun]
    exact h
  · have hadded : Yields (addGateway kind role id) d fun _ d' =>
        d' = d.insertGateway (gatewayNode kind role id) :=
      yields_addGateway (by simpa using hfrozen) hfresh rfl
    obtain ⟨_, d', hrun, rfl⟩ := hadded.exists_result
    rw [left_of_ok hrun]
    exact hinv.insertGateway h hfresh hrole

theorem maintains_connect (s t : String) : Maintains inv (connect s t) := by
  refine leaves_graph fun g => leaves_ite (maintains_pure _) ?_
  refine (maintains_addFlow hinv s t).bind fun _ => leaves_ite (maintains_pure _) ?_
  exact maintains_modify_bind hinv.toKeptBeside (fun _ => ⟨rfl, rfl, rfl, List.Subset.refl _⟩) fun _ => maintains_pure _

/-! ## Convergence -/

omit hinv in
/-- Looking for exits changes nothing but the reports. -/
theorem maintains_collectExits (hbeside : KeptBeside inv) (point : String) :
    Maintains inv (collectExits plan branches point) := by
  refine leaves_graph fun _ => maintains_foldlM fun exits last _ => leaves_graph fun g => ?_
  refine leaves_ite (maintains_pure _) (leaves_ite ?_ (maintains_pure _))
  exact (maintains_diagnose hbeside _).bind fun _ => maintains_pure _

theorem maintains_redirect (point join exit : String) : Maintains inv (redirect point join exit) :=
  (maintains_removeFlow hinv _ _).bind fun _ => (maintains_addFlow hinv _ _).bind fun _ =>
    leaves_ite (maintains_diagnose hinv.toKeptBeside _) (maintains_pure _)

theorem maintains_fallbackJoin :
    Maintains inv (fallbackJoin anchor branches kind place) := by
  refine leaves_graph fun g => maintains_gatewayId fun join => ?_
  refine (leaves_addGateway hinv (.inr rfl)).bind fun _ => maintains_forM fun sink _ => ?_
  exact (maintains_addFlow hinv _ _).bind fun _ => maintains_pure _

variable (hjoins : ∀ before branches point join exits pending,
  allowed (.joined before branches point join exits pending))
include hjoins

theorem maintains_joinAt (point : String) :
    Maintains inv (joinAt plan anchor branches kind place point) := by
  refine leaves_graph fun before => maintains_gatewayId fun join => ?_
  -- the id of the join is still free once the exits are known
  refine (maintains_collectExits (hinv.fresh join) point).trans (fun _ h => h.1) fun exits => ?_
  refine leaves_ite (maintains_pure _).ofFresh ?_
  have hjoin : Leaves (Fresh join inv) inv (joinExits kind point join exits) := by
    refine (leaves_addGateway hinv (.inr rfl)).bind fun _ => ?_
    refine (maintains_forM fun exit _ => maintains_redirect hinv _ _ _).bind fun _ => ?_
    exact (maintains_connect hinv _ _).bind fun _ => maintains_pure _
  exact hjoin.bind fun _ => leaves_get fun _ => maintains_record hinv (hjoins ..)

theorem maintains_converge : Maintains inv (converge plan anchor branches kind place) := by
  unfold converge
  split
  · exact leaves_ite (maintains_fallbackJoin hinv) (maintains_pure _)
  · exact maintains_joinAt hinv hjoins _

/-! ## Expansion -/

omit hjoins in
theorem leaves_openSplit {split : String} :
    Leaves (Fresh split inv) inv (openSplit source kind split) := by
  refine (maintains_node source).trans (fun _ h => h.1) fun origin => leaves_graph fun g => ?_
  refine leaves_ite (Leaves.ofFresh ?_) ?_
  · exact (maintains_diagnose hinv.toKeptBeside _).bind fun _ => maintains_pure _
  · refine (leaves_addGateway hinv (.inl rfl)).bind fun _ => ?_
    exact (maintains_addFlow hinv _ _).bind fun _ => maintains_pure _

theorem maintains_splitJoin (hvisit : ∀ t ∈ branches.flatten, Maintains inv (visit t))
    (hopen : allowed (.opened anchor splitPlace kind branches)) :
    Maintains inv (splitJoin plan visit source anchor branches kind) := by
  refine maintains_gatewayId fun split => (leaves_openSplit hinv).bind fun opened => ?_
  refine leaves_ite ?_ (maintains_pure _)
  refine (maintains_record hinv hopen).bind fun _ => ?_
  refine (maintains_forM fun t ht => (hvisit t ht).bind fun _ => ?_).bind fun _ =>
    maintains_converge hinv hjoins
  exact (maintains_connect hinv _ _).bind fun _ => maintains_pure _

omit hinv hjoins in
/-- The first targets of groups are looked up, unless a group has none. -/
theorem maintains_firstTargets {next : List String → Drafting β}
    (hnext : ∀ firsts, groups.map (·.targets.head?) = firsts.map some → Maintains inv (next firsts)) :
    Maintains inv (groups.mapM firstTarget >>= next) := by
  induction groups generalizing next with
  | nil => exact hnext [] rfl
  | cons group rest ih =>
      rw [List.mapM_cons, firstTarget]
      split
      · exact fun _ h => h
      · rename_i target _ htargets
        simp only [pure_bind, bind_assoc]
        refine ih fun others hothers => hnext (target :: others) ?_
        simp [htargets, hothers]

/-- The splits that groups open behind an anchor may be entered into the log. -/
structure Opens (allowed : SynthesisStep → Prop) (r : RelationSets) (anchor : String)
    (groups : List GatewayGroup) : Prop where
  own : ∀ group ∈ groups, group.targets.length ≠ 1 →
    allowed (.opened anchor splitPlace group.kind (group.targets.map ([·])))
  merged : ∀ firsts, groups.map (·.targets.head?) = firsts.map some →
    allowed (.opened anchor mergedSplitPlace (r.gatewayKind firsts) (groups.map GatewayGroup.targets))

theorem maintains_splitGroup {group : GatewayGroup} {outer : String}
    (hvisit : ∀ t ∈ group.targets, Maintains inv (visit t))
    (hopen : group.targets.length ≠ 1 →
      allowed (.opened anchor splitPlace group.kind (group.targets.map ([·])))) :
    Maintains inv (splitGroup plan visit outer anchor group) := by
  unfold splitGroup
  split
  · rename_i target htarget
    have hone : target ∈ group.targets := htarget ▸ List.mem_singleton_self target
    exact (hvisit target hone).bind fun _ => (maintains_connect hinv _ _).bind fun _ => maintains_pure _
  · rename_i targets hne
    refine maintains_splitJoin hinv hjoins (fun t ht => hvisit t (by simpa using ht)) (hopen fun hone => ?_)
    obtain ⟨target, htarget⟩ := List.length_eq_one_iff.mp hone
    exact hne target htarget

theorem maintains_split (hvisit : ∀ t, Maintains inv (visit t))
    (hopen : Opens allowed plan.relations anchor groups) :
    Maintains inv (split plan visit anchor groups) := by
  unfold split
  split
  · exact (maintains_connect hinv _ _).bind fun _ => hvisit _
  · rename_i kind targets hne
    refine maintains_splitJoin hinv hjoins (fun t _ => hvisit t)
      (hopen.own _ (.head _) fun hone => ?_)
    obtain ⟨target, rfl⟩ := List.length_eq_one_iff.mp hone
    exact hne target rfl
  · -- the kind of the split over groups depends on the first targets, if there are any
    refine maintains_firstTargets fun firsts heads => maintains_gatewayId fun outer => ?_
    refine (leaves_openSplit hinv).bind fun opened => leaves_ite ?_ (maintains_pure _)
    refine (maintains_record hinv (hopen.merged firsts heads)).bind fun _ => ?_
    refine (maintains_forM fun group hgroup => ?_).bind fun _ =>
      maintains_converge hinv hjoins
    exact maintains_splitGroup hinv hjoins (fun t _ => hvisit t) (hopen.own group hgroup)

/-- The splits that a strategy opens behind an anchor may be entered into the log. -/
def OpensBehind (allowed : SynthesisStep → Prop) (plan : SynthesisPlan) (strategy : GroupingStrategy)
    (anchor : String) (targets : List String) : Prop :=
  Opens allowed plan.relations anchor (strategy.group plan.relations plan.level targets)

theorem maintains_buildAfter {strategy : GroupingStrategy} (hvisit : ∀ t, Maintains inv (visit t))
    (hopen : OpensBehind allowed plan strategy anchor targets) :
    Maintains inv (buildAfter plan visit strategy anchor targets) := by
  unfold buildAfter
  split
  · exact maintains_pure _
  · exact (maintains_connect hinv _ _).bind fun _ => hvisit _
  · exact maintains_split hinv hjoins hvisit hopen

end

/-- What a synthesis under a plan may enter into its log: every step that opens no split, and the splits
that the plan makes it open. -/
structure Permits (allowed : SynthesisStep → Prop) (plan : SynthesisPlan) : Prop where
  other : ∀ step, (∀ anchor place kind branches, step ≠ .opened anchor place kind branches) → allowed step
  start : OpensBehind allowed plan plan.options.startGrouping startEventId
    plan.relations.startActivities
  follow : ∀ activity, OpensBehind allowed plan plan.options.grouping activity
    (plan.relations.directSuccessors activity)
  attach : ∀ anchor members, allowed
    (.opened anchor splitPlace (plan.relations.gatewayKind members) (members.map ([·])))

/-- Every plan permits its steps where all steps are allowed. -/
theorem permits_all (plan : SynthesisPlan) : Permits (fun _ => True) plan where
  other _ _ := trivial
  start := ⟨fun _ _ _ => trivial, fun _ _ => trivial⟩
  follow _ := ⟨fun _ _ _ => trivial, fun _ _ => trivial⟩
  attach _ _ := trivial

theorem Permits.joins (hplan : Permits allowed plan) (before : ProcessGraph)
    (branches : List (List String)) (point join : String) (exits : List String) (pending : List Flow) :
    allowed (.joined before branches point join exits pending) :=
  hplan.other _ (by simp)

section

variable (hinv : Kept allowed inv) (hplan : Permits allowed plan)
include hinv hplan

theorem maintains_expandWithin (fuel : Nat) (a : String) :
    Maintains inv (expandWithin plan fuel a) := by
  induction fuel generalizing a with
  | zero => exact maintains_pure _
  | succ fuel ih =>
      have hmark : Maintains inv (markProcessed a) :=
        leaves_get fun _ => leaves_ite (maintains_pure _)
          (maintains_modify_bind hinv.toKeptBeside
            (fun _ => ⟨rfl, rfl, rfl, List.subset_append_left _ _⟩) fun _ => maintains_pure _)
      have hrecord : Maintains inv (record (.expanded a)) :=
        maintains_record hinv (hplan.other _ (by simp))
      refine hmark.bind fun marked => ?_
      split
      · exact (maintains_buildAfter hinv hplan.joins ih (hplan.follow a)).bind fun _ => hrecord
      · exact hrecord

theorem maintains_expand (a : String) : Maintains inv (expand plan a) :=
  maintains_expandWithin hinv hplan _ a

theorem maintains_expandAll : Maintains inv (expandAll plan) :=
  maintains_forM fun a _ => maintains_expand hinv hplan a

theorem maintains_synthesizeStart : Maintains inv (synthesizeStart plan) :=
  maintains_modify_bind hinv.toKeptBeside (fun _ => ⟨rfl, rfl, rfl, List.Subset.refl _⟩) fun _ =>
    maintains_buildAfter hinv hplan.joins (maintains_expand hinv hplan) hplan.start

/-! ## Stitching -/

theorem maintains_branchOff (gateway successor : String) :
    Maintains inv (branchOff plan gateway successor members) := by
  refine leaves_graph fun g => maintains_gatewayId fun split => ?_
  refine (leaves_addGateway hinv (.inl rfl)).bind fun _ => ?_
  refine (maintains_removeFlow hinv _ _).bind fun _ => (maintains_addFlow hinv _ _).bind fun _ => ?_
  refine (maintains_addFlow hinv _ _).bind fun _ => maintains_forM fun m _ => ?_
  exact (maintains_expand hinv hplan m).bind fun _ =>
    (maintains_connect hinv _ _).bind fun _ => maintains_pure _

theorem maintains_attachToOpen : Maintains inv (attachToOpen plan a members) := by
  unfold attachToOpen
  split
  · exact (maintains_connect hinv _ _).bind fun _ => maintains_expand hinv hplan _
  · exact maintains_splitJoin hinv hplan.joins (fun t _ => maintains_expand hinv hplan t)
      (hplan.attach _ _)

theorem maintains_attachGroup (anchor : Option String) :
    Maintains inv (attachGroup plan anchor members) := by
  refine leaves_graph fun g => leaves_get fun d => leaves_ite (maintains_pure _) ?_
  cases anchor with
  | none => exact maintains_diagnose hinv.toKeptBeside _
  | some a =>
      refine leaves_ite (maintains_attachToOpen hinv hplan) ?_
      split
      · exact maintains_diagnose hinv.toKeptBeside _
      · exact maintains_branchOff hinv hplan _ _

theorem maintains_attachOrphans : Maintains inv (attachOrphans plan) :=
  leaves_get fun _ => maintains_forM fun _ _ => maintains_attachGroup hinv hplan _

omit hplan in
/-- A join takes in the flows into a node and those from further feeders. -/
theorem leaves_joinInFront {existing feeders : List String} {join target : String}
    {body : String → Drafting Unit} (hbody : ∀ feeder, Maintains inv (body feeder)) :
    Leaves (Fresh join inv) inv (do
      addGateway kind joinRole join
      existing.forM fun feeder => do
        let _ ← removeFlow feeder target
      feeders.forM body
      let _ ← addFlow join target) := by
  refine (leaves_addGateway hinv (.inr rfl)).bind fun _ => ?_
  refine (maintains_forM fun feeder _ => (maintains_removeFlow hinv _ _).bind fun _ =>
    maintains_pure _).bind fun _ => ?_
  refine (maintains_forM fun feeder _ => hbody feeder).bind fun _ => ?_
  exact (maintains_addFlow hinv _ _).bind fun _ => maintains_pure _

omit hplan in
theorem maintains_insertFlow (s t : String) : Maintains inv (do let _ ← addFlow s t) :=
  (maintains_addFlow hinv s t).bind fun _ => maintains_pure _

theorem maintains_mergeInto (target : String) (sources : List String) :
    Maintains inv (mergeInto plan target sources) := by
  refine leaves_graph fun g => ?_
  refine (maintains_forM fun _ _ => maintains_record hinv (hplan.other _ (by simp))).bind fun _ => ?_
  have hfeed : ∀ join feeder, Maintains inv (feed join feeder) := fun join feeder =>
    (maintains_addFlow hinv _ _).bind fun _ => leaves_ite (maintains_diagnose hinv.toKeptBeside _)
      (maintains_pure _)
  dsimp only
  split
  · exact maintains_pure _
  · exact maintains_insertFlow hinv _ _
  · split <;> exact maintains_gatewayId fun join => leaves_joinInFront hinv (hfeed join)

theorem maintains_resolvePending : Maintains inv (resolvePending plan) := by
  refine leaves_get fun d => ?_
  refine (maintains_forM fun _ _ => maintains_diagnose hinv.toKeptBeside _).bind fun _ => ?_
  refine maintains_modify_bind hinv.toKeptBeside (fun _ => ⟨rfl, rfl, rfl, List.Subset.refl _⟩) fun _ => ?_
  exact maintains_forM fun _ _ => maintains_mergeInto hinv hplan _ _

/-! ## The ends -/

omit hplan

theorem maintains_attachHeads : Maintains inv (attachHeads plan) := by
  refine leaves_graph fun g => leaves_ite (maintains_pure _) ?_
  refine (maintains_forM fun _ _ => maintains_diagnose hinv.toKeptBeside _).bind fun _ => ?_
  dsimp only
  split
  · exact maintains_insertFlow hinv _ _
  · refine maintains_gatewayId fun split => (leaves_addGateway hinv (.inl rfl)).bind fun _ => ?_
    refine (maintains_forM fun _ _ => (maintains_removeFlow hinv _ _).bind fun _ =>
      maintains_pure _).bind fun _ => ?_
    exact (maintains_addFlow hinv _ _).bind fun _ => maintains_forM fun _ _ =>
      maintains_insertFlow hinv _ _

theorem maintains_synthesizeEnd : Maintains inv (synthesizeEnd plan) := by
  refine leaves_graph fun g => ?_
  dsimp only
  split
  · refine leaves_ite ?_ (maintains_pure _)
    exact maintains_insertFlow hinv _ _
  · split
    · exact maintains_insertFlow hinv _ _
    · exact maintains_gatewayId fun join => leaves_joinInFront hinv fun _ =>
        maintains_insertFlow hinv _ _

/-! ## Cleanup -/

theorem maintains_bypass (gateway : String) : Maintains inv (bypass gateway) := by
  refine leaves_graph fun g => (maintains_removeNode hinv _).bind fun _ => ?_
  refine maintains_forM fun source _ => maintains_forM fun target _ => leaves_graph fun g => ?_
  refine leaves_ite (maintains_pure _) ((maintains_addFlow hinv _ _).bind fun _ => ?_)
  exact leaves_ite (maintains_diagnose hinv.toKeptBeside _) (maintains_pure _)

theorem maintains_carryOut (repair : GatewayRepair) : Maintains inv (carryOut repair) := by
  cases repair with
  | joinBefore kind split =>
      refine leaves_graph fun g => maintains_gatewayId fun join => ?_
      refine (leaves_addGateway hinv (.inr rfl)).bind fun _ => ?_
      refine (maintains_forM fun _ _ => (maintains_removeFlow hinv _ _).bind fun _ =>
        maintains_insertFlow hinv _ _).bind fun _ => maintains_insertFlow hinv _ _
  | splitAfter kind join =>
      refine leaves_graph fun g => maintains_gatewayId fun split => ?_
      refine (leaves_addGateway hinv (.inl rfl)).bind fun _ => ?_
      refine (maintains_forM fun _ _ => (maintains_removeFlow hinv _ _).bind fun _ =>
        maintains_insertFlow hinv _ _).bind fun _ => maintains_insertFlow hinv _ _
  | bypass gateway => exact maintains_bypass hinv gateway

theorem maintains_cleanup : Maintains inv cleanup := by
  refine leaves_graph fun g => ?_
  generalize g.repairWork + 1 = fuel
  induction fuel with
  | zero => exact maintains_pure _
  | succ fuel ih =>
      refine leaves_graph fun g => ?_
      split
      · exact maintains_pure _
      · exact (maintains_carryOut hinv _).bind fun _ => ih

end

/-! ## A whole run -/

/-- The nodes that a run starts with are the events and the tasks. -/
theorem maintains_addNodes (hstart : Maintains inv (addNode startNode))
    (htask : ∀ a, Maintains inv (addNode (taskNode a))) (hend : Maintains inv (addNode endNode)) :
    Maintains inv (addNodes plan) := by
  refine hstart.bind fun _ => (maintains_forM fun a _ => ?_).bind fun _ => ?_
  · exact (htask a).bind fun _ => maintains_pure _
  · exact hend.bind fun _ => maintains_pure _

/-- What no change of a synthesis breaks a whole run does not break, once it holds between the nodes. -/
theorem maintains_phases (hinv : Kept allowed inv) (hplan : Permits allowed plan)
    (hnodes : Maintains inv (addNodes plan)) : Maintains inv (Synthesis.phases plan) := by
  have hrecord : ∀ step, (∀ anchor place kind branches, step ≠ .opened anchor place kind branches) →
      Maintains inv (record step) := fun step hstep => maintains_record hinv (hplan.other step hstep)
  refine hnodes.bind fun _ => (maintains_synthesizeStart hinv hplan).bind fun _ => ?_
  refine (hrecord .started (by simp)).bind fun _ => (maintains_expandAll hinv hplan).bind fun _ => ?_
  refine (maintains_attachOrphans hinv hplan).bind fun _ => ?_
  refine (hrecord .orphansAttached (by simp)).bind fun _ => ?_
  refine (maintains_resolvePending hinv hplan).bind fun _ => ?_
  refine (hrecord .pendingResolved (by simp)).bind fun _ => (maintains_cleanup hinv).bind fun _ => ?_
  refine (hrecord .cleanedUp (by simp)).bind fun _ => (maintains_attachHeads hinv).bind fun _ => ?_
  refine (hrecord .headsAttached (by simp)).bind fun _ => (maintains_synthesizeEnd hinv).bind fun _ => ?_
  refine (hrecord .endSynthesized (by simp)).bind fun _ => (maintains_cleanup hinv).bind fun _ => ?_
  exact hrecord .cleanedUp (by simp)

end ActivityMatrix.Drafting
