import ActivityMatrix.Proofs.Synthesis.Expansion
import ActivityMatrix.Proofs.Synthesis.Invariant

/-!
# Recursions that are not cut short

An expansion calls itself for the direct successors of an activity, and the walk along joins goes on from
every join that it enters. Both count down a number that is fixed when they start. The number is bookkeeping:
it never decides what becomes of a draft, whatever the relations are, with or without cycles, and whatever
the draft is.

* `expandWithin_congr`: two numbers that both suffice (`Suffices`) make the same expansion. An expansion goes
  on only from an activity that it has marked, and nothing takes a mark back (`kept_marked`), so that fewer
  activities are waiting at each level. What is built between two levels calls the visits of its targets and
  is the same otherwise (`agree_buildAfter`).
* `expand_recursion`: expanding an activity does what its recursion says, with expansions as the visits.
* `followJoinsFrom_recursion`: the walk goes on wherever it may. It has seen one node more at each join.
-/

namespace ActivityMatrix

namespace Drafting

open ProcessGraph

variable {α β : Type} {before mid inv : Draft → Prop} {step step' : Drafting α} {next next' : α → Drafting β}
  {plan : SynthesisPlan} {visit visit' : String → Drafting Unit} {d : Draft} {t source anchor place : String}
  {kind : GatewayKind} {branches : List (List String)} {targets : List String} {fuel fuel' : Nat}

/-! ## Steps that do the same -/

/-- Two steps do the same on every draft of which something holds. -/
def Agree (inv : Draft → Prop) (step step' : Drafting α) : Prop :=
  ∀ d, inv d → step.run d = step'.run d

theorem Agree.refl (inv : Draft → Prop) (step : Drafting α) : Agree inv step step :=
  fun _ _ => rfl

theorem Agree.bind (h : Agree before step step') (hstep : Leaves before mid step)
    (hnext : ∀ a, Agree mid (next a) (next' a)) : Agree before (step >>= next) (step' >>= next') := by
  intro d hd
  rw [EStateM.run_bind, EStateM.run_bind, ← h d hd]
  cases hrun : step.run d with
  | ok a d' => exact hnext a d' (hstep.of_run hd hrun)
  | error fault d' => rfl

/-- After one and the same step, it is what follows that counts. -/
theorem Agree.after (hstep : Leaves before mid step) (hnext : ∀ a, Agree mid (next a) (next' a)) :
    Agree before (step >>= next) (step >>= next') :=
  (Agree.refl before step).bind hstep hnext

theorem Agree.afterGatewayId {next next' : String → Drafting β}
    (hnext : ∀ id, Agree (Fresh id inv) (next id) (next' id)) :
    Agree inv (gatewayId kind place anchor >>= next) (gatewayId kind place anchor >>= next') :=
  fun d hd => hnext _ d ⟨hd, freshId_notMem _ _⟩

theorem Agree.ite {c : Prop} [Decidable c] {other other' : Drafting α} (h : Agree inv step step')
    (hother : Agree inv other other') : Agree inv (if c then step else other) (if c then step' else other') := by
  split
  · exact h
  · exact hother

theorem Agree.forM {items : List β} {body body' : β → Drafting Unit}
    (h : ∀ item ∈ items, Agree inv (body item) (body' item))
    (hbody : ∀ item ∈ items, Maintains inv (body item)) : Agree inv (items.forM body) (items.forM body') := by
  induction items with
  | nil => exact .refl _ _
  | cons item rest ih =>
      refine (h item (.head _)).bind (hbody item (.head _)) fun _ => ih ?_ ?_
      · exact fun other hother => h other (.tail _ hother)
      · exact fun other hother => hbody other (.tail _ hother)

/-! ## Visits that do the same -/

/-- One visit of a target may stand in for another one where something holds that neither of them breaks. -/
structure StandsIn (inv : Draft → Prop) (visit visit' : String → Drafting Unit) (t : String) : Prop where
  agree : Agree inv (visit t) (visit' t)
  maintains : Maintains inv (visit t)

section

variable (hinv : Kept (fun _ => True) inv)
include hinv

/-- So it may where the target is connected after the visit. -/
theorem StandsIn.connected (h : StandsIn inv visit visit' t) (source : String) :
    StandsIn inv (fun t => do visit t; let _ ← connect source t)
      (fun t => do visit' t; let _ ← connect source t) t where
  agree := h.agree.bind h.maintains fun _ => .refl _ _
  maintains := h.maintains.bind fun _ => (maintains_connect hinv source t).bind fun _ => maintains_pure _

theorem agree_splitJoin (h : ∀ t ∈ branches.flatten, StandsIn inv visit visit' t) :
    Agree inv (splitJoin plan visit source anchor branches kind)
      (splitJoin plan visit' source anchor branches kind) := by
  refine .afterGatewayId fun split => .after (leaves_openSplit hinv) fun opened => .ite ?_ (.refl _ _)
  refine .after (maintains_record hinv trivial) fun _ => ?_
  have hconnected (t : String) (ht : t ∈ branches.flatten) := (h t ht).connected hinv split
  apply Agree.bind
  · exact Agree.forM (fun t ht => (hconnected t ht).agree) fun t ht => (hconnected t ht).maintains
  · exact maintains_forM fun t ht => (hconnected t ht).maintains
  · exact fun _ => .refl _ _

theorem agree_splitGroup {outer : String} {group : GatewayGroup}
    (h : ∀ t ∈ group.targets, StandsIn inv visit visit' t) :
    Agree inv (splitGroup plan visit outer anchor group) (splitGroup plan visit' outer anchor group) := by
  unfold splitGroup
  split
  · rename_i target htarget
    exact ((h target (htarget ▸ List.mem_singleton_self target)).connected hinv outer).agree
  · exact agree_splitJoin hinv fun t ht => h t (by simpa using ht)

theorem agree_split {groups : List GatewayGroup}
    (h : ∀ group ∈ groups, ∀ t ∈ group.targets, StandsIn inv visit visit' t) :
    Agree inv (split plan visit anchor groups) (split plan visit' anchor groups) := by
  unfold split
  split
  · exact .after (maintains_connect hinv _ _) fun _ => (h _ (.head _) _ (.head _)).agree
  · exact agree_splitJoin hinv fun t ht => h _ (.head _) t (by simpa using ht)
  · have hfirsts : Maintains inv (groups.mapM firstTarget) := by
      rw [← bind_pure (groups.mapM firstTarget)]
      exact maintains_firstTargets fun firsts _ => maintains_pure firsts
    refine .after hfirsts fun firsts => .afterGatewayId fun outer => ?_
    refine .after (leaves_openSplit hinv) fun opened => .ite ?_ (.refl _ _)
    refine .after (maintains_record hinv trivial) fun _ => ?_
    apply Agree.bind
    · exact .forM (fun group hgroup => agree_splitGroup hinv (h group hgroup)) fun group hgroup =>
        maintains_splitGroup hinv (fun _ _ _ _ _ _ => trivial) (fun t ht => (h group hgroup t ht).maintains)
          fun _ => trivial
    · exact maintains_forM fun group hgroup =>
        maintains_splitGroup hinv (fun _ _ _ _ _ _ => trivial) (fun t ht => (h group hgroup t ht).maintains)
          fun _ => trivial
    · exact fun _ => .refl _ _

/-- What is built behind a node depends on the visits of its targets only. -/
theorem agree_buildAfter {strategy : GroupingStrategy} (h : ∀ t ∈ targets, StandsIn inv visit visit' t) :
    Agree inv (buildAfter plan visit strategy anchor targets)
      (buildAfter plan visit' strategy anchor targets) := by
  unfold buildAfter
  split
  · exact .refl _ _
  · exact .after (maintains_connect hinv _ _) fun _ => (h _ (.head _)).agree
  · rename_i hne _
    have hcovers := strategy.covers_group plan.relations plan.level hne
    exact agree_split hinv fun group hgroup t ht => h t ((hcovers.1 t).mp ⟨group, hgroup, ht⟩)

end

/-! ## Expansions -/

/-- No change of a synthesis takes back that activities were expanded. -/
theorem kept_marked (done : List String) : Kept (fun _ => True) fun d => done ⊆ d.processed where
  insertGateway h _ _ := h
  insertFlow h _ := h
  deleteFlow h := h
  deleteNode h := h
  note h hnotes := List.Subset.trans h hnotes.processed
  record h _ := h

/-- One level of an expansion, with visits of the direct successors. -/
def expansion (plan : SynthesisPlan) (visit : String → Drafting Unit) (t : String) : Drafting Unit := do
  if ← markProcessed t then
    buildAfter plan visit plan.options.grouping t (plan.relations.directSuccessors t)
  record (.expanded t)

theorem run_expansion_of_mem (ht : t ∈ d.processed) :
    (expansion plan visit t).run d = (record (.expanded t)).run d := by
  simp [expansion, markProcessed, EStateM.run_bind, ht]

theorem run_expansion_of_notMem (ht : t ∉ d.processed) :
    (expansion plan visit t).run d = (do
      buildAfter plan visit plan.options.grouping t (plan.relations.directSuccessors t)
      record (.expanded t)).run { d with processed := d.processed ++ [t] } := by
  simp [expansion, markProcessed, EStateM.run_bind, ht]

/-- Two numbers that both suffice make the same expansion. -/
theorem expandWithin_congr (h : Suffices plan.relations d.processed t fuel)
    (h' : Suffices plan.relations d.processed t fuel') :
    (expandWithin plan fuel t).run d = (expandWithin plan fuel' t).run d := by
  induction fuel generalizing fuel' d t with
  | zero => exact absurd h.pos (Nat.lt_irrefl 0)
  | succ fuel ih =>
      obtain ⟨fuel', rfl⟩ := Nat.exists_eq_succ_of_ne_zero h'.pos.ne'
      change (expansion plan (expandWithin plan fuel) t).run d =
        (expansion plan (expandWithin plan fuel') t).run d
      by_cases hdone : t ∈ d.processed
      · rw [run_expansion_of_mem hdone, run_expansion_of_mem hdone]
      · rw [run_expansion_of_notMem hdone, run_expansion_of_notMem hdone]
        have hkept := kept_marked (d.processed ++ [t])
        have hmaintains := maintains_expandWithin hkept (permits_all plan) fuel
        have hbuild := maintains_buildAfter hkept (permits_all plan).joins hmaintains
          ((permits_all plan).follow t)
        have hvisits : ∀ s ∈ plan.relations.directSuccessors t, StandsIn
            (fun since => d.processed ++ [t] ⊆ since.processed) (expandWithin plan fuel)
            (expandWithin plan fuel') s := fun s hs =>
          ⟨fun since hsince => ih (h.next hdone hsince hs) (h'.next hdone hsince hs), hmaintains s⟩
        exact (agree_buildAfter hkept hvisits).bind hbuild (fun _ => .refl _ _) _ (List.Subset.refl _)

theorem expandWithin_eq_expand (h : plan.relations.edges.length + 2 ≤ fuel) :
    expandWithin plan fuel t = expand plan t :=
  funext fun _ => expandWithin_congr (suffices_of_le h) (suffices_of_le (Nat.le_refl _))

/-- **An expansion is not cut short.** Whatever the relations are, with or without cycles, and whatever the
draft, to expand an activity is to mark it, to expand what follows it, and to enter that into the log. -/
theorem expand_recursion (plan : SynthesisPlan) (t : String) :
    expand plan t = expansion plan (expand plan) t :=
  calc expand plan t
    _ = expandWithin plan (plan.relations.edges.length + 3) t :=
      (expandWithin_eq_expand (Nat.le_succ _)).symm
    _ = expansion plan (expand plan) t := rfl

end Drafting

namespace ProcessGraph

variable {g : ProcessGraph} {seen : List String} {id : String} {fuel fuel' : Nat}

/-! ## The walk along joins -/

/-- How many nodes a walk has not seen. -/
def unseen (g : ProcessGraph) (seen : List String) : Nat :=
  g.ids.countP (· ∉ seen)

theorem unseen_le (seen : List String) : g.unseen seen ≤ g.nodes.length :=
  List.countP_le_length.trans_eq (List.length_map _)

theorem mem_ids_of_isJoin (h : g.isJoin id = true) : id ∈ g.ids := by
  rw [isJoin, node?] at h
  cases hfound : g.nodes.find? (·.id == id) with
  | none => simp [hfound] at h
  | some node =>
      exact mem_ids.mpr ⟨node, List.mem_of_find?_eq_some hfound, by simpa using List.find?_some hfound⟩

/-- Going on to a join leaves fewer of them. -/
theorem unseen_cons_lt (h : (g.isJoin id && !seen.contains id) = true) :
    g.unseen (id :: seen) < g.unseen seen := by
  obtain ⟨hjoin, hnew⟩ : g.isJoin id = true ∧ id ∉ seen := by simpa using h
  refine countP_lt (mem_ids_of_isJoin hjoin) (fun other _ hother => ?_) (by simpa using hnew) (by simp)
  simp only [List.mem_cons, not_or, decide_eq_true_eq] at hother ⊢
  exact hother.2

/-- A walk that may go on to as many joins as there are nodes not seen gains nothing by one more. -/
theorem followJoinsFrom_succ (h : g.unseen seen ≤ fuel) :
    g.followJoinsFrom seen id (fuel + 1) = g.followJoinsFrom seen id fuel := by
  induction fuel generalizing seen id with
  | zero =>
      unfold followJoinsFrom
      split
      · rename_i next _
        refine if_neg fun hnext => ?_
        have hless := unseen_cons_lt hnext
        omega
      · rfl
  | succ fuel ih =>
      rw [followJoinsFrom, followJoinsFrom]
      split
      · rename_i next _
        refine if_ctx_congr .rfl (fun hnext => ih ?_) fun _ => rfl
        have hless := unseen_cons_lt hnext
        omega
      · rfl

/-- **The walk along joins is not cut short.** Whatever the graph, a walk that counts down the number of the
nodes goes on as long as a single flow leads into a join that it has not seen. -/
theorem followJoinsFrom_recursion (g : ProcessGraph) (seen : List String) (id : String) :
    g.followJoinsFrom seen id g.nodes.length =
      match g.outgoing id with
      | [next] =>
          if g.isJoin next && !seen.contains next then
            g.followJoinsFrom (next :: seen) next g.nodes.length
          else id
      | _ => id :=
  (followJoinsFrom_succ (unseen_le seen)).symm

end ProcessGraph

end ActivityMatrix
