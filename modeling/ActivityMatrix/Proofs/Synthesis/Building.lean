import ActivityMatrix.Proofs.RelationSets.Validated
import ActivityMatrix.Synthesis.Convergence
import ActivityMatrix.Proofs.Synthesis.Rewiring
import Mathlib.Data.Set.Insert

/-!
# The invariant of the expansion

The expansion of activities is a depth-first walk along the direct successors. At every moment some
nodes are open: the start event or the activities on the way to the current one, and the splits
behind them that are being filled. `Building r A d` says what holds of a draft while the nodes of
`A` are open.

* No flow leads to an open node from outside (`sealed`), so no node behind the open ones leads back
  to them, and a flow out of an open node is never refused for closing a cycle.
* An activity that a flow enters or leaves is expanded already (`of_entered`, `of_left`), so an
  activity that is about to be expanded is not connected with anything.
* All direct successors of an activity that is done are done themselves, and none of them is lost
  (`closed`): the activity leads to it, or a flow that was refused is pending, from the activity or
  from a split that stems from it.
* Every refused flow that is pending comes from a join, or from such an activity or split
  (`pending_origin`).
* An activity that starts the process is entered only from what stems from the start event
  (`first_entered`), and no flow into such an activity is ever refused (`pending_later`): it is entered
  when its turn comes among the targets of the start event, and not before.
* A flow leaves a node only if the node is an activity, the start event, or a gateway that a flow
  enters (`rooted`), and the same goes for open nodes and for pending flows.
* Nothing is reported but ends of branches that lie behind their meeting point (`reports`).
* Every join in front of a meeting point left what it should when it was entered into the log (`log`,
  `Joins`).

What a step may change is `Progress`: paths are never lost, and no flow is added into a split that is there
already, nor into a node that is to be spared. These are the open nodes and the activities that start the
process and are no targets of the step (`Spared`).
-/

namespace ActivityMatrix

open ActivityMatrix.Digraph

/-- A report says that the end of a branch lies behind the meeting point. -/
def Diagnostic.IsBehindPoint (report : Diagnostic) : Prop :=
  ∃ exit point, report = .behindPoint exit point

namespace ProcessGraph

variable {g g' : ProcessGraph} {names : List String} {a b s t : String}

/-- An id belongs to a gateway that parts flows. -/
def HasSplit (g : ProcessGraph) (id : String) : Prop :=
  ∃ node ∈ g.nodes, node.id = id ∧ node.isSplit = true

/-- An id belongs to a gateway that brings flows together. -/
def HasJoin (g : ProcessGraph) (id : String) : Prop :=
  ∃ node ∈ g.nodes, node.id = id ∧ node.isJoin = true

/-- A node is an activity, or a split that is entered once, from a node that stems from the activity. -/
inductive Stems (g : ProcessGraph) (a : String) : String → Prop
  | self : Stems g a a
  | split {s u : String} (hsplit : g.HasSplit s) (hentered : (u, s) ∈ g.flows)
      (honly : ∀ v, (v, s) ∈ g.flows → v = u) (hstems : Stems g a u) : Stems g a s

/-- An activity leads to the splits that stem from it. -/
theorem Stems.leads (h : g.Stems a s) : s = a ∨ g.Leads a s := by
  induction h with
  | self => exact .inl rfl
  | split _ hu _ _ ih =>
      rcases ih with rfl | hau
      · exact .inr (.single hu)
      · exact .inr (hau.tail hu)

theorem HasSplit.mem_ids (h : g.HasSplit s) : s ∈ g.ids := by
  obtain ⟨node, hnode, hid, -⟩ := h
  exact ProcessGraph.mem_ids.mpr ⟨node, hnode, hid⟩

theorem HasSplit.notMem_names (h : g.HasSplit s) (hg : g.Sound names) : s ∉ names := by
  obtain ⟨node, hnode, rfl, hsplit⟩ := h
  have hgate := (hg.fits node hnode).isGateway_iff.mp (Node.isGateway_of_isSplit hsplit)
  exact fun hmem => hgate (by simp [hmem])

/-- What leads to a split that stems from an activity leads to the activity, unless it is such a
split itself. -/
theorem Stems.leads_back (h : g.Stems a s) (hg : g.Sound names) (hb : b ∈ names)
    (hbs : g.Leads b s) : b = a ∨ g.Leads b a := by
  induction h with
  | self => exact .inr hbs
  | split _ _ honly hstems ih =>
      obtain ⟨u, hbu, hu⟩ := hbs.exists_last
      obtain rfl := honly u hu
      -- the last node before the split stems from the activity, too
      rcases hbu with rfl | hbu
      · cases hstems with
        | self => exact .inl rfl
        | split hsplit => exact absurd hb (hsplit.notMem_names hg)
      · exact ih hbu

/-- Nothing is on the way to what stems from the start event but what stems from it, too. -/
theorem Stems.of_onWay (h : g.Stems startEventId s) (hg : g.Sound names)
    (ha : OnWay g.flows s a) : g.Stems startEventId a := by
  refine ha.of_closed (fun u v huv hv => ?_) h
  cases hv with
  | self => exact absurd huv (hg.into_start u)
  | split _ _ honly hstems => exact honly u huv ▸ hstems

/-- Nothing precedes a node, and nothing comes together on the way to it. -/
structure Foremost (names : List String) (g : ProcessGraph) (a : String) : Prop where
  unpreceded : ∀ b ∈ names, ¬ g.Leads b a
  unjoined : Unjoined g.flows a

/-- An activity that is entered from what stems from the start event is foremost. -/
theorem foremost_of_stems (hg : g.Sound names) (ha : a ∈ names)
    (hstems : ∀ u, (u, a) ∈ g.flows → g.Stems startEventId u) : g.Foremost names a := by
  have hway : ∀ {v}, g.Leads v a → g.Stems startEventId v := by
    intro v hva
    obtain ⟨u, hvu, hu⟩ := hva.exists_last
    exact (hstems u hu).of_onWay hg (hvu.imp_left Eq.symm)
  refine ⟨fun b hb hba => ?_, fun v hv s t hs ht => ?_⟩
  · cases hway hba with
    | self => exact hg.start_notMem hb
    | split hsplit => exact hsplit.notMem_names hg hb
  · rcases hv with rfl | hva
    · exact hg.single_in ha hs ht
    · cases hway hva with
      | self => exact absurd hs (hg.into_start s)
      | split _ _ honly => exact (honly s hs).trans (honly t ht).symm

/-- What is foremost stays so, if new flows only go into new nodes, the end event, and other
activities. -/
theorem Foremost.of_into (h : g.Foremost names a) (hg : g.Sound names) (ha : a ∈ names)
    (hinto : ∀ u, ∀ v ∈ g.ids, v ≠ endEventId → (v ∈ names → v = a) → (u, v) ∈ g'.flows →
      (u, v) ∈ g.flows) : g'.Foremost names a := by
  have hway : ∀ u v, OnWay g.flows a v → (u, v) ∈ g'.flows → (u, v) ∈ g.flows := by
    rintro u v (rfl | hva)
    · exact hinto u v (hg.known v (by simp [ha])) (fun heq => hg.end_notMem (heq ▸ ha)) fun _ => rfl
    · obtain ⟨w, hvw, -⟩ := hva.exists_first
      exact hinto u v (hg.source_mem hvw) (fun heq => hg.out_of_end w (heq ▸ hvw))
        fun hv => absurd hva (h.unpreceded v hv)
  exact ⟨fun b hb hba => h.unpreceded b hb (hba.of_into hway), h.unjoined.of_into hway⟩

end ProcessGraph

namespace Drafting

open ProcessGraph

variable {r : RelationSets} {A B : Set String} {d d' d'' : Draft} {a b s t : String}

/-! ## What a step may change -/

/-- A step loses no path, no expanded activity, no pending flow and no entry of the log, and adds no
flow into an open node or into a split that was there. -/
structure Progress (A : Set String) (d d' : Draft) : Prop where
  nodes : d.graph.nodes ⊆ d'.graph.nodes
  leads : ∀ {a b}, d.graph.Leads a b → d'.graph.Leads a b
  fixed : ∀ {u v}, v ∈ A ∨ d.graph.HasSplit v → (u, v) ∈ d'.graph.flows → (u, v) ∈ d.graph.flows
  processed : d.processed ⊆ d'.processed
  pending : d.pending ⊆ d'.pending
  log : d.log ⊆ d'.log

namespace Progress

theorem refl (A : Set String) (d : Draft) : Progress A d d :=
  ⟨List.Subset.refl _, id, fun _ => id, List.Subset.refl _, List.Subset.refl _, List.Subset.refl _⟩

variable (h : Progress A d d')
include h

theorem hasSplit (hs : d.graph.HasSplit s) : d'.graph.HasSplit s := by
  obtain ⟨node, hnode, hid, hsplit⟩ := hs
  exact ⟨node, h.nodes hnode, hid, hsplit⟩

theorem trans (h' : Progress A d' d'') : Progress A d d'' where
  nodes := List.Subset.trans h.nodes h'.nodes
  leads hab := h'.leads (h.leads hab)
  fixed hv hflow := h.fixed hv (h'.fixed (hv.imp_right h.hasSplit) hflow)
  processed := List.Subset.trans h.processed h'.processed
  pending := List.Subset.trans h.pending h'.pending
  log := List.Subset.trans h.log h'.log

theorem mono (hsub : B ⊆ A) : Progress B d d' :=
  { h with fixed := fun hv => h.fixed (hv.imp_left fun hmem => hsub hmem) }

theorem mem_ids (ha : a ∈ d.graph.ids) : a ∈ d'.graph.ids := by
  obtain ⟨node, hnode, hid⟩ := ProcessGraph.mem_ids.mp ha
  exact ProcessGraph.mem_ids.mpr ⟨node, h.nodes hnode, hid⟩

/-- A node that was entered stays so. -/
theorem entered (ha : ∃ u, (u, a) ∈ d.graph.flows) : ∃ u, (u, a) ∈ d'.graph.flows :=
  entered_of_leads h.leads ha

theorem stems (hs : d.graph.Stems a s) : d'.graph.Stems a s := by
  induction hs with
  | self => exact .self
  | split hsplit hu honly _ ih =>
      obtain ⟨v, hv⟩ := h.entered ⟨_, hu⟩
      obtain rfl := honly v (h.fixed (.inr hsplit) hv)
      exact .split (h.hasSplit hsplit) hv (fun w hw => honly w (h.fixed (.inr hsplit) hw)) ih

end Progress

/-- The nodes that nothing is to enter when some targets are put behind an open node: the open nodes, and
the activities that start the process and are no targets. -/
def Spared (r : RelationSets) (A : Set String) (targets : List String) : Set String :=
  {v | v ∈ A ∨ v ∈ r.startActivities ∧ v ∉ targets}

/-- A step that puts fewer targets behind more open nodes spares more. -/
theorem Progress.spares {targets fewer : List String} (h : Progress (Spared r A fewer) d d')
    (hsub : B ⊆ A) (hfewer : fewer ⊆ targets) : Progress (Spared r B targets) d d' :=
  h.mono fun _ hv => hv.imp (fun hmem => hsub hmem)
    (And.imp_right fun hnew hmem => hnew (hfewer hmem))

theorem Progress.of_spared {targets : List String} (h : Progress (Spared r A targets) d d') :
    Progress A d d' :=
  h.mono fun _ hv => .inl hv

/-! ## Where a direct successor is -/

/-- A flow from an activity to another one is in the graph or pending: the activity leads to the
other one, or a flow from it, or from a split that stems from it, was refused. -/
def Accounted (d : Draft) (a b : String) : Prop :=
  d.graph.Leads a b ∨ ∃ s, d.graph.Stems a s ∧ (s, b) ∈ d.pending

/-- An activity was expanded and entered, and is accounted for from another one. -/
structure Placed (d : Draft) (a b : String) : Prop where
  processed : b ∈ d.processed
  entered : ∃ u, (u, b) ∈ d.graph.flows
  accounted : Accounted d a b

theorem Accounted.progress (h : Accounted d a b) (hprogress : Progress A d d') :
    Accounted d' a b := by
  rcases h with hab | ⟨s, hs, hsb⟩
  · exact .inl (hprogress.leads hab)
  · exact .inr ⟨s, hprogress.stems hs, hprogress.pending hsb⟩

theorem Placed.progress (h : Placed d a b) (hprogress : Progress A d d') : Placed d' a b where
  processed := hprogress.processed h.processed
  entered := hprogress.entered h.entered
  accounted := h.accounted.progress hprogress

/-! ## Where a refused flow comes from -/

/-- An activity follows the start event, or is a direct successor. -/
def Follows (r : RelationSets) (a b : String) : Prop :=
  a = startEventId ∨ r.Direct a b

/-- What starts the process follows the start event only. -/
theorem Follows.eq_start (h : Follows r a b) (hb : b ∈ r.startActivities) : a = startEventId :=
  h.resolve_right fun hab => (RelationSets.mem_startActivities.mp hb).2 a hab.mem_edges

/-- A flow comes from a join, or stems from a node that its target follows. -/
def Originates (r : RelationSets) (g : ProcessGraph) (s t : String) : Prop :=
  g.HasJoin s ∨ ∃ a, g.Stems a s ∧ Follows r a t

theorem Originates.progress (h : Originates r d.graph s t) (hprogress : Progress A d d') :
    Originates r d'.graph s t := by
  rcases h with ⟨node, hnode, hjoin⟩ | ⟨a, hs, ha⟩
  · exact .inl ⟨node, hprogress.nodes hnode, hjoin⟩
  · exact .inr ⟨a, hprogress.stems hs, ha⟩

/-! ## What is entered into the log -/

/-- What a new join in front of a meeting point leaves, from the graph before it: just the exits enter
it, and the point is entered from it alone; or one flow from outside of the branches enters the point as
before, and the flow from the join to the point is pending. -/
structure Joins (before after : ProcessGraph) (branches : List (List String)) (point join : String)
    (exits : List String) (pending : List Flow) : Prop where
  fresh : join ∉ before.ids
  isJoin : after.HasJoin join
  exits_ne : exits ≠ []
  entered : ∀ a, (a, join) ∈ after.flows ↔ a ∈ exits
  meets : after.incoming point = [join] ∨ ∃ feeder, feeder ∉ before.scope branches.flatten ∧
    before.incoming point = [feeder] ∧ after.incoming point = [feeder] ∧ (join, point) ∈ pending

/-- What the expansion may enter into the log, with the graph after it: joins that leave what they should,
but no flow that is passed over. -/
def Expands (after : ProcessGraph) : SynthesisStep → Prop
  | .joined before branches point join exits pending =>
      Joins before after branches point join exits pending
  | .passedOver _ _ => False
  | _ => True

/-! ## The invariant -/

/-- What holds of a draft while the nodes of `A` are open. -/
structure Building (r : RelationSets) (A : Set String) (d : Draft) : Prop where
  sound : d.graph.Sound r.order
  open_mem : ∀ {v}, v ∈ A → v ∈ d.graph.ids ∧ v ≠ endEventId
  open_processed : ∀ {v}, v ∈ A → v ∈ r.order → v ∈ d.processed
  sealed : ∀ {u v}, (u, v) ∈ d.graph.flows → v ∈ A → u ∈ A
  processed_mem : ∀ {a}, a ∈ d.processed → a ∈ r.order
  of_entered : ∀ {u a}, (u, a) ∈ d.graph.flows → a ∈ r.order → a ∈ d.processed
  of_left : ∀ {a v}, (a, v) ∈ d.graph.flows → a ∈ r.order → a ∈ d.processed
  closed : ∀ {a b}, a ∈ d.processed → a ∉ A → r.Direct a b → b ∉ A ∧ Placed d a b
  pending_source : ∀ {s t}, (s, t) ∈ d.pending →
    s ∈ d.graph.ids ∧ s ≠ endEventId ∧ s ≠ t ∧ (s ∈ r.order → s ∈ d.processed)
  pending_target : ∀ {s t}, (s, t) ∈ d.pending → t ∈ r.order
  pending_unique : ∀ {s t t'}, s ∈ r.order → (s, t) ∈ d.pending → (s, t') ∈ d.pending → t = t'
  pending_origin : ∀ {s t}, (s, t) ∈ d.pending → Originates r d.graph s t
  pending_later : ∀ {s t}, (s, t) ∈ d.pending → t ∉ r.startActivities
  first_entered : ∀ {u a}, (u, a) ∈ d.graph.flows → a ∈ r.startActivities →
    d.graph.Stems startEventId u
  rooted : d.graph.Rooted r.order
  open_fed : ∀ {v}, v ∈ A → d.graph.Fed r.order v
  pending_fed : ∀ {s t}, (s, t) ∈ d.pending → d.graph.Fed r.order s
  reports : ∀ report ∈ d.diagnostics, report.IsBehindPoint
  log : ∀ entry ∈ d.log, (∀ {a b}, entry.graph.Leads a b → d.graph.Leads a b) ∧
    Expands entry.graph entry.step

namespace Building

/-- The start activities do not matter, and neither does a report of the one kind. -/
theorem congr (h : Building r A d) (hgraph : d'.graph = d.graph)
    (hprocessed : d'.processed = d.processed) (hpending : d'.pending = d.pending)
    (hreports : ∀ report ∈ d'.diagnostics, report.IsBehindPoint)
    (hlog : d'.log = d.log) : Building r A d' := by
  obtain ⟨graph, processed, pending, _, _, log⟩ := d'
  subst hgraph hprocessed hpending hlog
  exact
    { h with
      reports := hreports
      closed := fun ha hopen hab => ⟨(h.closed ha hopen hab).1,
        { (h.closed ha hopen hab).2 with }⟩ }

variable (h : Building r A d)
include h

theorem target_mem_ids (ht : t ∈ r.order) : t ∈ d.graph.ids :=
  h.sound.known t (by simp [ht])

/-- Nothing outside leads to an open node. -/
theorem mem_of_leads (hab : d.graph.Leads a b) (hb : b ∈ A) : a ∈ A :=
  hab.mem_of_closed (fun _ _ hflow hv => h.sealed hflow hv) hb

/-- What an activity that is done precedes is done, and entered. -/
theorem done_of_leads (hr : Acyclic r.edges) (ha : a ∈ d.processed) (hopen : a ∉ A)
    (hab : Leads r.edges a b) : b ∈ d.processed ∧ b ∉ A :=
  RelationSets.of_leads_of_direct (p := fun x => x ∈ d.processed ∧ x ∉ A) hr
    (fun _ _ hx hxy => ⟨(h.closed hx.1 hx.2 hxy).2.processed, (h.closed hx.1 hx.2 hxy).1⟩) hab
    ⟨ha, hopen⟩

/-! ## Opening and closing nodes -/

/-- A node that is no activity is opened when it is entered from open nodes only. -/
theorem openNode {v : String} (hv : v ∈ d.graph.ids) (hend : v ≠ endEventId) (hname : v ∉ r.order)
    (hentered : ∀ u, (u, v) ∈ d.graph.flows → u ∈ A) (hfed : d.graph.Fed r.order v) :
    Building r (insert v A) d :=
  { h with
    open_fed := by
      rintro w (rfl | hw)
      · exact hfed
      · exact h.open_fed hw
    open_mem := by
      rintro w (rfl | hw)
      · exact ⟨hv, hend⟩
      · exact h.open_mem hw
    open_processed := by
      rintro w (rfl | hw) hw'
      · exact absurd hw' hname
      · exact h.open_processed hw hw'
    sealed := by
      rintro u w hflow (rfl | hw)
      · exact .inr (hentered u hflow)
      · exact .inr (h.sealed hflow hw)
    closed := by
      intro a b ha hopen hab
      obtain ⟨hb, hplaced⟩ := h.closed ha (fun hmem => hopen (.inr hmem)) hab
      refine ⟨?_, hplaced⟩
      rintro (rfl | hmem)
      · exact hname (h.processed_mem hplaced.processed)
      · exact hb hmem }

/-- An activity that is connected with nothing is opened and marked as expanded. -/
theorem openActivity (ht : t ∈ r.order) (hnew : t ∉ d.processed) :
    Building r (insert t A) { d with processed := d.processed ++ [t] } where
  sound := h.sound
  open_mem := by
    rintro w (rfl | hw)
    · exact ⟨h.target_mem_ids ht, fun heq => h.sound.end_notMem (heq ▸ ht)⟩
    · exact h.open_mem hw
  open_processed := by
    rintro w (rfl | hw) hw'
    · exact List.mem_append_right _ (.head _)
    · exact List.mem_append_left _ (h.open_processed hw hw')
  sealed := by
    rintro u w hflow (rfl | hw)
    -- only what was expanded is entered
    · exact absurd (h.of_entered hflow ht) hnew
    · exact .inr (h.sealed hflow hw)
  processed_mem ha := by
    rcases List.mem_append.mp ha with ha | ha
    · exact h.processed_mem ha
    · exact List.mem_singleton.mp ha ▸ ht
  of_entered hflow ha := List.mem_append_left _ (h.of_entered hflow ha)
  of_left hflow ha := List.mem_append_left _ (h.of_left hflow ha)
  closed := by
    intro a b ha hopen hab
    have hat : a ≠ t := fun heq => hopen (.inl heq)
    have ha : a ∈ d.processed := by simpa [hat] using ha
    obtain ⟨hb, hplaced⟩ := h.closed ha (fun hmem => hopen (.inr hmem)) hab
    refine ⟨?_, { hplaced with processed := List.mem_append_left _ hplaced.processed }⟩
    rintro (rfl | hmem)
    · exact hnew hplaced.processed
    · exact hb hmem
  pending_source hs := by
    obtain ⟨hmem, hend, hne, hprocessed⟩ := h.pending_source hs
    exact ⟨hmem, hend, hne, fun hname => List.mem_append_left _ (hprocessed hname)⟩
  pending_target := h.pending_target
  pending_unique := h.pending_unique
  pending_origin := h.pending_origin
  pending_later := h.pending_later
  first_entered := h.first_entered
  rooted := h.rooted
  open_fed := by
    rintro w (rfl | hw)
    · exact .inl ht
    · exact h.open_fed hw
  pending_fed := h.pending_fed
  reports := h.reports
  log := h.log

/-- Nodes are closed again when the rest is sealed without them and the direct successors of the
activities among them are placed. -/
theorem close (hsub : B ⊆ A) (hsealed : ∀ {u v}, (u, v) ∈ d.graph.flows → v ∈ B → u ∈ B)
    (hclosed : ∀ {a b}, a ∈ d.processed → a ∈ A → a ∉ B → r.Direct a b → b ∉ B ∧ Placed d a b) :
    Building r B d :=
  { h with
    open_mem := fun hv => h.open_mem (hsub hv)
    open_processed := fun hv => h.open_processed (hsub hv)
    open_fed := fun hv => h.open_fed (hsub hv)
    sealed := hsealed
    closed := by
      intro a b ha hopen hab
      by_cases hmem : a ∈ A
      · exact hclosed ha hmem hopen hab
      · obtain ⟨hb, hplaced⟩ := h.closed ha hmem hab
        exact ⟨fun hbB => hb (hsub hbB), hplaced⟩ }

/-! ## Changes that keep the invariant -/

/-- Nothing that was placed is lost by a step that keeps the list of expanded activities. -/
theorem closed_of_progress (hprogress : Progress B d d') (hprocessed : d'.processed = d.processed)
    {a b : String} (ha : a ∈ d'.processed) (hopen : a ∉ A) (hab : r.Direct a b) :
    b ∉ A ∧ Placed d' a b := by
  obtain ⟨hb, hplaced⟩ := h.closed (hprocessed ▸ ha) hopen hab
  exact ⟨hb, hplaced.progress hprogress⟩

/-- A flow that the guard lets pass, from an open node into an expanded activity. -/
theorem insertFlow (hadd : d.graph.canAddFlow s t = true) (hs : s ∈ A) (ht : t ∈ d.processed)
    (hfirst : t ∈ r.startActivities → d.graph.Stems startEventId s)
    (hprogress : Progress B d { d with graph := d.graph.insertFlow s t }) :
    Building r A { d with graph := d.graph.insertFlow s t } where
  sound := by
    refine h.sound.insertFlow hadd (h.open_mem hs).2 fun heq => ?_
    exact h.sound.start_notMem (heq ▸ h.processed_mem ht)
  open_mem hv := h.open_mem hv
  open_processed := h.open_processed
  -- the new flow starts at an open node, so no flow leads from a closed node into an open one
  sealed := by
    intro u v hflow hv
    rcases mem_flows_insertFlow.mp hflow with hflow | ⟨rfl, rfl⟩
    · exact h.sealed hflow hv
    · exact hs
  processed_mem := h.processed_mem
  of_entered := by
    intro u a hflow ha
    rcases mem_flows_insertFlow.mp hflow with hflow | ⟨-, rfl⟩
    · exact h.of_entered hflow ha
    · exact ht
  of_left := by
    intro a v hflow ha
    rcases mem_flows_insertFlow.mp hflow with hflow | ⟨rfl, -⟩
    · exact h.of_left hflow ha
    · exact h.open_processed hs ha
  closed ha hopen hab := h.closed_of_progress hprogress rfl ha hopen hab
  pending_source := h.pending_source
  pending_target := h.pending_target
  pending_unique := h.pending_unique
  pending_origin hst := (h.pending_origin hst).progress hprogress
  pending_later := h.pending_later
  first_entered := by
    intro u a hflow ha
    refine hprogress.stems ?_
    rcases mem_flows_insertFlow.mp hflow with hflow | ⟨rfl, rfl⟩
    · exact h.first_entered hflow ha
    · exact hfirst ha
  rooted := by
    intro u v hflow
    rcases mem_flows_insertFlow.mp hflow with hflow | ⟨rfl, -⟩
    · exact (h.rooted hflow).of_leads hprogress.leads
    · exact (h.open_fed hs).of_leads hprogress.leads
  open_fed hv := (h.open_fed hv).of_leads hprogress.leads
  pending_fed hst := (h.pending_fed hst).of_leads hprogress.leads
  reports := h.reports
  log entry hentry := by
    obtain ⟨hleads, hstep⟩ := h.log entry hentry
    exact ⟨fun hab => hprogress.leads (hleads hab), hstep⟩

/-- A flow into an activity that does not start the process is kept for later. -/
theorem keepPending (hs : s ∈ d.graph.ids) (hend : s ≠ endEventId) (hne : s ≠ t)
    (ht : t ∈ r.order) (hlater : t ∉ r.startActivities) (horigin : Originates r d.graph s t) (hfed : d.graph.Fed r.order s)
    (hunique : s ∈ r.order → s ∈ d.processed ∧ ∀ t', (s, t') ∉ d.pending) :
    Building r A { d with pending := d.pending ++ [(s, t)] } :=
  { h with
    closed := by
      intro a b ha hopen hab
      obtain ⟨hb, hplaced⟩ := h.closed ha hopen hab
      refine ⟨hb, hplaced.processed, hplaced.entered, hplaced.accounted.imp_right ?_⟩
      exact fun ⟨s, hs, hsb⟩ => ⟨s, hs, List.mem_append_left _ hsb⟩
    pending_source := by
      intro s' t' hst
      rcases List.mem_append.mp hst with hst | hst
      · exact h.pending_source hst
      · obtain ⟨rfl, rfl⟩ := Prod.mk.inj (List.mem_singleton.mp hst)
        exact ⟨hs, hend, hne, fun hname => (hunique hname).1⟩
    pending_target := by
      intro s' t' hst
      rcases List.mem_append.mp hst with hst | hst
      · exact h.pending_target hst
      · obtain ⟨rfl, rfl⟩ := Prod.mk.inj (List.mem_singleton.mp hst)
        exact ht
    pending_unique := by
      intro s' t₁ t₂ hname h₁ h₂
      simp only [List.mem_append, List.mem_singleton, Prod.mk.injEq] at h₁ h₂
      -- the new flow is the only one from its source
      rcases h₁ with h₁ | ⟨rfl, rfl⟩ <;> rcases h₂ with h₂ | ⟨heq, rfl⟩
      · exact h.pending_unique hname h₁ h₂
      · exact absurd h₁ (heq ▸ (hunique (heq ▸ hname)).2 t₁)
      · exact absurd h₂ ((hunique hname).2 t₂)
      · rfl
    pending_origin := by
      intro s' t' hst
      rcases List.mem_append.mp hst with hst | hst
      · exact h.pending_origin hst
      · obtain ⟨rfl, rfl⟩ := Prod.mk.inj (List.mem_singleton.mp hst)
        exact horigin
    pending_later := by
      intro s' t' hst
      rcases List.mem_append.mp hst with hst | hst
      · exact h.pending_later hst
      · exact (Prod.mk.inj (List.mem_singleton.mp hst)).2 ▸ hlater
    pending_fed := by
      intro s' t' hst
      rcases List.mem_append.mp hst with hst | hst
      · exact h.pending_fed hst
      · exact (Prod.mk.inj (List.mem_singleton.mp hst)).1 ▸ hfed }

/-- An entry in the log. -/
theorem record {step : SynthesisStep} (hstep : Expands d.graph step) :
    Building r A { d with log := d.log ++ [⟨step, d.graph⟩] } :=
  { h with
    closed := fun ha hopen hab =>
      ⟨(h.closed ha hopen hab).1, { (h.closed ha hopen hab).2 with }⟩
    log := by
      intro entry hentry
      rcases List.mem_append.mp hentry with hentry | hentry
      · exact h.log entry hentry
      · obtain rfl := List.mem_singleton.mp hentry
        exact ⟨fun hab => hab, hstep⟩ }

/-- Nodes that nothing is to enter are nodes of the graph. -/
theorem mem_ids_of_mem_spared {targets : List String} {v : String} (hv : v ∈ Spared r A targets) :
    v ∈ d.graph.ids := by
  rcases hv with hv | ⟨hv, -⟩
  · exact (h.open_mem hv).1
  · exact h.target_mem_ids (RelationSets.mem_startActivities.mp hv).1

/-- No flow that is led through a new gateway goes into an open node, into a split, or into an activity
that starts the process. -/
theorem progress_of_reroutes {node : Node} {sources targets : List String}
    (hroute : Reroutes r.order node sources targets d d') (hfresh : node.id ∉ d.graph.ids)
    (htargets : ∀ t ∈ targets, t ∈ d.processed ∧ t ∉ Spared r A []) :
    Progress (Spared r A []) d d' where
  nodes := hroute.rerouted.nodes_subset
  leads := hroute.rerouted.leads
  fixed := by
    intro u v hfixed hflow
    have hmem : v ∈ d.graph.ids := hfixed.elim h.mem_ids_of_mem_spared HasSplit.mem_ids
    -- neither an open node nor a split is a target, so the flows into it are the old ones
    have htarget : v ∉ targets := by
      intro ht
      obtain ⟨hprocessed, hopen⟩ := htargets v ht
      rcases hfixed with hv | hsplit
      · exact hopen hv
      · exact hsplit.notMem_names h.sound (h.processed_mem hprocessed)
    have hne : v ≠ node.id := fun heq => hfresh (heq ▸ hmem)
    exact (hroute.rerouted.detour.mem_iff_of_notMem_targets htarget hne).mp hflow
  processed := by
    rw [hroute.rest]
    exact List.Subset.refl _
  pending := by
    rw [hroute.rest]
    exact List.Subset.refl _
  log := by
    rw [hroute.rest]
    exact List.Subset.refl _

/-- Flows that are led through a new gateway to expanded activities that are not open and do not start the
process. -/
theorem reroute {node : Node} {sources targets : List String}
    (hroute : Reroutes r.order node sources targets d d') (hfresh : node.id ∉ d.graph.ids)
    (hsources : ∀ s ∈ sources, (s ∈ r.order → s ∈ d.processed) ∧ d.graph.Fed r.order s)
    (htargets : ∀ t ∈ targets, t ∈ d.processed ∧ t ∉ Spared r A [])
    (hfeeds : targets ≠ [] → sources ≠ []) :
    Building r A d' ∧ Progress (Spared r A []) d d' := by
  -- the new gateway is no activity, so what is known of activities concerns old nodes
  have hvia : node.id ∉ r.order := fun hmem => hfresh (h.target_mem_ids hmem)
  have hdetour := hroute.rerouted.detour
  have hrest : d'.processed = d.processed ∧ d'.pending = d.pending ∧ d'.log = d.log := by
    rw [hroute.rest]
    exact ⟨rfl, rfl, rfl⟩
  have hreports : d'.diagnostics = d.diagnostics := by rw [hroute.rest]
  have hprogress := h.progress_of_reroutes hroute hfresh htargets
  refine ⟨?_, hprogress⟩
  exact
    { sound := hroute.sound
      open_mem := fun hv => ⟨hprogress.mem_ids (h.open_mem hv).1, (h.open_mem hv).2⟩
      open_processed := fun hv hname => hrest.1 ▸ h.open_processed hv hname
      sealed := fun hflow hv => h.sealed (hprogress.fixed (.inl (.inl hv)) hflow) hv
      processed_mem := fun ha => h.processed_mem (hrest.1 ▸ ha)
      of_entered := by
        intro u a hflow ha
        rw [hrest.1]
        by_cases htarget : a ∈ targets
        · exact (htargets a htarget).1
        · have hne : a ≠ node.id := fun heq => hvia (heq ▸ ha)
          exact h.of_entered ((hdetour.mem_iff_of_notMem_targets htarget hne).mp hflow) ha
      of_left := by
        intro a v hflow ha
        rw [hrest.1]
        rcases (hdetour a v).mp hflow with hold | ⟨hsource, -⟩ | ⟨rfl, -⟩
        · exact h.of_left hold.1 ha
        · exact (hsources a hsource).1 ha
        · exact absurd ha hvia
      closed := fun ha hopen hab => h.closed_of_progress hprogress hrest.1 ha hopen hab
      pending_source := by
        intro s t hst
        rw [hrest.2.1] at hst
        rw [hrest.1]
        obtain ⟨hs, hs'⟩ := h.pending_source hst
        exact ⟨hprogress.mem_ids hs, hs'⟩
      pending_target := fun hst => h.pending_target (hrest.2.1 ▸ hst)
      pending_unique := fun hname h₁ h₂ =>
        h.pending_unique hname (hrest.2.1 ▸ h₁) (hrest.2.1 ▸ h₂)
      pending_origin := fun hst => (h.pending_origin (hrest.2.1 ▸ hst)).progress hprogress
      pending_later := fun hst => h.pending_later (hrest.2.1 ▸ hst)
      first_entered := fun hflow ha => hprogress.stems
        (h.first_entered (hprogress.fixed (.inl (.inr ⟨ha, List.not_mem_nil⟩)) hflow) ha)
      rooted := hroute.rerouted.rooted h.rooted (fun s hs => (hsources s hs).2) hfeeds
      open_fed := fun hv => (h.open_fed hv).of_leads hprogress.leads
      pending_fed := fun hst => (h.pending_fed (hrest.2.1 ▸ hst)).of_leads hprogress.leads
      reports := hreports ▸ h.reports
      log := by
        intro entry hentry
        obtain ⟨hleads, hstep⟩ := h.log entry (hrest.2.2 ▸ hentry)
        exact ⟨fun hab => hprogress.leads (hleads hab), hstep⟩ }

end Building

/-! ## Progress of small changes -/

/-- A flow into an activity that is not open. -/
theorem progress_insertFlow (h : d.graph.Sound r.order) (ht : t ∈ r.order) (hopen : t ∉ A) :
    Progress A d { d with graph := d.graph.insertFlow s t } where
  nodes := List.Subset.refl _
  leads hab := hab.mono (List.subset_append_left _ _)
  fixed := by
    rintro u v (hv | hsplit) hflow <;>
      rcases mem_flows_insertFlow.mp hflow with hflow | ⟨-, rfl⟩
    · exact hflow
    · exact absurd hv hopen
    · exact hflow
    · exact absurd ht (hsplit.notMem_names h)
  processed := List.Subset.refl _
  pending := List.Subset.refl _
  log := List.Subset.refl _

/-- Changes that leave the graph alone and forget nothing. -/
theorem progress_of_graph_eq (hgraph : d'.graph = d.graph) (hprocessed : d.processed ⊆ d'.processed)
    (hpending : d.pending ⊆ d'.pending) (hlog : d.log ⊆ d'.log) : Progress A d d' where
  nodes := hgraph ▸ List.Subset.refl _
  leads hab := hgraph ▸ hab
  fixed _ hflow := hgraph ▸ hflow
  processed := hprocessed
  pending := hpending
  log := hlog

theorem progress_record (step : SynthesisStep) :
    Progress A d { d with log := d.log ++ [⟨step, d.graph⟩] } :=
  progress_of_graph_eq rfl (List.Subset.refl _) (List.Subset.refl _) (List.subset_append_left _ _)

end Drafting

end ActivityMatrix
