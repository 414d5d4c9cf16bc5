import ActivityMatrix.LabelledDigraph
import ActivityMatrix.Proofs.ProcessGraph.CallAfterCall

/-!
# Process graphs as labelled graphs and back

A labelled graph lists its edges by their sources. A process graph that is converted and read back
gets its flows in that order, which need not be the order in which they were added: the order of the
nodes decides, so flows change places, and with them the sources of a node. What stays is the order of
the flows that leave one node (`Guarded.outgoing_flowsBySource`).

No flow is lost on the way (`ofLabelled_toLabelled`). Every flow is asked for again by a guard that
sees only a part of the others, and what the guard refuses would be left out. It refuses none, whatever
the order: some of the flows of a guarded graph make a guarded graph (`Guarded.of_sublist`), and so do
all of them in another order (`Guarded.rearrange`).
-/

namespace ActivityMatrix.ProcessGraph

open ActivityMatrix.Digraph

variable {g : ProcessGraph} {node : Node} {s t : String}

/-! ## Members by key -/

section

variable {α κ : Type} [DecidableEq κ] {keys : List κ} {key : κ} {f : α → κ} {l : List α}

/-- Of members that are listed by their keys those with one key stand in the order of the list. -/
theorem filter_flatMap_filter (hkeys : keys.Nodup) :
    (keys.flatMap fun k => l.filter (f · = k)).filter (f · = key) =
      if key ∈ keys then l.filter (f · = key) else [] := by
  induction keys with
  | nil => rfl
  | cons first keys ih =>
      obtain ⟨hfirst, hkeys⟩ := List.nodup_cons.mp hkeys
      rw [List.flatMap_cons, List.filter_append, ih hkeys, List.filter_filter]
      by_cases hkey : key = first
      · subst hkey
        simp [hfirst]
      · have hnone : l.filter (fun a => decide (f a = key) && decide (f a = first)) = [] := by
          apply List.filter_eq_nil_iff.mpr
          intro a _ hboth
          simp only [Bool.and_eq_true, decide_eq_true_eq] at hboth
          exact hkey (hboth.1.symm.trans hboth.2)
        simp [hnone, hkey]

theorem perm_flatMap_filter (hkeys : keys.Nodup) (hl : l.Nodup) (hmem : ∀ a ∈ l, f a ∈ keys) :
    (keys.flatMap fun k => l.filter (f · = k)).Perm l := by
  have hnodup : (keys.flatMap fun k => l.filter (f · = k)).Nodup := by
    apply List.nodup_flatMap.mpr
    refine ⟨fun k _ => hl.filter _, hkeys.imp fun hne a ha ha' => hne ?_⟩
    have hk := of_decide_eq_true (List.mem_filter.mp ha).2
    exact hk.symm.trans (of_decide_eq_true (List.mem_filter.mp ha').2)
  refine (List.perm_ext_iff_of_nodup hnodup hl).mpr fun a => ?_
  simp only [List.mem_flatMap, List.mem_filter, decide_eq_true_eq]
  constructor
  · rintro ⟨_, -, ha, -⟩
    exact ha
  · intro ha
    exact ⟨f a, hmem a ha, ha, rfl⟩

end

/-! ## What is said of a process graph -/

/-- The flows by their sources, in the order of the nodes. -/
def flowsBySource (g : ProcessGraph) : List Flow :=
  g.ids.flatMap fun source => g.flows.filter (·.1 = source)

/-- Nodes added to a labelled graph. -/
def labelNodes (h : LabelledDigraph String NodeLabel String) (nodes : List Node) :
    LabelledDigraph String NodeLabel String :=
  nodes.foldl (fun h node => h.addNode NodeLabel.merge node.id (NodeLabel.ofNode node)) h

/-- Flows added to a labelled graph. -/
def labelFlows (h : LabelledDigraph String NodeLabel String) (flows : List Flow) :
    LabelledDigraph String NodeLabel String :=
  flows.foldl (fun h flow => h.addEdge {} flow (flowId flow)) h

theorem toLabelled_eq (g : ProcessGraph) : g.toLabelled = labelFlows (labelNodes {} g.nodes) g.flows :=
  rfl

theorem labelNodes_fresh (h : LabelledDigraph String NodeLabel String) (nodes : List Node)
    (hnodup : (h.nodes.keys ++ nodes.map Node.id).Nodup) :
    (labelNodes h nodes).nodes.entries =
        h.nodes.entries ++ nodes.map (fun node => (node.id, .ofNode node)) ∧
      (labelNodes h nodes).edges = h.edges := by
  induction nodes generalizing h with
  | nil => exact ⟨(List.append_nil _).symm, rfl⟩
  | cons node rest ih =>
      have hfresh : node.id ∉ h.nodes.keys := notMem_of_nodup_append_cons hnodup
      have hentries : (h.addNode NodeLabel.merge node.id (NodeLabel.ofNode node)).nodes.entries =
          h.nodes.entries ++ [(node.id, .ofNode node)] := Table.alterEntries_of_notMem hfresh
      have hkeys : (h.addNode NodeLabel.merge node.id (NodeLabel.ofNode node)).nodes.keys =
          h.nodes.keys ++ [node.id] := by
        rw [Table.keys, hentries, List.map_append]
        rfl
      obtain ⟨hnodes, hedges⟩ := ih (h.addNode NodeLabel.merge node.id (NodeLabel.ofNode node))
        (by simpa [hkeys] using hnodup)
      exact ⟨hnodes.trans (by rw [hentries, List.append_assoc]; rfl), hedges⟩

/-- An edge between nodes that are there adds no node. -/
theorem nodes_addEdge {h : LabelledDigraph String NodeLabel String} (hs : s ∈ h.nodes.keys)
    (ht : t ∈ h.nodes.keys) (label : String) : (h.addEdge {} (s, t) label).nodes = h.nodes := by
  simp only [LabelledDigraph.addEdge, List.foldl_cons, List.foldl_nil]
  rw [Table.alter_getD_of_mem hs, Table.alter_getD_of_mem ht]

theorem labelFlows_fresh (h : LabelledDigraph String NodeLabel String) {flows : List Flow}
    (hends : ∀ flow ∈ flows, flow.1 ∈ h.nodes.keys ∧ flow.2 ∈ h.nodes.keys)
    (hnodup : (h.edges.keys ++ flows).Nodup) :
    (labelFlows h flows).nodes = h.nodes ∧ (labelFlows h flows).edges.entries =
      h.edges.entries ++ flows.map fun flow => (flow, flowId flow) := by
  induction flows generalizing h with
  | nil => exact ⟨rfl, (List.append_nil _).symm⟩
  | cons flow rest ih =>
      obtain ⟨hs, ht⟩ := hends flow List.mem_cons_self
      have hnodes : (h.addEdge {} flow (flowId flow)).nodes = h.nodes := nodes_addEdge hs ht _
      have hfresh : flow ∉ h.edges.keys := notMem_of_nodup_append_cons hnodup
      have hentries : (h.addEdge {} flow (flowId flow)).edges.entries =
          h.edges.entries ++ [(flow, flowId flow)] := Table.entries_insert_of_notMem hfresh
      have hkeys : (h.addEdge {} flow (flowId flow)).edges.keys = h.edges.keys ++ [flow] :=
        Table.keys_insert_of_notMem hfresh
      obtain ⟨hsame, hedges⟩ := ih (h.addEdge {} flow (flowId flow))
        (fun other hother => hnodes ▸ hends other (List.mem_cons_of_mem _ hother))
        (by simpa [hkeys] using hnodup)
      exact ⟨hsame.trans hnodes, hedges.trans (by rw [hentries, List.append_assoc]; rfl)⟩

theorem Guarded.entries_toLabelled (h : Guarded g) :
    g.toLabelled.nodes.entries = g.nodes.map (fun node => (node.id, .ofNode node)) ∧
      g.toLabelled.edges.entries = g.flows.map fun flow => (flow, flowId flow) := by
  obtain ⟨hnodes, hnone⟩ := labelNodes_fresh {} g.nodes h.ids_nodup
  have hkeys : (labelNodes {} g.nodes).nodes.keys = g.ids := by
    rw [Table.keys, hnodes]
    simp [ids, Table.empty]
  have hends : ∀ flow ∈ g.flows, flow.1 ∈ (labelNodes {} g.nodes).nodes.keys ∧
      flow.2 ∈ (labelNodes {} g.nodes).nodes.keys := by
    rintro ⟨a, b⟩ hflow
    rw [hkeys]
    exact ⟨(h.joins hflow).1, (h.joins hflow).2.1⟩
  obtain ⟨hsame, hedges⟩ := labelFlows_fresh _ hends (by rw [hnone]; exact h.flows_nodup)
  rw [toLabelled_eq, hsame, hnodes, hedges, hnone]
  exact ⟨rfl, rfl⟩

/-- The edges of the labelled graph are the flows by their sources. -/
theorem Guarded.edgeList_toLabelled (h : Guarded g) :
    g.toLabelled.edgeList.map Prod.fst = g.flowsBySource := by
  obtain ⟨hnodes, hedges⟩ := h.entries_toLabelled
  have hkeys : g.toLabelled.nodes.keys = g.ids := by
    rw [Table.keys, hnodes]
    simp [ids]
  rw [LabelledDigraph.edgeList, hkeys, hedges, flowsBySource, List.map_flatMap]
  simp only [List.filter_map, List.map_map, Function.comp_def, List.map_id']

theorem perm_flowsBySource (h : Guarded g) : g.flowsBySource.Perm g.flows :=
  perm_flatMap_filter h.ids_nodup h.flows_nodup fun _ hflow => (h.joins hflow).1

/-! ## Nodes and flows added again -/

theorem nodeOfLabel_ofNode (node : Node) :
    nodeOfLabel node.id (NodeLabel.ofNode node) = .ok node := by
  obtain ⟨id, kind, name, role⟩ := node
  have hkind : NodeKind.ofTag? kind.tag = some kind := by
    match kind with
    | .task | .startEvent | .endEvent => decide
    | .gateway .exclusive | .gateway .parallel | .gateway .inclusive => decide
  simp [nodeOfLabel, NodeLabel.ofNode, hkind]

theorem withNode_of_fresh (hopen : g.frozen = false) (hfresh : node.id ∉ g.ids) :
    g.withNode node = g.insertNode node := by
  have hnone : g.node? node.id = none := List.find?_eq_none.mpr fun other hother heq =>
    hfresh (mem_ids.mpr ⟨other, hother, beq_iff_eq.mp heq⟩)
  simp [withNode, addNode, unlessFrozen, hopen, hnone, insertNode, Except.map, Except.toOption]

theorem foldl_withNode {nodes : List Node} (hopen : g.frozen = false)
    (hnodup : (g.ids ++ nodes.map Node.id).Nodup) :
    nodes.foldl withNode g = { g with nodes := g.nodes ++ nodes } := by
  induction nodes generalizing g with
  | nil => rw [List.foldl_nil, List.append_nil]
  | cons node rest ih =>
      have hfresh : node.id ∉ g.ids := notMem_of_nodup_append_cons hnodup
      have hnodup' : ((g.insertNode node).ids ++ rest.map Node.id).Nodup := by
        simpa [ids, insertNode] using hnodup
      rw [List.foldl_cons, withNode_of_fresh hopen hfresh, ih (g := g.insertNode node) hopen hnodup',
        insertNode, List.append_assoc]
      rfl

theorem withFlow_of_canAddFlow (hopen : g.frozen = false) (hadd : g.canAddFlow s t = true) :
    g.withFlow s t = g.insertFlow s t := by
  simp [withFlow, addFlow, unlessFrozen, hopen, hadd, insertFlow, Except.map, Except.toOption]

/-- No guard refuses a flow on the way to a guarded graph. -/
theorem foldl_withFlow {flows : List Flow} (hopen : g.frozen = false)
    (h : Guarded { g with flows := g.flows ++ flows }) :
    flows.foldl (fun g flow => g.withFlow flow.1 flow.2) g = { g with flows := g.flows ++ flows } := by
  induction flows generalizing g with
  | nil => rw [List.foldl_nil, List.append_nil]
  | cons flow rest ih =>
      obtain ⟨a, b⟩ := flow
      have hbefore : Guarded g := h.of_sublist (List.sublist_append_left _ _)
      have hafter : Guarded (g.insertFlow a b) :=
        h.of_sublist ((List.Sublist.cons_cons _ (List.nil_sublist rest)).append_left g.flows)
      have hnew : (a, b) ∉ g.flows := notMem_of_nodup_append_cons h.flows_nodup
      have hadd : g.canAddFlow a b = true := hbefore.canAddFlow_iff.mpr ⟨hnew, hafter⟩
      have hrest : Guarded { g.insertFlow a b with flows := (g.insertFlow a b).flows ++ rest } := by
        simpa [insertFlow] using h
      rw [List.foldl_cons, withFlow_of_canAddFlow hopen hadd, ih (g := g.insertFlow a b) hopen hrest,
        insertFlow, List.append_assoc]
      rfl

/-- Flows in another order make a guarded graph if cycles are not refused. -/
theorem Guarded.rearrange (h : Guarded g) {flows : List Flow} (hperm : flows.Perm g.flows) :
    Guarded { nodes := g.nodes, flows } where
  ids_nodup := h.ids_nodup
  flows_nodup := hperm.nodup_iff.mpr h.flows_nodup
  joins hflow := h.joins (hperm.mem_iff.mp hflow)
  single_out other hother htask :=
    ((hperm.filter _).map Prod.snd).length_eq.trans_le (h.single_out other hother htask)
  single_in other hother htask :=
    ((hperm.filter _).map Prod.fst).length_eq.trans_le (h.single_in other hother htask)
  acyclic hacyclic := by cases hacyclic

/-! ## There and back -/

theorem ofLabelled_eq_ok {h : LabelledDigraph String NodeLabel String} {nodes : List Node}
    (hnodes : h.nodes.entries = nodes.map fun node => (node.id, .ofNode node)) :
    ofLabelled id h = .ok ((h.edgeList.map Prod.fst).foldl (fun g flow => g.withFlow flow.1 flow.2)
      (nodes.foldl withNode {})) := by
  have hread : h.nodes.entries.mapM (fun (key, label) => nodeOfLabel (id key) label) = .ok nodes := by
    rw [hnodes, List.mapM_map]
    refine (congrArg (List.mapM · nodes) (funext nodeOfLabel_ofNode)).trans ?_
    exact (List.mapM_pure (f := fun node => node)).trans (congrArg Except.ok (List.map_id' nodes))
  rw [ofLabelled, hread, List.foldl_map]
  rfl

theorem Guarded.ofLabelled_eq (h : Guarded g) : ofLabelled id g.toLabelled =
    .ok { nodes := g.nodes, flows := g.flowsBySource } := by
  have hflows : Guarded { nodes := g.nodes, flows := g.flowsBySource } :=
    h.rearrange (perm_flowsBySource h)
  rw [ofLabelled_eq_ok h.entries_toLabelled.1, h.edgeList_toLabelled, foldl_withNode (g := {}) rfl h.ids_nodup]
  exact congrArg Except.ok (foldl_withFlow (g := { nodes := g.nodes }) rfl hflows)

/-- The flows that leave a node keep their order. -/
theorem Guarded.outgoing_flowsBySource (h : Guarded g) (a : String) :
    outgoing { nodes := g.nodes, flows := g.flowsBySource } a = g.outgoing a := by
  have hfilter : g.flowsBySource.filter (·.1 = a) = g.flows.filter (·.1 = a) := by
    refine (filter_flatMap_filter h.ids_nodup).trans ?_
    split
    · rfl
    · rename_i hmissing
      refine (List.filter_eq_nil_iff.mpr ?_).symm
      rintro ⟨b, c⟩ hflow hsource
      exact hmissing (of_decide_eq_true hsource ▸ (h.joins hflow).1)
  exact congrArg (List.map Prod.snd) hfilter

/-- **A process graph survives the conversion to a labelled graph and back.** Whatever was called on an
empty graph, the graph that is read back from its labelled graph is not frozen; it has the same nodes in
the same order; every edge becomes a flow, in the order of the edges, and these are the flows of the graph;
and the targets of every node are listed in the order in which the graph lists them. -/
theorem ofLabelled_toLabelled (acyclic : Bool) (calls : List GraphCall) :
    let g := IndexedGraph.afterAll { acyclic } calls
    ∃ g', ofLabelled id g.toGraph.toLabelled = .ok g' ∧ g'.frozen = false ∧
      g'.nodes = g.nodes.values ∧
      g'.flows = g.toGraph.toLabelled.edgeList.map Prod.fst ∧ g'.flows.Perm g.flows.values ∧
      ∀ id, g'.outgoing id = g.outgoing.neighbours id := by
  intro g
  have h : g.Coherent := ((IndexedGraph.coherent_empty acyclic).afterAll calls).1
  refine ⟨_, h.guarded.ofLabelled_eq, rfl, rfl, h.guarded.edgeList_toLabelled.symm,
    perm_flowsBySource h.guarded, fun id => ?_⟩
  rw [h.guarded.outgoing_flowsBySource, h.outgoing_eq]

/-- Flows change places where their sources were added in another order. -/
example : ofLabelled id ({
      nodes := [⟨"a", .task, "a", none⟩, ⟨"b", .task, "b", none⟩, ⟨"x", .gateway .parallel, "", "join"⟩]
      flows := [("b", "x"), ("a", "x")] } : ProcessGraph).toLabelled =
    .ok {
      nodes := [⟨"a", .task, "a", none⟩, ⟨"b", .task, "b", none⟩, ⟨"x", .gateway .parallel, "", "join"⟩]
      flows := [("a", "x"), ("b", "x")] } := by
  rfl

end ActivityMatrix.ProcessGraph
