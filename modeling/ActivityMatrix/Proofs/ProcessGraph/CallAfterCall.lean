import ActivityMatrix.Proofs.ProcessGraph.Calls

/-!
# Call after call

Whatever is called on an empty graph, in whatever order, its tables stay in step (`Coherent.afterAll`): what
one call preserves is the lemma on `perform`, and the rest is an induction on the calls. `calls_keep_in_step`
says what that means for a user of the graph. That a refused call leaves nodes and flows alone is clear from
the plain graph; that it leaves the index alone as well follows because nodes and flows determine the index.
-/

namespace ActivityMatrix.IndexedGraph

open ProcessGraph ActivityMatrix.Digraph

variable {g g' : IndexedGraph} {s t : String}

/-! ## Call after call -/

/-- What a call makes of a graph without an index; a refused call leaves it. -/
def plainly (g : ProcessGraph) (call : GraphCall) : ProcessGraph :=
  match call.on g with
  | .ok (_, changed) => changed
  | .error _ => g

theorem Coherent.after (h : Coherent g) (call : GraphCall) :
    Coherent (g.after call) ∧ (g.after call).toGraph = plainly g.toGraph call := by
  rw [IndexedGraph.after, plainly]
  cases hrun : (perform call).run g with
  | error _ g' =>
      obtain ⟨-, rfl, _, hplain⟩ := h.run_eq_error_iff.mp hrun
      rw [hplain]
      exact ⟨h, rfl⟩
  | ok _ g' =>
      obtain ⟨h', hplain⟩ := h.run_eq_ok_iff.mp hrun
      rw [hplain]
      exact ⟨h', rfl⟩

/-- **The index stays in step**: calls keep a coherent graph coherent, and make of its nodes and flows what
they make of a graph without an index. -/
theorem Coherent.afterAll (h : Coherent g) (calls : List GraphCall) :
    Coherent (g.afterAll calls) ∧ (g.afterAll calls).toGraph = calls.foldl plainly g.toGraph := by
  induction calls generalizing g with
  | nil => exact ⟨h, rfl⟩
  | cons call rest ih =>
      obtain ⟨h', hgraph⟩ := h.after call
      rw [List.foldl_cons, ← hgraph]
      exact ih h'

/-! ## Calls on plain graphs -/

section

variable {g g' : ProcessGraph} {call : GraphCall}

/-- A frozen graph refuses every call but a further freeze. -/
theorem on_of_frozen (hfrozen : g.frozen = true) (hcall : call ≠ .freeze) :
    call.on g = .error .frozen := by
  cases call with
  | freeze => exact absurd rfl hcall
  | _ =>
    simp [GraphCall.on, ProcessGraph.addNode, ProcessGraph.removeNode, ProcessGraph.addFlow,
      ProcessGraph.removeFlow, unlessFrozen, hfrozen, Except.map]

/-- What calls do to a graph that is not frozen. -/
theorem on_of_open (hopen : g.frozen = false) : call.on g = .ok (match call with
    | .addNode node => match g.node? node.id with
        | some present => (.node present, g)
        | none => (.node node, g.insertNode node)
    | .removeNode id => (.done, g.deleteNode id)
    | .addFlow s t => if g.canAddFlow s t then (.changed true, g.insertFlow s t) else (.changed false, g)
    | .removeFlow s t => (.changed (g.hasFlow s t), g.deleteFlow s t)
    | .freeze => (.done, g.freeze)) := by
  cases call with
  | addNode node =>
      cases hnode : g.node? node.id <;>
        simp [GraphCall.on, ProcessGraph.addNode, unlessFrozen, hopen, hnode, Except.map, insertNode]
  | addFlow s t =>
      cases hadd : g.canAddFlow s t <;>
        simp [GraphCall.on, ProcessGraph.addFlow, unlessFrozen, hopen, hadd, Except.map, insertFlow]
  | _ =>
    simp [GraphCall.on, ProcessGraph.removeNode, ProcessGraph.removeFlow, unlessFrozen, hopen,
      Except.map, deleteNode, deleteFlow]

end

theorem frozen_of_on_eq_error {g : ProcessGraph} {call : GraphCall} {e : GraphError}
    (hplain : call.on g = .error e) : g.frozen = true := by
  cases hopen : g.frozen with
  | true => rfl
  | false => simp [on_of_open hopen] at hplain

/-- A call on a plain graph that answers that there was no change has changed nothing. -/
theorem eq_of_on_unchanged {g g' : ProcessGraph} {call : GraphCall}
    (hplain : call.on g = .ok (.changed false, g')) : g' = g := by
  have hopen : g.frozen = false := by
    cases hfrozen : g.frozen with
    | false => rfl
    | true =>
        by_cases hcall : call = .freeze
        · subst hcall
          simp [GraphCall.on] at hplain
        · simp [on_of_frozen hfrozen hcall] at hplain
  rw [on_of_open hopen] at hplain
  cases call with
  | addFlow s t =>
      cases hadd : g.canAddFlow s t <;> simp [hadd] at hplain
      exact hplain.symm
  | removeFlow s t =>
      simp only [Except.ok.injEq, Prod.mk.injEq, CallAnswer.changed.injEq] at hplain
      obtain ⟨hflow, rfl⟩ := hplain
      exact deleteFlow_of_notMem fun hmem => by simp [hasFlow_iff.mpr hmem] at hflow
  | addNode node => cases hnode : g.node? node.id <;> simp [hnode] at hplain
  | _ => simp at hplain

theorem acyclic_plainly (g : ProcessGraph) (call : GraphCall) :
    (plainly g call).acyclic = g.acyclic := by
  cases hfrozen : g.frozen with
  | true =>
      by_cases hcall : call = .freeze
      · rw [hcall, plainly, GraphCall.on, ProcessGraph.freeze]
      · rw [plainly, on_of_frozen hfrozen hcall]
  | false =>
      rw [plainly, on_of_open hfrozen]
      cases call with
      | addNode node => cases hnode : g.node? node.id <;> simp [hnode, insertNode]
      | addFlow s t => cases hadd : g.canAddFlow s t <;> simp [hadd, insertFlow]
      | _ => rfl

/-! ## What calls make of an empty graph -/

theorem acyclic_afterAll (h : Coherent g) (calls : List GraphCall) :
    (g.afterAll calls).acyclic = g.acyclic := by
  have hplain : ∀ graph : ProcessGraph, (calls.foldl plainly graph).acyclic = graph.acyclic := by
    induction calls with
    | nil => exact fun _ => rfl
    | cons call rest ih => exact fun graph => (ih _).trans (acyclic_plainly graph call)
  exact (congrArg ProcessGraph.acyclic (h.afterAll calls).2).trans (hplain _)

theorem Coherent.exists_run_addFlow_iff (h : Coherent g) :
    (∃ g', (perform (.addFlow s t)).run g = .ok (.changed true) g') ↔
      g.frozen = false ∧ g.toGraph.canAddFlow s t = true := by
  cases hfrozen : g.toGraph.frozen with
  | true =>
      have hsame : g.frozen = true := hfrozen
      have hrun : (perform (.addFlow s t)).run g = .error .frozen g :=
        h.run_eq_error_iff.mpr ⟨rfl, rfl, _, on_of_frozen hfrozen (by simp)⟩
      simp [hrun, hsame]
  | false =>
      have hsame : g.frozen = false := hfrozen
      have hfollows := h.follows_perform (.addFlow s t)
      rw [on_of_open hfrozen] at hfollows
      cases hadd : g.toGraph.canAddFlow s t <;>
        simp only [hadd, if_true, Bool.false_eq_true, if_false, Follows] at hfollows <;>
        obtain ⟨g', hrun, -⟩ := hfollows <;>
        simp [hrun, hsame]

/-- A flow that is added comes last. -/
theorem Coherent.toGraph_of_addFlow (h : Coherent g)
    (hrun : (perform (.addFlow s t)).run g = .ok (.changed true) g') :
    g'.toGraph = g.toGraph.insertFlow s t := by
  obtain ⟨hopen, hadd⟩ := h.exists_run_addFlow_iff.mp ⟨g', hrun⟩
  obtain ⟨-, hplain⟩ := h.run_eq_ok_iff.mp hrun
  rw [on_of_open (g := g.toGraph) hopen] at hplain
  simpa [hadd, eq_comm] using hplain

/-- A node whose id is taken is not added. -/
theorem Coherent.eq_of_addNode (h : Coherent g) {node : Node} {answer : CallAnswer}
    (hmem : node.id ∈ g.nodes.keys) (hrun : (perform (.addNode node)).run g = .ok answer g') : g' = g := by
  obtain ⟨present, hpresent⟩ := Table.mem_keys_iff.mp hmem
  obtain ⟨h', hplain⟩ := h.run_eq_ok_iff.mp hrun
  rw [h.node?_eq] at hpresent
  refine h.eq_of_toGraph_eq h'.toInStep ?_
  cases hfrozen : g.toGraph.frozen with
  | true => simp [on_of_frozen hfrozen] at hplain
  | false =>
      rw [on_of_open hfrozen] at hplain
      simp only [hpresent, Except.ok.injEq, Prod.mk.injEq] at hplain
      exact hplain.2.symm

/-- **What calls make of an empty graph**: exactly the nodes have lists of neighbours, and these repeat the
flows in the order of the flows; the graph is guarded; a flow is added if and only if it is new, joins nodes
of the graph and leaves it guarded; a call stops on a frozen graph only, every changing call stops there,
and a call that stops or is refused leaves all tables as they are. -/
theorem calls_keep_in_step (acyclic : Bool) (calls : List GraphCall) :
    let g := IndexedGraph.afterAll { acyclic } calls
    (g.outgoing.keys = g.nodes.keys ∧ g.incoming.keys = g.nodes.keys ∧
      ∀ id, (g.outgoing.neighbours id).Nodup ∧ (g.incoming.neighbours id).Nodup ∧
        g.outgoing.neighbours id = (g.flows.values.filter fun flow => flow.1 = id).map Prod.snd ∧
        g.incoming.neighbours id = (g.flows.values.filter fun flow => flow.2 = id).map Prod.fst) ∧
    (g.acyclic = acyclic ∧ g.toGraph.Guarded) ∧
    (∀ s t, (∃ g', (perform (.addFlow s t)).run g = .ok (.changed true) g') ↔
      g.frozen = false ∧ (s, t) ∉ g.flows.values ∧ s ∈ g.nodes.keys ∧ t ∈ g.nodes.keys ∧
        (g.toGraph.insertFlow s t).Guarded) ∧
    (∀ s t g', (perform (.addFlow s t)).run g = .ok (.changed true) g' →
      g'.toGraph = g.toGraph.insertFlow s t) ∧
    (∀ call g', (perform call).run g = .ok (.changed false) g' → g' = g) ∧
    (∀ node answer g', node.id ∈ g.nodes.keys → (perform (.addNode node)).run g = .ok answer g' →
      g' = g) ∧
    (∀ call fault g', (perform call).run g = .error fault g' →
      fault = .frozen ∧ g.frozen = true ∧ g' = g) ∧
    (g.frozen = true → ∀ call, call ≠ .freeze → (perform call).run g = .error .frozen g) := by
  intro g
  -- all parts follow from what every call keeps
  have h : Coherent g := ((coherent_empty acyclic).afterAll calls).1
  refine ⟨⟨h.outgoing_keys, h.incoming_keys, fun id => ⟨?_, ?_, h.outgoing_eq id, h.incoming_eq id⟩⟩,
    ⟨acyclic_afterAll (coherent_empty acyclic) calls, h.guarded⟩, fun s t => ?_,
    fun s t g' hrun => ?_, fun call g' hrun => ?_, fun node answer g' hmem hrun => ?_,
    fun call fault g' hrun => ?_, fun hfrozen call hcall => ?_⟩
  · exact h.outgoing_eq id ▸ nodup_successors h.guarded.flows_nodup id
  · exact h.incoming_eq id ▸ nodup_predecessors h.guarded.flows_nodup id
  · rw [h.exists_run_addFlow_iff, h.guarded.canAddFlow_iff, ← h.ids_eq]
    constructor
    · rintro ⟨hopen, hnew, hguarded⟩
      obtain ⟨hs, ht, -⟩ := hguarded.joins (mem_flows_insertFlow.mpr (.inr ⟨rfl, rfl⟩))
      exact ⟨hopen, hnew, hs, ht, hguarded⟩
    · rintro ⟨hopen, hnew, -, -, hguarded⟩
      exact ⟨hopen, hnew, hguarded⟩
  · exact h.toGraph_of_addFlow hrun
  · obtain ⟨h', hplain⟩ := h.run_eq_ok_iff.mp hrun
    exact h.eq_of_toGraph_eq h'.toInStep (eq_of_on_unchanged hplain)
  · exact h.eq_of_addNode hmem hrun
  · obtain ⟨rfl, rfl, e, hplain⟩ := h.run_eq_error_iff.mp hrun
    exact ⟨rfl, frozen_of_on_eq_error hplain, rfl⟩
  · exact h.run_eq_error_iff.mpr ⟨rfl, rfl, _, on_of_frozen hfrozen hcall⟩

/-- Between two tasks that a flow joins there is no flow back where cycles are refused, and once the graph is
frozen no node goes. -/
theorem calls_keep_in_step_two_tasks :
    let calls : List GraphCall := [.addNode { id := "a", kind := .task },
      .addNode { id := "b", kind := .task }, .addFlow "a" "b"]
    let g := IndexedGraph.afterAll { acyclic := true } calls
    let f := IndexedGraph.afterAll { acyclic := true } (calls ++ [GraphCall.freeze])
    g.flows.values = [("a", "b")] ∧
      (¬ ∃ g', (perform (.addFlow "b" "a")).run g = .ok (.changed true) g') ∧
      (perform (.removeNode "a")).run f = .error .frozen f := by
  intro calls g f
  have hg : g.toGraph = calls.foldl plainly { acyclic := true } :=
    ((coherent_empty true).afterAll calls).2
  have hf : f.toGraph = (calls ++ [GraphCall.freeze]).foldl plainly { acyclic := true } :=
    ((coherent_empty true).afterAll _).2
  have hflows : g.flows.values = [("a", "b")] :=
    (congrArg ProcessGraph.flows hg).trans (by decide +kernel)
  refine ⟨hflows, fun hadded => ?_, ?_⟩
  · obtain ⟨-, -, -, -, hguarded⟩ := ((calls_keep_in_step true calls).2.2.1 "b" "a").mp hadded
    have hmem : ("a", "b") ∈ g.toGraph.flows := by
      change ("a", "b") ∈ g.flows.values
      simp [hflows]
    have hthere : (g.toGraph.insertFlow "b" "a").Leads "a" "b" :=
      .single (mem_flows_insertFlow.mpr (.inl hmem))
    have hacyclic : g.toGraph.acyclic = true := (calls_keep_in_step true calls).2.1.1
    exact hguarded.acyclic hacyclic "a"
      (hthere.tail (mem_flows_insertFlow.mpr (.inr ⟨rfl, rfl⟩)))
  · exact (calls_keep_in_step true (calls ++ [GraphCall.freeze])).2.2.2.2.2.2.2
      ((congrArg ProcessGraph.frozen hf).trans (by decide +kernel)) _ (by decide)

end ActivityMatrix.IndexedGraph
