import ActivityMatrix.Proofs.ProcessGraph.Guarded
import ActivityMatrix.Proofs.Synthesis.Invariant
import ActivityMatrix.Proofs.Synthesis.Naming

/-!
# New gateways

A gateway is called by its kind, its place and an anchor, and different anchors may read the same once
everything but letters and digits is replaced. An activity may be called like a gateway as well. So the id of
a gateway is looked for among the numbered ones, and the search comes to an end in every graph, since the
numbered ids are distinct and only finitely many are taken (`exists_isFirstFree`).

Between the moment an id is found and the moment its gateway is added, other steps may be taken. That the id
is still free then is a matter of the whole run. A call that adds a gateway notes it (`additions_addGateway`),
and nothing is taken back from these notes (`kept_noted`). Every gateway that a run notes was new to the graph
that it was added to, and no flow touched it (`gateways_are_new`). This holds for all relations, and for runs
that stop as well.
-/

namespace ActivityMatrix

/-! ## The search for an id -/

/-- The ids that are tried one after the other: `base`, `base_2`, `base_3` and so on. -/
def numbered (base : String) : Nat → String
  | 0 => base
  | n + 1 => base ++ "_" ++ toString (n + 2)

/-- The search for an id ends after so many ids that are taken. -/
structure IsFirstFree (taken : List String) (base : String) (n : Nat) : Prop where
  free : numbered base n ∉ taken
  earlier : ∀ m < n, numbered base m ∈ taken

theorem freshId_eq (taken : List String) (base : String) :
    freshId taken base =
      (((List.range (taken.length + 1)).map (numbered base)).find? (!taken.contains ·)).getD base := by
  rw [freshId, List.range_succ_eq_map, List.map_cons, List.map_map]
  rfl

/-- The search comes to an end, and what it finds is the fresh id. -/
theorem exists_isFirstFree (taken : List String) (base : String) :
    ∃ n, IsFirstFree taken base n ∧ freshId taken base = numbered base n := by
  have hfree := freshId_notMem taken base
  rw [freshId_eq, List.find?_map] at hfree ⊢
  cases hfind : (List.range (taken.length + 1)).find? ((!taken.contains ·) ∘ numbered base) with
  | none =>
      -- then `base` itself would be taken, but it is what the search falls back on
      rw [hfind] at hfree
      have hbase := List.find?_range_eq_none.mp hfind 0 (Nat.succ_pos _)
      simp only [Function.comp_apply, Bool.not_not, List.contains_iff_mem] at hbase
      exact absurd hbase hfree
  | some n =>
      obtain ⟨hn, -, hearlier⟩ := List.find?_range_eq_some.mp hfind
      exact ⟨n, ⟨by simpa using hn, fun m hm => by simpa using hearlier m hm⟩, rfl⟩

/-! ## The gateways of a run -/

/-- A gateway was added as a new node that no flow touched. -/
structure GatewayAddition.IsNew (addition : GatewayAddition) : Prop where
  fresh : addition.gateway.id ∉ addition.before.ids
  added : addition.after = addition.before.insertNode addition.gateway
  untouched : ∀ flow ∈ addition.after.flows,
    flow.1 ≠ addition.gateway.id ∧ flow.2 ≠ addition.gateway.id

/-- In a graph whose flows have ends, a node with a fresh id is touched by none. -/
theorem isNew_insertNode {g : ProcessGraph} {gateway : Node} (hg : g.Guarded)
    (hfresh : gateway.id ∉ g.ids) : GatewayAddition.IsNew ⟨gateway, g, g.insertNode gateway⟩ where
  fresh := hfresh
  added := rfl
  untouched flow hflow := by
    obtain ⟨hsource, htarget, -⟩ := hg.joins (s := flow.1) (t := flow.2) hflow
    exact ⟨fun heq => hfresh (heq ▸ hsource), fun heq => hfresh (heq ▸ htarget)⟩

/-- The graph may be changed, its flows have ends, and all gateways added so far were new. -/
structure AddsNew (d : Draft) : Prop where
  unfrozen : d.graph.frozen = false
  guarded : d.graph.Guarded
  new : ∀ addition ∈ d.additions, addition.IsNew

namespace Drafting

/-- A gateway that is added is noted, with the graph before and after. -/
theorem additions_addGateway {kind : GatewayKind} {role id : String} {d d' : Draft}
    (hrun : (addGateway kind role id).run d = .ok () d') :
    d'.additions = d.additions ++ [⟨gatewayNode kind role id, d.graph, d'.graph⟩] := by
  cases hadd : (addNode (gatewayNode kind role id)).run d with
  | error fault d₁ =>
      simp only [addGateway, graph, EStateM.run_bind, EStateM.run_get, EStateM.run_pure, hadd] at hrun
      cases hrun
  | ok node d₁ =>
      simp only [addGateway, graph, EStateM.run_bind, EStateM.run_get, EStateM.run_pure, hadd] at hrun
      obtain rfl := EStateM.Result.ok.inj hrun |>.2
      have hsame : Maintains (fun d' => d'.additions = d.additions) (addNode (gatewayNode kind role id)) :=
        maintains_addNode fun h _ => h
      exact congrArg (· ++ _) (hsame.of_run rfl hadd)

/-- What is noted about the gateways stays noted. -/
theorem kept_noted (noted : List GatewayAddition) : Kept (fun _ => True) fun d => noted <+: d.additions where
  insertGateway h _ _ := h.trans (List.prefix_append _ _)
  insertFlow h _ := h
  deleteFlow h := h
  deleteNode h := h
  note h hnotes := hnotes.additions ▸ h
  record h _ := h

/-- No change of a synthesis makes an addition that is not new, as long as ids are fresh. -/
theorem kept_addsNew : Kept (fun _ => True) AddsNew where
  insertGateway h hfresh _ :=
    { unfrozen := h.unfrozen
      guarded := h.guarded.insertNode hfresh
      new := fun addition haddition => by
        rcases List.mem_append.mp haddition with hold | hnew
        · exact h.new addition hold
        · exact List.mem_singleton.mp hnew ▸ isNew_insertNode h.guarded hfresh }
  insertFlow h hadd := { h with guarded := h.guarded.insertFlow hadd }
  deleteFlow h := { h with guarded := h.guarded.deleteFlow _ _ }
  deleteNode h := { h with guarded := h.guarded.deleteNode _ }
  note h hnotes :=
    ⟨hnotes.graph ▸ h.unfrozen, hnotes.graph ▸ h.guarded, hnotes.additions ▸ h.new⟩
  record h _ := { h with }

theorem maintains_addNode_addsNew (node : Node) : Maintains AddsNew (addNode node) :=
  maintains_addNode fun h hfresh => { h with guarded := h.guarded.insertNode hfresh }

/-- **Every gateway is a new node.** Whatever the graph, the kind, the place and the anchor, the search for
the id of a gateway comes to an end, with the first id that is no node of the graph. Every gateway that is
added is noted, and no run takes a note back. In every run, for whatever plan and whether it stops or not,
every gateway that is noted was added with an id that was no node of the graph, as a node that no flow
touched. -/
theorem gateways_are_new :
    (∀ (kind : GatewayKind) (place anchor : String) (d : Draft), ∃ n,
      IsFirstFree d.graph.ids (gatewayBase kind place anchor) n ∧
        (gatewayId kind place anchor).run d = .ok (numbered (gatewayBase kind place anchor) n) d) ∧
    (∀ (kind : GatewayKind) (role id : String) (d d' : Draft), (addGateway kind role id).run d = .ok () d' →
      d'.additions = d.additions ++ [⟨gatewayNode kind role id, d.graph, d'.graph⟩]) ∧
    ∀ plan : SynthesisPlan, (left (Synthesis.phases plan) Synthesis.blankDraft).graph.frozen = false ∧
      (∀ d : Draft, d.additions <+: (left (Synthesis.phases plan) d).additions) ∧
      ∀ addition ∈ (left (Synthesis.phases plan) Synthesis.blankDraft).additions, addition.IsNew := by
  refine ⟨fun kind place anchor d => ?_, fun _ _ _ _ _ => additions_addGateway, fun plan => ?_⟩
  · obtain ⟨n, hn, hid⟩ := exists_isFirstFree d.graph.ids (gatewayBase kind place anchor)
    exact ⟨n, hn, congrArg (EStateM.Result.ok · d) hid⟩
  · have hnodes : Maintains AddsNew (addNodes plan) :=
      maintains_addNodes (maintains_addNode_addsNew _) (fun _ => maintains_addNode_addsNew _)
        (maintains_addNode_addsNew _)
    have hblank : AddsNew Synthesis.blankDraft :=
      ⟨rfl, ProcessGraph.guarded_empty true, fun _ haddition => absurd haddition List.not_mem_nil⟩
    have hfinal := maintains_phases kept_addsNew (permits_all plan) hnodes Synthesis.blankDraft hblank
    refine ⟨hfinal.unfrozen, fun d => ?_, hfinal.new⟩
    have hnode (node : Node) : Maintains (fun d' => d.additions <+: d'.additions) (addNode node) :=
      maintains_addNode fun h _ => h
    exact maintains_phases (kept_noted d.additions) (permits_all plan)
      (maintains_addNodes (hnode _) (fun _ => hnode _) (hnode _)) d (List.prefix_refl _)

/-- Two activities that read the same as anchors, with what follows each of them, and one that is called like
the gateway behind the first. -/
def alike : SynthesisPlan where
  relations :=
    { activities := ["a b", "a-b", "parallelGateway_Split_a_b", "x", "y", "u", "v"]
      order := ["a b", "a-b", "parallelGateway_Split_a_b", "x", "y", "u", "v"]
      chains := [("a b", "x"), ("a b", "y"), ("a-b", "u"), ("a-b", "v")] }

/-- The gateways behind both get numbers, since the activity has the plain id. -/
theorem gateways_are_new_alike :
    let d := left (Synthesis.phases alike) Synthesis.blankDraft
    gatewayBase .parallel "Split" "a b" = gatewayBase .parallel "Split" "a-b" ∧
      d.graph.isTask (gatewayBase .parallel "Split" "a b") = true ∧
      (∀ id ∈ ["parallelGateway_Split_a_b_2", "parallelGateway_Split_a_b_3"],
        ∃ addition ∈ d.additions, addition.gateway.id = id ∧ addition.IsNew) ∧
      ∃ d', (addGateway .parallel splitRole "g").run Synthesis.blankDraft = .ok () d' ∧
        d'.additions = Synthesis.blankDraft.additions ++
          [⟨gatewayNode .parallel splitRole "g", Synthesis.blankDraft.graph, d'.graph⟩] := by
  intro d
  obtain ⟨-, hnoted, hrun⟩ := gateways_are_new
  obtain ⟨-, -, hnew⟩ := hrun alike
  have hanswer : d.graph.isTask (gatewayBase .parallel "Split" "a b") = true ∧
      ["parallelGateway_Split_a_b_2", "parallelGateway_Split_a_b_3"] ⊆ d.additions.map (·.gateway.id) := by
    decide +kernel
  refine ⟨by decide +kernel, hanswer.1, fun id hid => ?_, _, rfl, hnoted _ _ _ _ _ rfl⟩
  obtain ⟨addition, haddition, heq⟩ := List.mem_map.mp (hanswer.2 hid)
  exact ⟨addition, haddition, heq, hnew addition haddition⟩

end Drafting

end ActivityMatrix
