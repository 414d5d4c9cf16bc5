import ActivityMatrix.Synthesis.Draft
import ActivityMatrix.Proofs.ProcessGraph.Sound
import ActivityMatrix.Proofs.Sorting
import Mathlib.Data.List.Nodup

/-!
# What a step yields

`Yields step d post` says that a step of a synthesis, taken on the draft `d`, does not stop, and
that `post` holds of its answer and of the draft it leaves. The lemmas take a step apart into the
steps it is made of: one for each way to put steps together, and one for each primitive step.

* `yields_forM`: what a loop establishes, from what each round establishes.
* `freshId_notMem`: an id made fresh is not taken. The numbered ids are distinct and one more than
  the ids that are taken.
* `yields_addFlow`, `yields_connect`: a flow is added if the guard of the graph lets it pass; a
  connection that it does not let pass is kept for later.
-/

namespace ActivityMatrix

/-! ## Fresh ids -/

theorem toString_nat_inj {m n : Nat} (h : toString m = toString n) : m = n := by
  have hdigits : Nat.toDigits 10 m = Nat.toDigits 10 n := by
    rw [← Nat.toList_repr, ← Nat.toList_repr]
    exact congrArg String.toList h
  rw [← @Nat.ofDigitChars_ten_toDigits m, hdigits, Nat.ofDigitChars_ten_toDigits]

/-- An id made fresh is not taken. -/
theorem freshId_notMem (taken : List String) (base : String) : freshId taken base ∉ taken := by
  let numbered := (List.range taken.length).map fun n => base ++ "_" ++ toString (n + 2)
  have hnodup : (base :: numbered).Nodup := by
    refine List.nodup_cons.mpr ⟨?_, List.nodup_range.map ?_⟩
    · intro hmem
      obtain ⟨n, -, hn⟩ := List.mem_map.mp hmem
      have hlength := congrArg String.length hn
      have hunderscore : "_".length = 1 := rfl
      simp only [String.length_append] at hlength
      omega
    · intro m n hmn
      have := toString_nat_inj ((String.append_right_inj _).mp hmn)
      omega
  rw [freshId]
  cases hfind : (base :: numbered).find? (!taken.contains ·) with
  | some id => simpa using List.find?_some hfind
  | none =>
      have hsub : base :: numbered ⊆ taken := by
        intro id hid
        simpa using List.find?_eq_none.mp hfind id hid
      have hlength := (List.subperm_of_subset hnodup hsub).length_le
      simp only [numbered, List.length_cons, List.length_map, List.length_range] at hlength
      omega

/-- The draft with a new gateway, and with a note of it. -/
def Draft.insertGateway (d : Draft) (gateway : Node) : Draft :=
  { d with
    graph := d.graph.insertNode gateway
    additions := d.additions ++ [⟨gateway, d.graph, d.graph.insertNode gateway⟩] }

namespace Drafting

variable {α β : Type} {step : Drafting α} {next : α → Drafting β} {d : Draft}
  {post post' : α → Draft → Prop} {s t : String}

/-- A step does not stop, and leaves an answer and a draft of which something holds. -/
def Yields (step : Drafting α) (d : Draft) (post : α → Draft → Prop) : Prop :=
  match step d with
  | .ok a d' => post a d'
  | .error _ _ => False

instance {post : α → Draft → Prop} [∀ a d', Decidable (post a d')] : Decidable (Yields step d post) :=
  show Decidable (match step d with
    | .ok a d' => post a d'
    | .error _ _ => False) from
  match step d with
  | .ok a d' => inferInstanceAs (Decidable (post a d'))
  | .error _ _ => inferInstanceAs (Decidable False)

theorem Yields.mono (h : Yields step d post) (hpost : ∀ a d', post a d' → post' a d') :
    Yields step d post' := by
  unfold Yields at h ⊢
  split at h
  · exact hpost _ _ h
  · exact h

/-- A step that yields something has a result. -/
theorem Yields.exists_result (h : Yields step d post) : ∃ a d', step.run d = .ok a d' ∧ post a d' := by
  unfold Yields at h
  split at h
  · exact ⟨_, _, ‹_›, h⟩
  · exact h.elim

/-- What a step yields holds of its result. -/
theorem Yields.of_run {a : α} {d' : Draft} (h : Yields step d post) (hrun : step.run d = .ok a d') :
    post a d' := by
  obtain ⟨a', d'', hrun', hpost⟩ := h.exists_result
  rw [hrun] at hrun'
  cases hrun'
  exact hpost

/-- What is yielded is what the run of the step results in. -/
theorem Yields.with_run (h : Yields step d post) :
    Yields step d fun a d' => step.run d = .ok a d' ∧ post a d' := by
  obtain ⟨a, d', hrun, hpost⟩ := h.exists_result
  have hstep : step d = .ok a d' := hrun
  rw [Yields, hstep]
  exact ⟨hrun, hpost⟩

/-! ## Putting steps together -/

@[simp] theorem yields_pure {a : α} : Yields (pure a) d post ↔ post a d :=
  Iff.rfl

@[simp] theorem yields_bind {post : β → Draft → Prop} :
    Yields (step >>= next) d post ↔ Yields step d fun a d' => Yields (next a) d' post := by
  simp only [Yields, bind, EStateM.bind]
  cases step d <;> rfl

/-- A loop establishes what holds at its start and what each of its rounds hands on. -/
theorem yields_forM {members : List β} {body : β → Drafting Unit} (inv : List β → Draft → Prop)
    (hstart : inv [] d)
    (hround : ∀ done member rest d, members = done ++ member :: rest → inv done d →
      Yields (body member) d fun _ d' => inv (done ++ [member]) d') :
    Yields (members.forM body) d fun _ d' => inv members d' := by
  suffices ∀ done rest d, members = done ++ rest → inv done d →
      Yields (rest.forM body) d fun _ d' => inv members d' from this [] members d rfl hstart
  intro done rest
  induction rest generalizing done with
  | nil =>
      intro d hmembers hinv
      rw [List.append_nil] at hmembers
      exact hmembers ▸ hinv
  | cons member rest ih =>
      intro d hmembers hinv
      refine yields_bind.mpr ((hround done member rest d hmembers hinv).mono fun _ d' hinv' => ?_)
      exact ih (done ++ [member]) d' (by simpa using hmembers) hinv'

/-- In a list without repetitions, the member of a round was not the member of an earlier one. -/
theorem notMem_of_nodup_split {members done rest : List β} {member : β} (h : members.Nodup)
    (hsplit : members = done ++ member :: rest) : member ∉ done := by
  rw [hsplit] at h
  exact notMem_of_nodup_append_cons h

/-- The same for a loop that carries an answer from round to round. -/
theorem yields_foldlM {σ : Type} {members : List β} {body : σ → β → Drafting σ} {start : σ}
    (inv : List β → σ → Draft → Prop) (hstart : inv [] start d)
    (hround : ∀ done member rest found d, members = done ++ member :: rest → inv done found d →
      Yields (body found member) d fun found' d' => inv (done ++ [member]) found' d') :
    Yields (members.foldlM body start) d fun found d' => inv members found d' := by
  suffices ∀ done rest found d, members = done ++ rest → inv done found d →
      Yields (rest.foldlM body found) d fun found d' => inv members found d' from
    this [] members start d rfl hstart
  intro done rest
  induction rest generalizing done with
  | nil =>
      intro found d hmembers hinv
      rw [List.append_nil] at hmembers
      exact hmembers ▸ hinv
  | cons member rest ih =>
      intro found d hmembers hinv
      rw [List.foldlM_cons, yields_bind]
      refine (hround done member rest found d hmembers hinv).mono fun found' d' hinv' => ?_
      exact ih (done ++ [member]) found' d' (by simpa using hmembers) hinv'

/-! ## Looking at the draft and noting something down -/

@[simp] theorem yields_get {post : Draft → Draft → Prop} : Yields get d post ↔ post d d :=
  Iff.rfl

@[simp] theorem yields_modify {f : Draft → Draft} {post : PUnit → Draft → Prop} :
    Yields (modify f) d post ↔ post ⟨⟩ (f d) :=
  Iff.rfl

@[simp] theorem yields_graph {post : ProcessGraph → Draft → Prop} :
    Yields graph d post ↔ post d.graph d :=
  Iff.rfl

@[simp] theorem yields_record {entry : SynthesisStep} {post : Unit → Draft → Prop} :
    Yields (record entry) d post ↔ post () { d with log := d.log ++ [⟨entry, d.graph⟩] } :=
  Iff.rfl

@[simp] theorem yields_diagnose {diagnostic : Diagnostic} {post : Unit → Draft → Prop} :
    Yields (diagnose diagnostic) d post ↔
      post () { d with diagnostics := d.diagnostics ++ [diagnostic] } :=
  Iff.rfl

/-- Reports touch nothing but the reports. -/
theorem yields_diagnoseAll (members : List β) (report : β → Diagnostic) :
    Yields (members.forM fun member => diagnose (report member)) d fun _ d' =>
      d' = { d with diagnostics := d.diagnostics ++ members.map report } := by
  refine yields_forM
    (fun done d' => d' = { d with diagnostics := d.diagnostics ++ done.map report }) (by simp) ?_
  rintro done member rest _ - rfl
  simp

theorem yields_recordAll (members : List β) (entry : β → SynthesisStep) :
    Yields (members.forM fun member => record (entry member)) d fun _ d' =>
      d' = { d with log := d.log ++ members.map fun member => ⟨entry member, d.graph⟩ } := by
  refine yields_forM (fun done d' =>
    d' = { d with log := d.log ++ done.map fun member => ⟨entry member, d.graph⟩ }) (by simp) ?_
  rintro done member rest _ - rfl
  simp

theorem yields_node {names : List String} (h : d.graph.Sound names) (hs : s ∈ d.graph.ids)
    {post : Node → Draft → Prop}
    (hpost : ∀ node ∈ d.graph.nodes, node.id = s → post node d) : Yields (node s) d post := by
  obtain ⟨found, hmem, hid, hfound⟩ := h.exists_node hs
  simp only [node, yields_bind, yields_graph, hfound]
  exact hpost found hmem hid

/-! ## Changing the graph -/

/-- A change that the graph refuses stops the step and leaves the draft as it is. -/
theorem change_of_error {α : Type} {step : ProcessGraph → Except GraphError (α × ProcessGraph)}
    {error : GraphError} (h : step d.graph = .error error) :
    (change step).run d = .error (.graph error) d := by
  simp only [change, EStateM.run_bind, EStateM.run_get, h]
  rfl

/-- The nodes that `addNodes` adds. -/
def startNode : Node := { id := startEventId, kind := .startEvent, name := some "Start" }

def taskNode (activity : String) : Node :=
  { id := activity, kind := .task, name := some activity }

def endNode : Node := { id := endEventId, kind := .endEvent, name := some "End" }

theorem yields_gatewayId {kind : GatewayKind} {place anchor : String} {post : String → Draft → Prop}
    (hpost : ∀ id, id ∉ d.graph.ids → post id d) : Yields (gatewayId kind place anchor) d post :=
  hpost _ (freshId_notMem _ _)

theorem yields_addNode (node : Node) {post : Node → Draft → Prop}
    (hopen : d.graph.frozen = false) (hfresh : node.id ∉ d.graph.ids)
    (hpost : post node { d with graph := d.graph.insertNode node }) :
    Yields (addNode node) d post := by
  have hnone : d.graph.node? node.id = none := by
    refine List.find?_eq_none.mpr fun other hother hid => hfresh ?_
    exact ProcessGraph.mem_ids.mpr ⟨other, hother, by simpa using hid⟩
  have hadd : d.graph.addNode node = .ok (node, d.graph.insertNode node) := by
    simp [ProcessGraph.addNode, ProcessGraph.unlessFrozen, hopen, hnone, ProcessGraph.insertNode]
  simp only [addNode, change, yields_bind, yields_get, hadd]
  exact hpost

/-- A node is added unless there is one with its id, which is the answer then. -/
theorem yields_addNode_or_present (node : Node) {post : Node → Draft → Prop}
    (hopen : d.graph.frozen = false) (hpresent : ∀ other, node.id ∈ d.graph.ids → post other d)
    (hadded : node.id ∉ d.graph.ids → post node { d with graph := d.graph.insertNode node }) :
    Yields (addNode node) d post := by
  by_cases hmem : node.id ∈ d.graph.ids
  · obtain ⟨other, hfound⟩ : ∃ other, d.graph.node? node.id = some other := by
      obtain ⟨other, hother, hid⟩ := ProcessGraph.mem_ids.mp hmem
      exact Option.isSome_iff_exists.mp (List.find?_isSome.mpr ⟨other, hother, by simpa using hid⟩)
    have hadd : d.graph.addNode node = .ok (other, d.graph) := by
      simp [ProcessGraph.addNode, ProcessGraph.unlessFrozen, hopen, hfound]
    simp only [addNode, change, yields_bind, yields_get, hadd]
    exact hpresent other hmem
  · exact yields_addNode node hopen hmem (hadded hmem)

theorem yields_addGateway {kind : GatewayKind} {role id : String} {post : Unit → Draft → Prop}
    (hopen : d.graph.frozen = false) (hfresh : id ∉ d.graph.ids)
    (hpost : post () (d.insertGateway (gatewayNode kind role id))) :
    Yields (addGateway kind role id) d post := by
  simp only [addGateway, yields_bind, yields_graph]
  exact yields_addNode _ hopen hfresh hpost

theorem yields_removeNode {id : String} {post : Unit → Draft → Prop}
    (hopen : d.graph.frozen = false) (hpost : post () { d with graph := d.graph.deleteNode id }) :
    Yields (removeNode id) d post := by
  have hremove : d.graph.removeNode id = .ok ((), d.graph.deleteNode id) := by
    simp [ProcessGraph.removeNode, ProcessGraph.unlessFrozen, hopen, ProcessGraph.deleteNode]
  simp only [removeNode, change, yields_bind, yields_get, hremove]
  exact hpost

theorem yields_removeFlow {post : Bool → Draft → Prop} (hopen : d.graph.frozen = false)
    (hpost : post (d.graph.hasFlow s t) { d with graph := d.graph.deleteFlow s t }) :
    Yields (removeFlow s t) d post := by
  have hremove : d.graph.removeFlow s t = .ok (d.graph.hasFlow s t, d.graph.deleteFlow s t) := by
    simp [ProcessGraph.removeFlow, ProcessGraph.unlessFrozen, hopen, ProcessGraph.deleteFlow]
  simp only [removeFlow, change, yields_bind, yields_get, hremove]
  exact hpost

theorem yields_addFlow_of_canAddFlow {post : Bool → Draft → Prop} (hopen : d.graph.frozen = false)
    (hadd : d.graph.canAddFlow s t = true)
    (hpost : post true { d with graph := d.graph.insertFlow s t }) :
    Yields (addFlow s t) d post := by
  have hflow : d.graph.addFlow s t = .ok (true, d.graph.insertFlow s t) := by
    simp [ProcessGraph.addFlow, ProcessGraph.unlessFrozen, hopen, hadd, ProcessGraph.insertFlow]
  simp only [addFlow, change, yields_bind, yields_get, hflow]
  exact hpost

/-- A flow is added exactly if the guard lets it pass. -/
theorem yields_addFlow {post : Bool → Draft → Prop} (hopen : d.graph.frozen = false)
    (hadded : d.graph.canAddFlow s t = true →
      post true { d with graph := d.graph.insertFlow s t })
    (hrefused : d.graph.canAddFlow s t = false → post false d) : Yields (addFlow s t) d post := by
  cases hadd : d.graph.canAddFlow s t with
  | true => exact yields_addFlow_of_canAddFlow hopen hadd (hadded hadd)
  | false =>
      have hflow : d.graph.addFlow s t = .ok (false, d.graph) := by
        simp [ProcessGraph.addFlow, ProcessGraph.unlessFrozen, hopen, hadd]
      simp only [addFlow, change, yields_bind, yields_get, hflow]
      exact hrefused hadd

/-- A connection is there, or is added, or is kept for later. -/
theorem yields_connect {post : Bool → Draft → Prop} (hopen : d.graph.frozen = false)
    (hthere : (s, t) ∈ d.graph.flows → post true d)
    (hadded : d.graph.canAddFlow s t = true →
      post true { d with graph := d.graph.insertFlow s t })
    (hrefused : (s, t) ∉ d.graph.flows → d.graph.canAddFlow s t = false →
      post false { d with pending := d.pending ++ [(s, t)] }) :
    Yields (connect s t) d post := by
  simp only [connect, yields_bind, yields_graph]
  by_cases hflow : (s, t) ∈ d.graph.flows
  · rw [if_pos (ProcessGraph.hasFlow_iff.mpr hflow)]
    exact hthere hflow
  · rw [if_neg (by simpa using hflow)]
    simp only [yields_bind]
    refine yields_addFlow hopen (fun hadd => ?_) fun hadd => ?_
    · exact hadded hadd
    · exact hrefused hflow hadd

end Drafting

end ActivityMatrix
