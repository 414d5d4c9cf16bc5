import Mathlib.Data.List.Chain
import ActivityMatrix.Artifacts
import ActivityMatrix.Proofs.ProcessGraph.Identifiers
import ActivityMatrix.Proofs.Synthesis.Outcome
import ActivityMatrix.Proofs.Synthesis.Shown

/-!
# Whether the ids of a diagram are distinct

The id of a flow joins the ids of its ends with an underscore, and underscores stand in the ids of
events and gateways, and possibly in the names of activities: the flows from `a` to `b_c` and from
`a_b` to `c` share an id. We read an id as its words, which underscores part. In a *legible* id the
words that open an id of an event or a gateway stand at the front or behind a word for a place, and no
such word stands at the end. Two legible ids can be told apart in a row (`eq_of_words_append_eq`), and
all nodes of a diagram have legible ids if the activities are *plain*: named without underscores, and
without the words that ids are made of. So the diagram of plain activities has distinct ids, and in
general it is known when it has (`distinct_ids_iff`).
-/

namespace ActivityMatrix

open Drafting

variable {id a b place anchor : String} {names : List String} {kind : GatewayKind}
  {front back : List (List Char)}

/-! ## The words of an id -/

/-- The words of an id. -/
def words (id : String) : List (List Char) :=
  id.toList.splitOn '_'

theorem words_ne_nil (id : String) : words id ≠ [] :=
  List.splitOn_ne_nil _ _

theorem words_append (a b : String) : words (a ++ "_" ++ b) = words a ++ words b := by
  simp only [words, String.toList_append, List.append_assoc]
  exact List.splitOnP_append_cons a.toList b.toList (beq_self_eq_true '_')

/-- A text without underscores is one word. -/
theorem words_of_notMem (h : '_' ∉ id.toList) : words id = [id.toList] :=
  List.splitOn_eq_singleton h

theorem words_injective : Function.Injective words := by
  intro a b h
  have hjoin := congrArg (List.intercalate ['_']) h
  rwa [words, words, List.intercalate_splitOn, List.intercalate_splitOn, String.toList_inj] at hjoin

/-- The words that open the id of an event or of a gateway. -/
def openingWords : List (List Char) :=
  ["StartEvent".toList, "EndEvent".toList] ++ GatewayKind.all.map (·.tag.toList)

/-- The words for the places of gateways. -/
def placeWords : List (List Char) :=
  ["Split".toList, "Join".toList, "Merged".toList, "After".toList, "Before".toList]

/-- Whether a word may stand behind another one: an opening word only behind a word for a place. -/
def MayFollow (word next : List Char) : Prop :=
  next ∈ openingWords → word ∈ placeWords

instance : DecidableRel MayFollow :=
  fun word next => inferInstanceAs (Decidable (next ∈ openingWords → word ∈ placeWords))

/-- Words each of which may stand where it does, and of which the last is no word for a place. -/
structure Regular (ws : List (List Char)) : Prop where
  chain : ws.IsChain MayFollow
  closed : ∀ word ∈ ws.getLast?, word ∉ placeWords

instance : DecidablePred Regular := fun ws =>
  decidable_of_iff (ws.IsChain MayFollow ∧ ∀ word ∈ ws.getLast?, word ∉ placeWords)
    ⟨fun h => ⟨h.1, h.2⟩, fun h => ⟨h.chain, h.closed⟩⟩

/-- Regular words may have others in front of them. -/
theorem Regular.append (hback : Regular back) (hne : back ≠ []) (hfront : front.IsChain MayFollow)
    (hjoin : ∀ word ∈ front.getLast?, ∀ next ∈ back.head?, MayFollow word next) :
    Regular (front ++ back) where
  chain := hfront.append hback.chain hjoin
  closed word hword := by
    rw [List.getLast?_append_of_ne_nil _ hne] at hword
    exact hback.closed word hword

/-- Regular words do not go on with an opening word. -/
theorem Regular.not_append (hfront : Regular front) (hne : front ≠ [])
    (hopen : ∃ word ∈ back.head?, word ∈ openingWords) : ¬ Regular (front ++ back) := by
  intro h
  obtain ⟨next, hnext, hopen⟩ := hopen
  have hlast : front.getLast hne ∈ front.getLast? := List.getLast?_eq_some_getLast hne
  have hjoin := (List.isChain_append.mp h.chain).2.2 _ hlast _ hnext hopen
  exact hfront.closed _ hlast hjoin

/-- An id of regular words that is one word or begins with an opening word. -/
structure Legible (id : String) : Prop extends Regular (words id) where
  opened : (words id).length = 1 ∨ ∃ word ∈ (words id).head?, word ∈ openingWords

instance : DecidablePred Legible := fun id =>
  decidable_of_iff (Regular (words id) ∧
      ((words id).length = 1 ∨ ∃ word ∈ (words id).head?, word ∈ openingWords))
    ⟨fun h => ⟨h.1, h.2⟩, fun h => ⟨h.toRegular, h.opened⟩⟩

/-- No legible id goes on with words of a legible id that end before it does. -/
theorem Legible.eq_nil_of_words_eq {a a' b b' : String} {rest : List (List Char)} (ha : Legible a)
    (ha' : Legible a') (hb : Legible b) (hlong : words a' = words a ++ rest)
    (hshort : words b = rest ++ words b') : rest = [] := by
  by_contra hne
  have hlength : (words b).length ≠ 1 := by
    have hrest := List.length_pos_iff.mpr hne
    have hb' := List.length_pos_iff.mpr (words_ne_nil b')
    rw [hshort, List.length_append]
    omega
  have hopen : ∃ word ∈ rest.head?, word ∈ openingWords := by
    obtain ⟨word, hword, hopen⟩ := hb.opened.resolve_left hlength
    rw [hshort, List.head?_append_of_ne_nil _ hne] at hword
    exact ⟨word, hword, hopen⟩
  refine ha.toRegular.not_append (words_ne_nil a) hopen ?_
  rw [← hlong]
  exact ha'.toRegular

/-- Two legible ids can be told apart in a row. -/
theorem eq_of_words_append_eq {a a' b b' : String} (ha : Legible a) (ha' : Legible a')
    (hb : Legible b) (hb' : Legible b') (h : words a ++ words b = words a' ++ words b') :
    a = a' ∧ b = b' := by
  rcases List.append_eq_append_iff.mp h with ⟨rest, hlong, hshort⟩ | ⟨rest, hlong, hshort⟩
  · obtain rfl := ha.eq_nil_of_words_eq ha' hb hlong hshort
    rw [List.append_nil] at hlong
    exact ⟨(words_injective hlong).symm, words_injective hshort⟩
  · obtain rfl := ha'.eq_nil_of_words_eq ha hb' hlong hshort
    rw [List.append_nil] at hlong
    exact ⟨words_injective hlong, (words_injective hshort).symm⟩

theorem words_flowId (flow : Flow) :
    words (flowId flow) = words "Flow" ++ (words flow.1 ++ words flow.2) := by
  rw [← words_append, ← words_append]
  congr 1

/-- Flows between legible ids share no id. -/
theorem eq_of_flowId_eq {flow other : Flow} (hsource : Legible flow.1) (htarget : Legible flow.2)
    (hsource' : Legible other.1) (htarget' : Legible other.2) (h : flowId flow = flowId other) :
    flow = other := by
  have hwords := congrArg words h
  rw [words_flowId, words_flowId, List.append_cancel_left_eq] at hwords
  exact Prod.ext_iff.mpr (eq_of_words_append_eq hsource hsource' htarget htarget' hwords)

/-! ## The ids of gateways -/

theorem sanitizeId_append (a b : String) : sanitizeId (a ++ b) = sanitizeId a ++ sanitizeId b := by
  simp only [sanitizeId, String.toList_append, List.map_append, String.ofList_append]

/-- What is left of a text has no character to be replaced. -/
theorem sanitizeId_sanitizeId (a : String) : sanitizeId (sanitizeId a) = sanitizeId a := by
  have hchar : ∀ c : Char, (if (if c.isAlphanum then c else '_').isAlphanum
      then (if c.isAlphanum then c else '_') else '_') = if c.isAlphanum then c else '_' := by
    intro c
    by_cases h : c.isAlphanum <;> simp [h]
  simp only [sanitizeId, String.toList_ofList, List.map_map]
  congr 1
  exact List.map_congr_left fun c _ => hchar c

theorem isDigit_of_mem_toString {n : Nat} {c : Char} (h : c ∈ (toString n).toList) :
    c.isDigit = true := by
  rw [Nat.toString_eq_repr, Nat.toList_repr] at h
  exact Nat.isDigit_of_mem_toDigits (by decide) (by decide) h

theorem sanitizeId_toString (n : Nat) : sanitizeId (toString n) = toString n := by
  have hmap : (toString n).toList.map (fun c => if c.isAlphanum then c else '_') =
      (toString n).toList.map id := by
    refine List.map_congr_left fun c hc => ?_
    simp [Char.isAlphanum, isDigit_of_mem_toString hc]
  rw [sanitizeId, hmap, List.map_id, String.ofList_toList]

theorem sanitizeId_gatewayBase (hplace : place ∈ gatewayPlaces) :
    sanitizeId (gatewayBase kind place anchor) = gatewayBase kind place anchor := by
  have htag : sanitizeId kind.tag = kind.tag := by
    cases kind <;> decide
  have hplaces : ∀ place ∈ gatewayPlaces, sanitizeId place = place := by
    decide
  have hunderscore : sanitizeId "_" = "_" := by decide
  simp only [gatewayBase, sanitizeId_append, sanitizeId_sanitizeId, htag, hplaces place hplace,
    hunderscore]

/-- Gateways are called as they would be after their characters are replaced. -/
theorem sanitizeId_of_numbered (hplace : place ∈ gatewayPlaces)
    (hid : Numbered (gatewayBase kind place anchor) id) : sanitizeId id = id := by
  rcases hid with rfl | ⟨n, rfl⟩
  · exact sanitizeId_gatewayBase hplace
  · have hunderscore : sanitizeId "_" = "_" := by decide
    simp only [sanitizeId_append, sanitizeId_gatewayBase hplace, sanitizeId_toString, hunderscore]

theorem sanitizeId_gatewayName (h : GatewayName names id) : sanitizeId id = id := by
  cases h with
  | plain hplace _ hid => exact sanitizeId_of_numbered hplace hid
  | nested hplace _ hid => exact sanitizeId_of_numbered hplace hid

/-- A number is neither an opening word nor a word for a place. -/
theorem words_toString (n : Nat) :
    ∃ word, words (toString n) = [word] ∧ word ∉ openingWords ∧ word ∉ placeWords := by
  have hunderscore : '_' ∉ (toString n).toList := fun h =>
    absurd (isDigit_of_mem_toString h) (by decide)
  have hletter : ∀ word ∈ openingWords ++ placeWords, word.all Char.isDigit = false := by decide
  have hdigits : (toString n).toList.all Char.isDigit = true :=
    List.all_eq_true.mpr fun _ => isDigit_of_mem_toString
  have hnone : (toString n).toList ∉ openingWords ++ placeWords := by
    intro h
    rw [hletter _ h] at hdigits
    cases hdigits
  rw [List.mem_append, not_or] at hnone
  exact ⟨_, words_of_notMem hunderscore, hnone⟩

/-- The words of a gateway in front of those of its anchor. -/
theorem isChain_front (kind : GatewayKind) (hplace : place ∈ gatewayPlaces) :
    (words kind.tag ++ words place).IsChain MayFollow ∧
      ∀ word ∈ (words kind.tag ++ words place).getLast?, word ∈ placeWords := by
  have hall : ∀ kind ∈ GatewayKind.all, ∀ place ∈ gatewayPlaces,
      (words kind.tag ++ words place).IsChain MayFollow ∧
        ∀ word ∈ (words kind.tag ++ words place).getLast?, word ∈ placeWords := by
    decide +kernel
  exact hall kind (by cases kind <;> decide) place hplace

theorem words_gatewayBase : words (gatewayBase kind place anchor) =
    words kind.tag ++ words place ++ words (sanitizeId anchor) := by
  rw [gatewayBase, words_append, words_append]

theorem regular_gatewayBase (hplace : place ∈ gatewayPlaces)
    (hanchor : Regular (words (sanitizeId anchor))) :
    Regular (words (gatewayBase kind place anchor)) := by
  obtain ⟨hchain, hlast⟩ := isChain_front kind hplace
  rw [words_gatewayBase]
  exact hanchor.append (words_ne_nil _) hchain fun word hword _ _ _ => hlast word hword

/-- A gateway id is opened by the kind of the gateway. -/
theorem opened_gatewayBase :
    ∃ word ∈ (words (gatewayBase kind place anchor)).head?, word ∈ openingWords := by
  have htag : ∃ word ∈ (words kind.tag).head?, word ∈ openingWords := by
    cases kind <;> decide +kernel
  rwa [words_gatewayBase, List.append_assoc, List.head?_append_of_ne_nil _ (words_ne_nil _)]

theorem regular_singleton {word : List Char} (h : word ∉ placeWords) : Regular [word] where
  chain := .singleton word
  closed last hlast := by
    obtain rfl : word = last := by simpa using hlast
    exact h

/-- Gateways have legible ids if their anchors have. -/
theorem legible_of_numbered (hplace : place ∈ gatewayPlaces)
    (hanchor : Regular (words (sanitizeId anchor)))
    (hid : Numbered (gatewayBase kind place anchor) id) : Legible id := by
  have hbase : Regular (words (gatewayBase kind place anchor)) := regular_gatewayBase hplace hanchor
  rcases hid with rfl | ⟨n, rfl⟩
  · exact ⟨hbase, .inr opened_gatewayBase⟩
  · obtain ⟨word, hword, hopening, hplace⟩ := words_toString (n + 2)
    have hwords : words (gatewayBase kind place anchor ++ "_" ++ toString (n + 2)) =
        words (gatewayBase kind place anchor) ++ [word] := by
      rw [words_append, hword]
    constructor
    · rw [hwords]
      refine (regular_singleton hplace).append (List.cons_ne_nil _ _) hbase.chain ?_
      intro last _ next hnext hopens
      obtain rfl : word = next := by simpa using hnext
      exact absurd hopens hopening
    · rw [hwords, List.head?_append_of_ne_nil _ (words_ne_nil _)]
      exact .inr opened_gatewayBase

/-! ## Plain activities -/

/-- An activity is plain if its name has no underscore, and the words that are left of it are none of
those that ids are made of. -/
def Plain (a : String) : Prop :=
  '_' ∉ a.toList ∧ ∀ word ∈ words (sanitizeId a), word ∉ openingWords ∧ word ∉ placeWords

instance : DecidablePred Plain :=
  fun a => inferInstanceAs (Decidable ('_' ∉ a.toList ∧
    ∀ word ∈ words (sanitizeId a), word ∉ openingWords ∧ word ∉ placeWords))

namespace Plain

variable (h : Plain a)
include h

theorem regular_sanitizeId : Regular (words (sanitizeId a)) where
  chain := (List.pairwise_of_forall_mem_list fun _ _ next hnext hopens =>
    absurd hopens (h.2 next hnext).1).isChain
  closed word hword := (h.2 word (List.mem_of_getLast? hword)).2

/-- A plain activity is one word, and that is no word for a place. -/
theorem legible : Legible a := by
  have hplace : a.toList ∉ placeWords := by
    intro hmem
    have hkept : ∀ word ∈ placeWords, word ∈ words (sanitizeId (String.ofList word)) := by
      decide +kernel
    have hword := hkept _ hmem
    rw [String.ofList_toList] at hword
    exact (h.2 _ hword).2 hmem
  have hwords := words_of_notMem h.1
  refine ⟨?_, .inl (by rw [hwords]; rfl)⟩
  rw [hwords]
  exact regular_singleton hplace

/-- A plain activity is called neither like the frame, nor like the process, nor like a flow. -/
theorem notMem_frame (flows : List Flow) : a ∉ ProcessGraph.definitionsId ::
    ProcessGraph.processId :: flows.map flowId := by
  simp only [List.mem_cons, List.mem_map, not_or, not_exists, not_and]
  refine ⟨?_, ?_, ?_⟩
  · rintro rfl
    exact h.1 (by decide)
  · rintro rfl
    exact h.1 (by decide)
  · rintro flow - rfl
    exact h.1 (by simp [flowId, String.toList_append])

end Plain

/-- Whatever may be an anchor has a legible id and gives one to a gateway. -/
theorem legible_of_isAnchor (hplain : ∀ a ∈ names, Plain a) (h : IsAnchor names anchor) :
    Legible anchor ∧ Regular (words (sanitizeId anchor)) := by
  have hfixed : ∀ anchor ∈ plainAnchors names,
      Legible anchor ∧ Regular (words (sanitizeId anchor)) := by
    -- the ids of the events are fixed texts
    have hevents : ∀ anchor ∈ [startEventId, endEventId, endAnchor],
        Legible anchor ∧ Regular (words (sanitizeId anchor)) := by
      decide +kernel
    intro anchor hanchor
    rcases List.mem_append (s := [startEventId, endEventId, endAnchor]).mp hanchor with h | h
    · exact hevents anchor h
    · exact ⟨(hplain anchor h).legible, (hplain anchor h).regular_sanitizeId⟩
  rcases h with h | h
  · exact hfixed anchor h
  · have hlegible : Legible anchor := by
      -- the anchor of a gateway may be a gateway, at any depth
      induction h with
      | plain hplace hanchor hid => exact legible_of_numbered hplace (hfixed _ hanchor).2 hid
      | nested hplace hanchor hid ih =>
          refine legible_of_numbered hplace ?_ hid
          rw [sanitizeId_gatewayName hanchor]
          exact ih.toRegular
    rw [sanitizeId_gatewayName h]
    exact ⟨hlegible, hlegible.toRegular⟩

/-! ## The ids of a diagram -/

namespace Synthesis

open ProcessGraph

variable {m : Matrix} {allowed : Option (List String)} {order : List String} {g : ProcessGraph}

/-- Flows between legible ids share no id. -/
theorem injOn_flowId (htidy : Tidy names g) (hplain : ∀ a ∈ names, Plain a) :
    Set.InjOn flowId {flow | flow ∈ g.flows} := by
  have hlegible : ∀ id ∈ g.ids, Legible id := fun id hid =>
    (legible_of_isAnchor hplain (htidy.isAnchor hid)).1
  rintro ⟨a, b⟩ hab ⟨a', b'⟩ hab' heq
  exact eq_of_flowId_eq (hlegible a (htidy.source_mem hab)) (hlegible b (htidy.target_mem hab))
    (hlegible a' (htidy.source_mem hab')) (hlegible b' (htidy.target_mem hab')) heq

/-- What begins with another letter is called neither like the frame, nor like the process, nor like
a flow. -/
theorem notMem_of_head (g : ProcessGraph) {text : String}
    (h : text.toList.head? ∉ [some 'D', some 'P', some 'F']) :
    text ∉ definitionsId :: processId :: g.flows.map flowId := by
  simp only [List.mem_cons, List.not_mem_nil, or_false, not_or] at h
  simp only [List.mem_cons, List.mem_map, not_or, not_exists, not_and]
  refine ⟨?_, ?_, fun flow _ => flowId_ne_of_head h.2.2⟩
  · rintro rfl
    exact h.1 rfl
  · rintro rfl
    exact h.2.1 rfl

/-- Events and gateways are called neither like the frame, nor like the process, nor like a flow. -/
theorem forall_ids_iff (htidy : Tidy names g) :
    (∀ id ∈ g.ids, id ∉ definitionsId :: processId :: g.flows.map flowId) ↔
      ∀ a ∈ names, a ∉ definitionsId :: processId :: g.flows.map flowId := by
  constructor
  · exact fun h a ha => h a (htidy.mem_ids_of_mem (.tail _ ha))
  · intro h id hid
    obtain ⟨node, hnode, rfl⟩ := ProcessGraph.mem_ids.mp hid
    cases hgateway : node.isGateway with
    | true =>
        obtain ⟨kind, rest, hname⟩ := (htidy.named node hnode hgateway).exists_tag
        rw [hname]
        refine notMem_of_head g ?_
        cases kind <;> simp [GatewayKind.tag, String.toList_append]
    | false =>
        rcases mem_fixedNodes.mp (htidy.mem_fixedNodes_of_mem hnode hgateway) with
          rfl | ⟨a, ha, -, rfl⟩ | ⟨-, rfl⟩
        · exact notMem_of_head g (by decide)
        · exact h a ha
        · exact notMem_of_head g (by decide)

/-- **Ids are distinct unless the names of activities make two of them the same.** Every valid matrix
becomes a diagram, and its ids are distinct exactly if no two flows share one and no activity is
called like the frame, the process, or a flow. Each reference of a node meets a flow that enters or
leaves it, and it names that flow alone for all nodes exactly if no two flows share an id. If all
activities are plain, then all ids are distinct and all references name one flow. -/
theorem distinct_ids_iff (hvalid : m.validate allowed = .ok order) (options : SynthesisOptions)
    (pretty : Bool) :
    ∃ result, m.toBpmn allowed options pretty = .ok (Xml.write pretty result.graph.toXml, result) ∧
      (result.graph.toXml.HasDistinctIds ↔
        Set.InjOn flowId {flow | flow ∈ result.graph.flows} ∧
          ∀ a ∈ order, a ∉ definitionsId :: processId :: result.graph.flows.map flowId) ∧
      (result.graph.toXml.ResolvesReferences ↔
        Set.InjOn flowId {flow | flow ∈ result.graph.flows}) ∧
      result.graph.toXml.MeetsReferences ∧
      ((∀ a ∈ order, Plain a) →
        result.graph.toXml.HasDistinctIds ∧ result.graph.toXml.ResolvesReferences) := by
  obtain ⟨g, result, htidy, hgraph, hbpmn⟩ := exists_diagram hvalid options pretty
  have hdistinct : result.graph.toXml.HasDistinctIds ↔
      Set.InjOn flowId {flow | flow ∈ result.graph.flows} ∧
        ∀ a ∈ order, a ∉ definitionsId :: processId :: result.graph.flows.map flowId := by
    rw [hgraph]
    refine (hasDistinctIds_iff htidy.ids_nodup htidy.flows_nodup).trans ?_
    rw [forall_ids_iff htidy]
    rfl
  have hresolves : result.graph.toXml.ResolvesReferences ↔
      Set.InjOn flowId {flow | flow ∈ result.graph.flows} := by
    rw [hgraph]
    exact resolvesReferences_iff htidy.flows_nodup htidy.source_mem
  refine ⟨result, hbpmn, hdistinct, hresolves, meetsReferences _, fun hplain => ?_⟩
  have hinj : Set.InjOn flowId {flow | flow ∈ result.graph.flows} := by
    rw [hgraph]
    exact show Set.InjOn flowId {flow | flow ∈ g.flows} from injOn_flowId htidy hplain
  exact ⟨hdistinct.mpr ⟨hinj, fun a ha => (hplain a ha).notMem_frame _⟩, hresolves.mpr hinj⟩

/-- Two precedences whose flows share an id. -/
def ambiguous : Matrix :=
  .ofPrecedences ["a", "a_b", "b_c", "c"] [("a", "b_c"), ("a_b", "c")]

theorem validate_ambiguous : ambiguous.validate none = .ok ["a", "a_b", "b_c", "c"] :=
  eq_ok_of_toOption (by decide +kernel)

theorem distinct_ids_iff_ambiguous :
    (ambiguous.validate none = .ok ["a", "a_b", "b_c", "c"] ∧
      ∃ result, ambiguous.toBpmn none {} true = .ok (Xml.write true result.graph.toXml, result) ∧
        ¬ result.graph.toXml.HasDistinctIds ∧ ¬ result.graph.toXml.ResolvesReferences) ∧
    (crossing.validate none = .ok crossingOrder ∧ (∀ a ∈ crossingOrder, Plain a) ∧
      ∃ result, crossing.toBpmn none {} true = .ok (Xml.write true result.graph.toXml, result) ∧
        result.graph.toXml.HasDistinctIds ∧ result.graph.toXml.ResolvesReferences) := by
  constructor
  · obtain ⟨result, hbpmn, hdistinct, hresolves, -⟩ := distinct_ids_iff validate_ambiguous {} true
    have hboth : ∀ answer ∈ (ambiguous.toBpmn none {} true).toOption,
        ("a", "b_c") ∈ answer.2.graph.flows ∧ ("a_b", "c") ∈ answer.2.graph.flows := by
      decide +kernel
    obtain ⟨hflow, hother⟩ := hboth (_, result) (by rw [hbpmn]; rfl)
    have hshared : ¬ Set.InjOn flowId {flow | flow ∈ result.graph.flows} := fun h =>
      absurd (h hflow hother (by decide)) (by decide)
    exact ⟨validate_ambiguous, result, hbpmn, fun h => hshared (hdistinct.mp h).1,
      fun h => hshared (hresolves.mp h)⟩
  · have hplain : ∀ a ∈ crossingOrder, Plain a := by decide +kernel
    obtain ⟨result, hbpmn, -, -, -, hnone⟩ := distinct_ids_iff validate_crossing {} true
    exact ⟨validate_crossing, hplain, result, hbpmn, hnone hplain⟩

end Synthesis

end ActivityMatrix
