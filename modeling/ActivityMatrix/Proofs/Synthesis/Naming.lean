import ActivityMatrix.Synthesis
import ActivityMatrix.Proofs.Synthesis.Yields

/-!
# What gateways are called

The id of a gateway is put together from its kind, a word for its place, and an anchor, which is an
event, an activity, or a gateway that was called in the same way; a number is added where the id is
taken. `GatewayName names id` says that `id` is such an id, and every id that a synthesis asks for is
one (`yields_gatewayId_named`). Such an id starts with the kind (`GatewayName.exists_tag`), so it is
no id of an event, of the frame of a document, or of a flow.
-/

namespace ActivityMatrix

/-- An id is a base, or a base with a number. -/
def Numbered (base id : String) : Prop :=
  id = base ∨ ∃ n : Nat, id = base ++ "_" ++ toString (n + 2)

/-- A fresh id is called by its base. -/
theorem numbered_freshId (taken : List String) (base : String) :
    Numbered base (freshId taken base) := by
  rw [freshId]
  let numbered := (List.range taken.length).map fun n => base ++ "_" ++ toString (n + 2)
  cases hfind : (base :: numbered).find? (!taken.contains ·) with
  | none => exact .inl rfl
  | some id =>
      rcases List.mem_cons.mp (List.mem_of_find?_eq_some hfind) with rfl | hid
      · exact .inl rfl
      · obtain ⟨n, -, rfl⟩ := List.mem_map.mp hid
        exact .inr ⟨n, rfl⟩

namespace Drafting

/-- The words for the places of gateways. -/
def gatewayPlaces : List String :=
  [splitPlace, joinPlace, mergedSplitPlace, mergedJoinPlace, splitAfterPlace, joinAfterPlace,
    joinBeforePlace, splitBehindPlace]

/-- What is no gateway and may be an anchor. -/
def plainAnchors (names : List String) : List String :=
  startEventId :: endEventId :: endAnchor :: names

/-- The id of a gateway before a number is added. -/
def gatewayBase (kind : GatewayKind) (place anchor : String) : String :=
  kind.tag ++ "_" ++ place ++ "_" ++ sanitizeId anchor

/-- The ids that gateways may have. -/
inductive GatewayName (names : List String) : String → Prop
  | plain {kind : GatewayKind} {place anchor id : String} (hplace : place ∈ gatewayPlaces)
      (hanchor : anchor ∈ plainAnchors names) (hid : Numbered (gatewayBase kind place anchor) id) :
      GatewayName names id
  | nested {kind : GatewayKind} {place anchor id : String} (hplace : place ∈ gatewayPlaces)
      (hanchor : GatewayName names anchor) (hid : Numbered (gatewayBase kind place anchor) id) :
      GatewayName names id

variable {names : List String} {d : Draft} {kind : GatewayKind} {place anchor id : String}

/-- An anchor is a plain one or a gateway. -/
def IsAnchor (names : List String) (anchor : String) : Prop :=
  anchor ∈ plainAnchors names ∨ GatewayName names anchor

theorem IsAnchor.gatewayName (h : IsAnchor names anchor) (hplace : place ∈ gatewayPlaces)
    (hid : Numbered (gatewayBase kind place anchor) id) : GatewayName names id :=
  h.elim (fun hanchor => .plain hplace hanchor hid) fun hanchor => .nested hplace hanchor hid

/-- A gateway is called by its kind. -/
theorem GatewayName.exists_tag (h : GatewayName names id) :
    ∃ (kind : GatewayKind) (rest : String), id = kind.tag ++ rest := by
  have hbase : ∀ {kind : GatewayKind} {place anchor : String},
      Numbered (gatewayBase kind place anchor) id → ∃ kind rest, id = GatewayKind.tag kind ++ rest := by
    rintro kind place anchor (rfl | ⟨n, rfl⟩)
    · exact ⟨kind, "_" ++ place ++ "_" ++ sanitizeId anchor,
        by simp only [gatewayBase, String.append_assoc]⟩
    · exact ⟨kind, "_" ++ place ++ "_" ++ sanitizeId anchor ++ "_" ++ toString (n + 2),
        by simp only [gatewayBase, String.append_assoc]⟩
  cases h with
  | plain _ _ hid => exact hbase hid
  | nested _ _ hid => exact hbase hid

/-- The id for a new gateway is not taken, and is put together as it should be. -/
theorem yields_gatewayId_named (hplace : place ∈ gatewayPlaces) (hanchor : IsAnchor names anchor)
    {post : String → Draft → Prop}
    (hpost : ∀ id, id ∉ d.graph.ids → GatewayName names id → post id d) :
    Yields (gatewayId kind place anchor) d post :=
  hpost _ (freshId_notMem _ _) (hanchor.gatewayName hplace (numbered_freshId _ _))

end Drafting

end ActivityMatrix
