import ActivityMatrix.Proofs.Matrix.Requirements
import ActivityMatrix.Proofs.RelationSets.Validated
import ActivityMatrix.Proofs.Table

/-!
# Listed activities

The activities of a matrix are listed beside its cells, and nothing ties the list to the cells. Validation
goes through the listed activities, while the precedences are read off all cells; so the order that
validation answers may hold activities that are not listed, namely the ends of precedences
(`mem_order_iff_of_validate`). It holds exactly the listed ones if and only if they include all ends
(`order_perm_iff`).

They do where the list is read off the cells, or holds all activities that the cells mention
(`Covers`). A matrix that is built from related pairs is of this kind if the pairs relate listed activities
(`covers_of_ofPairs`).
-/

namespace ActivityMatrix.Matrix

open ActivityMatrix.Digraph

variable {m : Matrix} {cells entered : Cells} {activities names order : List String}
  {allowed : Option (List String)} {document : Document}
  {related : Table (String × String) Document} {a b row column : String} {r : Relation}

/-- All activities that the cells mention are listed. -/
def Covers (m : Matrix) : Prop :=
  mentioned m.cells ⊆ m.activities

/-- Both ends of every strict precedence are listed. -/
def EndsListed (m : Matrix) : Prop :=
  ∀ a b, m.Precedes a b → a ∈ m.activities ∧ b ∈ m.activities

theorem Covers.endsListed (h : m.Covers) : m.EndsListed := by
  intro a b hab
  obtain ⟨cell, hcell, hends⟩ := ends_of_mem_precedenceEdges (mem_precedenceEdges.mpr hab)
  obtain ⟨hrow, hcolumn⟩ := mem_mentioned_of_mem_cellList hcell
  rcases hends with heq | heq <;> obtain ⟨rfl, rfl⟩ := Prod.mk.inj heq
  · exact ⟨h hrow, h hcolumn⟩
  · exact ⟨h hcolumn, h hrow⟩

/-! ## The order of a valid matrix -/

section Valid

variable (h : m.validate allowed = .ok order)
include h

/-- The order holds the listed activities and the ends of precedences. -/
theorem mem_order_iff_of_validate :
    a ∈ order ↔ a ∈ m.activities ∨ ∃ b, m.Precedes a b ∨ m.Precedes b a := by
  rw [mem_of_topologicalOrder_ok (RelationSets.topologicalOrder_of_validate h)]
  refine or_congr_right ⟨?_, ?_⟩
  · rintro ⟨⟨source, target⟩, hedge, rfl | rfl⟩
    · exact ⟨target, .inl (mem_precedenceEdges.mp hedge)⟩
    · exact ⟨source, .inr (mem_precedenceEdges.mp hedge)⟩
  · rintro ⟨b, hab | hba⟩
    · exact ⟨_, mem_precedenceEdges.mpr hab, .inl rfl⟩
    · exact ⟨_, mem_precedenceEdges.mpr hba, .inr rfl⟩

theorem EndsListed.mem_order_iff (hends : m.EndsListed) : a ∈ order ↔ a ∈ m.activities := by
  rw [mem_order_iff_of_validate h, or_iff_left_iff_imp]
  rintro ⟨b, hab | hba⟩
  · exact (hends a b hab).1
  · exact (hends b a hba).2

/-- The order holds exactly the listed activities if all ends of precedences are listed, and only then. -/
theorem forall_mem_order_iff : (∀ a, a ∈ order ↔ a ∈ m.activities) ↔ m.EndsListed := by
  refine ⟨fun hmem a b hab => ⟨?_, ?_⟩, fun hends a => hends.mem_order_iff h⟩
  · exact (hmem a).mp ((mem_order_iff_of_validate h).mpr (.inr ⟨b, .inl hab⟩))
  · exact (hmem b).mp ((mem_order_iff_of_validate h).mpr (.inr ⟨a, .inr hab⟩))

/-- So it does for each activity once, even if the list repeats activities. -/
theorem order_perm_iff : order.Perm (distinct m.activities) ↔ m.EndsListed := by
  have hnodup := nodup_of_topologicalOrder_ok (RelationSets.topologicalOrder_of_validate h)
  rw [← forall_mem_order_iff h, List.perm_ext_iff_of_nodup hnodup (nodup_distinct _)]
  simp only [mem_distinct]

end Valid

/-! ## Matrices whose list covers their cells -/

theorem covers_ofCells (h : mentioned cells ⊆ activities) : (ofCells cells activities).Covers := by
  rw [Covers, ofCells]
  split
  · exact List.Subset.refl _
  · exact h

theorem covers_of_ofDocument (h : ofDocument document = .ok m) : m.Covers := by
  rw [Covers, activities_of_ofDocument h]
  exact List.Subset.refl _

theorem mem_mentioned_iff_find? : a ∈ mentioned cells ↔
    a ∈ cells.keys ∨ ∃ row columns, cells.find? row = some columns ∧ a ∈ columns.keys := by
  rw [mem_mentioned]
  constructor
  · rintro ⟨⟨row, columns⟩, hrow, rfl | ha⟩
    · exact .inl (List.mem_map_of_mem hrow)
    · exact .inr ⟨row, columns, Table.find?_eq_some_iff.mpr hrow, ha⟩
  · rintro (ha | ⟨row, columns, hrow, ha⟩)
    · obtain ⟨entry, hentry, rfl⟩ := List.mem_map.mp ha
      exact ⟨entry, hentry, .inl rfl⟩
    · exact ⟨(row, columns), Table.find?_eq_some_iff.mp hrow, .inr ha⟩

/-- Entering a relation mentions its row and its column and nothing else that is new. -/
theorem mentioned_setCell (ha : a ∈ mentioned (setCell cells row column r)) :
    a = row ∨ a = column ∨ a ∈ mentioned cells := by
  simp only [mem_mentioned_iff_find?, setCell, Table.mem_keys_alter, Table.find?_alter] at ha ⊢
  rcases ha with (rfl | ha) | ⟨other, columns, hfound, ha⟩
  · exact .inl rfl
  · exact .inr (.inr (.inl ha))
  · split_ifs at hfound with hother
    · obtain rfl := Option.some.inj hfound
      rcases Table.mem_keys_insert.mp ha with rfl | ha
      · exact .inr (.inl rfl)
      · cases hold : cells.find? row with
        | none => simp [hold, Table.empty, Table.keys] at ha
        | some columns => exact .inr (.inr (.inr ⟨row, columns, hold, by simpa [hold] using ha⟩))
    · exact .inr (.inr (.inr ⟨other, columns, hfound, ha⟩))

theorem mentioned_setCell_subset (h : mentioned cells ⊆ names) (hrow : row ∈ names)
    (hcolumn : column ∈ names) : mentioned (setCell cells row column r) ⊆ names := by
  intro a ha
  rcases mentioned_setCell ha with rfl | rfl | ha
  · exact hrow
  · exact hcolumn
  · exact h ha

theorem mentioned_blankCells_subset (activities : List String) :
    mentioned (blankCells activities) ⊆ activities := by
  intro a ha
  obtain ⟨entry, hentry, ha⟩ := mem_mentioned.mp ha
  obtain ⟨row, hrow, rfl⟩ := List.mem_map.mp (Table.mem_of_mem_entries_ofList hentry)
  rcases ha with rfl | ha
  · exact hrow
  · obtain ⟨cell, hcell, rfl⟩ := List.mem_map.mp ha
    obtain ⟨column, hcolumn, rfl⟩ := List.mem_map.mp (Table.mem_of_mem_entries_ofList hcell)
    exact hcolumn

/-- Entering relations between some activities mentions no others. -/
theorem mentioned_enterPairs_subset {given : List (String × String)}
    {entries : List ((String × String) × Document)} (h : mentioned cells ⊆ names)
    (hpairs : ∀ pair ∈ entries.map Prod.fst, pair.1 ∈ names ∧ pair.2 ∈ names)
    (hentered : enterPairs cells given entries = .ok entered) : mentioned entered ⊆ names := by
  induction entries generalizing cells given with
  | nil => exact Except.ok.inj hentered ▸ h
  | cons entry rest ih =>
      obtain ⟨⟨row, column⟩, description⟩ := entry
      obtain ⟨hrow, hcolumn⟩ := hpairs _ (.head _)
      rw [enterPairs] at hentered
      cases hread : readCell row column description with
      | error fault => simp [hread, bind, Except.bind] at hentered
      | ok r =>
          simp only [hread, bind, Except.bind] at hentered
          refine ih ?_ (fun pair hpair => hpairs pair (.tail _ hpair)) hentered
          have hfirst := mentioned_setCell_subset (r := r) h hrow hcolumn
          split
          · exact hfirst
          · exact mentioned_setCell_subset hfirst hcolumn hrow

theorem covers_of_ofPairs (h : ofPairs activities related = .ok m)
    (hpairs : ∀ pair ∈ related.keys, pair.1 ∈ activities ∧ pair.2 ∈ activities) : m.Covers := by
  unfold ofPairs at h
  cases hentered : enterPairs (blankCells activities) [] related.entries with
  | error fault => simp [hentered, Except.map] at h
  | ok cells =>
      obtain rfl : ofCells cells activities = m := by simpa [hentered, Except.map] using h
      exact covers_ofCells
        (mentioned_enterPairs_subset (mentioned_blankCells_subset activities) hpairs hentered)

/-- The ways to build a matrix whose list covers its cells. -/
inductive BuiltCovering : Matrix → Prop
  /-- It is read from a document. -/
  | read {document : Document} {m : Matrix} (h : ofDocument document = .ok m) : BuiltCovering m
  /-- No activities are listed, so those that the cells mention are taken. -/
  | derived (cells : Cells) : BuiltCovering (ofCells cells [])
  /-- All activities that the cells mention are listed. -/
  | given {cells : Cells} {activities : List String} (h : mentioned cells ⊆ activities) :
      BuiltCovering (ofCells cells activities)
  /-- Listed activities are related. -/
  | paired {activities : List String} {related : Table (String × String) Document} {m : Matrix}
      (h : ofPairs activities related = .ok m)
      (listed : ∀ pair ∈ related.keys, pair.1 ∈ activities ∧ pair.2 ∈ activities) : BuiltCovering m

theorem BuiltCovering.covers (h : BuiltCovering m) : m.Covers := by
  cases h with
  | read h => exact covers_of_ofDocument h
  | derived cells => exact List.Subset.refl _
  | given h => exact covers_ofCells h
  | paired h listed => exact covers_of_ofPairs h listed

end ActivityMatrix.Matrix
