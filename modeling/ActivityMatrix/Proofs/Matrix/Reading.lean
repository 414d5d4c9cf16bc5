import ActivityMatrix.Proofs.Matrix.Cells
import ActivityMatrix.Proofs.Matrix.Pairs
import Mathlib.Data.List.DropRight

/-!
# What reading a document keeps

Rows and columns go by the texts of their keys, and different keys may have the same text: the number 1
and the text `1` do. Such keys are entered into one table under one name, one after another, so that the
last row with a name replaces all cells of the rows before it, and the last column with a name replaces
the cell before it. So a cell of the matrix is what the last description under its two names describes,
and nothing else is kept (`ofDocument_keeps_last`). Only where names coincide is anything lost.

A matrix that was read from descriptions by symbols is written in a form that reads as the same matrix
(`ofDocument_toDocument_of_read`). Reading leaves a symbol alone that it has cleaned once, the names of a
table stand in it once, and the list of activities is derived from the cells in the same way again.
-/

namespace ActivityMatrix

/-! ## Symbols -/

section

variable {drop : Char → Bool} {cs : List Char}

theorem Text.dropWhile_trim : (trim drop cs).dropWhile drop = trim drop cs := by
  cases htrim : trim drop cs with
  | nil => rfl
  | cons c rest =>
      -- what is left begins with what is left after the first end is cleared
      obtain ⟨tail, htail⟩ : trim drop cs <+: cs.dropWhile drop := List.rdropWhile_prefix drop _
      have hc : drop c = false := by
        have hhead := List.head?_dropWhile_not drop cs
        rwa [← htail, htrim, List.cons_append, List.head?_cons] at hhead
      exact List.dropWhile_cons_of_neg (by simp [hc])

theorem Text.trim_trim (drop : Char → Bool) (cs : List Char) : trim drop (trim drop cs) = trim drop cs := by
  have hends : ∀ l : List Char, trim drop l = (l.dropWhile drop).rdropWhile drop := fun _ => rfl
  rw [hends (trim drop cs), dropWhile_trim, hends, List.rdropWhile_idempotent]

end

theorem Text.strip_strip (s : String) : strip (strip s) = strip s := by
  rw [strip, strip, String.toList_ofList, trimBlanks, trimBlanks, trim_trim]

/-- A symbol that has been normalized is left alone. -/
@[simp] theorem normalizeSymbol_normalizeSymbol (s : String) :
    normalizeSymbol (normalizeSymbol s) = normalizeSymbol s := by
  by_cases holder : Text.strip s = olderNand
  · have hnew : normalizeSymbol s = Existential.nand := if_pos holder
    rw [hnew]
    decide
  · have hstripped : normalizeSymbol s = Text.strip s := if_neg holder
    rw [hstripped, normalizeSymbol, Text.strip_strip, if_neg holder]

/-- The symbols of a relation are ones that normalizing leaves alone. -/
structure Relation.Normalized (r : Relation) : Prop where
  temporal : normalizeSymbol r.temporal = r.temporal
  existential : normalizeSymbol r.existential = r.existential

theorem Relation.Normalized.of_normalizeSymbol (temporal existential : String) :
    Relation.Normalized ⟨normalizeSymbol temporal, normalizeSymbol existential⟩ := by
  constructor <;> simp

namespace Matrix

variable {row column : String} {description : Document} {r : Relation} {rows columns : List (Scalar × Document)}

/-! ## Cells -/

theorem text?_eq_some_iff {document : Document} {value : String} :
    document.text? = some value ↔ document = .text value := by
  unfold Document.text?
  split
  · simp [Document.text]
  · rename_i hother
    constructor
    · intro h
      cases h
    · rintro rfl
      exact absurd rfl (hother value)

theorem lookup_of_text? {found : Option Document} {value : String}
    (h : (found.getD .null).text? = some value) : found = some (.text value) := by
  cases found with
  | none => cases h
  | some document => exact congrArg some (text?_eq_some_iff.mp h)

/-- Reading a cell succeeds exactly on what describes a relation, and answers that relation. -/
theorem readCell_eq_ok_iff : readCell row column description = .ok r ↔ Describes description r := by
  refine ⟨fun h => ?_, fun h => h.readCell_eq row column⟩
  cases description with
  | relation built =>
      obtain rfl : built = r := Except.ok.inj h
      exact .built built
  | scalar value => cases h
  | sequence items =>
      -- only a list of two can be a cell
      rcases items with _ | ⟨temporal, _ | ⟨existential, _ | ⟨_, _⟩⟩⟩
      · cases h
      · cases h
      · simp only [readCell, listedSymbols] at h
        split at h
        · rename_i t e ht he
          obtain rfl := text?_eq_some_iff.mp ht
          obtain rfl := text?_eq_some_iff.mp he
          obtain rfl := Except.ok.inj h
          exact .listed t e
        · cases h
      · cases h
  | mapping entries =>
      simp only [readCell, listedSymbols] at h
      split at h
      · rename_i t e ht he
        obtain rfl := Except.ok.inj h
        exact .named (lookup_of_text? ht) (lookup_of_text? he)
      · cases h

/-! ## Rows and columns -/

/-- A document stands under a key, and no later key has the same text. -/
def StandsLast (entries : List (Scalar × Document)) (key : Scalar) (document : Document) : Prop :=
  Table.IsLastNamed (fun entry : Scalar × Document => entry.1.name) entries (key, document)

theorem readRow_step (row : String) (done : Table String Relation) (entry : Scalar × Document) :
    (do return done.insert entry.1.name (← readCell row entry.1.name entry.2)) =
      (readCell row entry.1.name entry.2).map (done.insert entry.1.name) := by
  cases readCell row entry.1.name entry.2 <;> rfl

theorem exists_readRow_iff :
    (∃ cells, readRow row columns = .ok cells) ↔ ∀ cell ∈ columns, ∃ r, Describes cell.2 r := by
  rw [readRow, Table.exists_foldlM_insert_iff (readRow_step row)]
  simp only [readCell_eq_ok_iff]

theorem find?_of_readRow {cells : Table String Relation} (h : readRow row columns = .ok cells) :
    cells.find? column = some r ↔
      ∃ key leaf, StandsLast columns key leaf ∧ key.name = column ∧ Describes leaf r := by
  rw [Table.find?_foldlM_insert (readRow_step row) h]
  simp [readCell_eq_ok_iff, StandsLast, Table.find?, Table.empty]

/-- What is read of one row. -/
def readRowEntry (entry : Scalar × Document) : Except ReadError (Table String Relation) :=
  match entry.2 with
  | .mapping columns => (readRow entry.1.name columns).mapError .badCell
  | _ => .error (.rowNotAMapping entry.1.name)

theorem readRowEntry_eq_ok_iff {entry : Scalar × Document} {cells : Table String Relation} :
    readRowEntry entry = .ok cells ↔
      ∃ columns, entry.2 = .mapping columns ∧ readRow entry.1.name columns = .ok cells := by
  obtain ⟨key, document⟩ := entry
  cases document with
  | mapping columns =>
      cases hread : readRow key.name columns <;> simp [readRowEntry, hread, Except.mapError]
  | _ => simp [readRowEntry]

theorem readRows_step (done : Cells) (entry : Scalar × Document) :
    (match entry.2 with
      | .mapping columns => do
          return done.insert entry.1.name (← (readRow entry.1.name columns).mapError .badCell)
      | _ => .error (.rowNotAMapping entry.1.name)) =
      (readRowEntry entry).map (done.insert entry.1.name) := by
  obtain ⟨key, document⟩ := entry
  cases document with
  | mapping columns =>
      cases hread : readRow key.name columns <;> simp [readRowEntry, hread, Except.mapError] <;> rfl
  | _ => rfl

theorem find?_of_readRows {cells : Cells} {found : Table String Relation}
    (h : readRows rows = .ok cells) : cells.find? row = some found ↔
      ∃ key columns, StandsLast rows key (.mapping columns) ∧ key.name = row ∧
        readRow row columns = .ok found := by
  have hempty : ¬ (row ∉ rows.map (fun entry => entry.1.name) ∧
      (Table.empty : Cells).find? row = some found) := fun hnone => by cases hnone.2
  rw [Table.find?_foldlM_insert readRows_step h, or_iff_left hempty]
  constructor
  · rintro ⟨⟨key, document⟩, hlast, rfl, hread⟩
    obtain ⟨columns, rfl, hread⟩ := readRowEntry_eq_ok_iff.mp hread
    exact ⟨key, columns, hlast, rfl, hread⟩
  · rintro ⟨key, columns, hlast, rfl, hread⟩
    exact ⟨_, hlast, rfl, readRowEntry_eq_ok_iff.mpr ⟨columns, rfl, hread⟩⟩

/-! ## Matrices -/

theorem readRows_of_ofDocument {m : Matrix} (h : ofDocument (.mapping rows) = .ok m) :
    readRows rows = .ok m.cells := by
  cases hread : readRows rows with
  | error fault => simp [ofDocument, hread, Except.map] at h
  | ok cells =>
      obtain rfl : ofCells cells [] = m := by simpa [ofDocument, hread, Except.map] using h
      rfl

/-- A document describes a matrix if all its rows are mappings and all its leaves describe relations. -/
theorem exists_ofDocument_iff : (∃ m, ofDocument (.mapping rows) = .ok m) ↔
    ∀ row ∈ rows, ∃ columns, row.2 = .mapping columns ∧ ∀ cell ∈ columns, ∃ r, Describes cell.2 r := by
  have hread : (∃ m, ofDocument (.mapping rows) = .ok m) ↔ ∃ cells, readRows rows = .ok cells := by
    constructor
    · rintro ⟨m, hm⟩
      exact ⟨m.cells, readRows_of_ofDocument hm⟩
    · rintro ⟨cells, hcells⟩
      exact ⟨ofCells cells [], by rw [ofDocument, hcells]; rfl⟩
  have hrows : (∃ cells, readRows rows = .ok cells) ↔ ∀ row ∈ rows, ∃ cells, readRowEntry row = .ok cells :=
    Table.exists_foldlM_insert_iff readRows_step
  rw [hread, hrows]
  refine forall₂_congr fun row _ => ?_
  simp only [readRowEntry_eq_ok_iff]
  constructor
  · rintro ⟨cells, columns, hcolumns, hcells⟩
    exact ⟨columns, hcolumns, exists_readRow_iff.mp ⟨cells, hcells⟩⟩
  · rintro ⟨columns, hcolumns, hdescribed⟩
    obtain ⟨cells, hcells⟩ := exists_readRow_iff.mpr hdescribed
    exact ⟨cells, columns, hcolumns, hcells⟩

/-- A cell of the matrix is what the last leaf under its two names describes. -/
theorem get?_of_ofDocument {m : Matrix} (h : ofDocument (.mapping rows) = .ok m) :
    m.get? row column = some r ↔ ∃ s columns t leaf,
      (StandsLast rows s (.mapping columns) ∧ s.name = row) ∧
        (StandsLast columns t leaf ∧ t.name = column) ∧ Describes leaf r := by
  rw [get?, Option.bind_eq_some_iff]
  constructor
  · rintro ⟨cells, hrow, hcell⟩
    obtain ⟨s, columns, hs, rfl, hread⟩ := (find?_of_readRows (readRows_of_ofDocument h)).mp hrow
    obtain ⟨t, leaf, ht, rfl, hleaf⟩ := (find?_of_readRow hread).mp hcell
    exact ⟨s, columns, t, leaf, ⟨hs, rfl⟩, ⟨ht, rfl⟩, hleaf⟩
  · rintro ⟨s, columns, t, leaf, ⟨hs, rfl⟩, ⟨ht, rfl⟩, hleaf⟩
    -- the row could be read, since there is a matrix
    obtain ⟨_, hmapping, hdescribed⟩ := exists_ofDocument_iff.mp ⟨m, h⟩ _ hs.mem
    obtain rfl := Document.mapping.inj hmapping
    obtain ⟨cells, hread⟩ : ∃ cells, readRow s.name columns = .ok cells :=
      exists_readRow_iff.mpr hdescribed
    exact ⟨cells, (find?_of_readRows (readRows_of_ofDocument h)).mpr ⟨s, columns, hs, rfl, hread⟩,
      (find?_of_readRow hread).mpr ⟨t, leaf, ht, rfl, hleaf⟩⟩

/-- A matrix holds what every leaf of a document describes, in the cell that its two keys name. -/
def KeepsLeaves (rows : List (Scalar × Document)) (m : Matrix) : Prop :=
  ∀ s columns t leaf, (s, .mapping columns) ∈ rows → (t, leaf) ∈ columns →
    ∃ r, Describes leaf r ∧ m.get? s.name t.name = some r

/-- **Reading keeps the last leaf of each name.** A document either describes no matrix, because one of its
rows is no mapping or one of its leaves describes no relation, or the matrix holds the relation of every
leaf after which neither its row nor its column is named again, and nothing else. So every leaf is kept if
the rows have different names, and the columns of each row have. -/
theorem ofDocument_keeps_last (rows : List (Scalar × Document)) :
    ((∃ m, ofDocument (.mapping rows) = .ok m) ↔
      ∀ row ∈ rows, ∃ columns, row.2 = .mapping columns ∧ ∀ cell ∈ columns, ∃ r, Describes cell.2 r) ∧
    ∀ m, ofDocument (.mapping rows) = .ok m →
      (∀ s columns t leaf, StandsLast rows s (.mapping columns) → StandsLast columns t leaf →
        ∃ r, Describes leaf r ∧ m.get? s.name t.name = some r) ∧
      (∀ row column r, m.get? row column = some r → ∃ s columns t leaf,
        (StandsLast rows s (.mapping columns) ∧ s.name = row) ∧
          (StandsLast columns t leaf ∧ t.name = column) ∧ Describes leaf r) ∧
      ((rows.map (·.1.name)).Nodup →
        (∀ s columns, (s, .mapping columns) ∈ rows → (columns.map (·.1.name)).Nodup) →
          KeepsLeaves rows m) := by
  refine ⟨exists_ofDocument_iff, fun m h => ?_⟩
  have hlast : ∀ s columns t leaf, StandsLast rows s (.mapping columns) → StandsLast columns t leaf →
      ∃ r, Describes leaf r ∧ m.get? s.name t.name = some r := by
    intro s columns t leaf hs ht
    obtain ⟨_, hmapping, hdescribed⟩ := exists_ofDocument_iff.mp ⟨m, h⟩ _ hs.mem
    obtain rfl := Document.mapping.inj hmapping
    obtain ⟨r, hr⟩ := hdescribed _ ht.mem
    exact ⟨r, hr, (get?_of_ofDocument h).mpr ⟨s, columns, t, leaf, ⟨hs, rfl⟩, ⟨ht, rfl⟩, hr⟩⟩
  refine ⟨hlast, fun row column r => (get?_of_ofDocument h).mp, fun hrows hcolumns => ?_⟩
  intro s columns t leaf hs ht
  exact hlast s columns t leaf (Table.isLastNamed_of_nodup hrows hs)
    (Table.isLastNamed_of_nodup (hcolumns s columns hs) ht)

/-- Rows and columns with keys of different kinds, whose texts differ. -/
def mixedKeys : List (Scalar × Document) :=
  [(.integer 1, .mapping [(.boolean true, .texts [" < ", "⇒"]),
      (.null, .object [("temporal", .text "-"), ("existential", .text olderNand)])]),
    (.text "a", .mapping [(.integer (-2), .texts ["-", "⇔"])])]

theorem described_mixedKeys : ∀ row ∈ mixedKeys, ∃ columns, row.2 = .mapping columns ∧
    ∀ cell ∈ columns, ∃ r, Describes cell.2 r := by
  refine List.forall_mem_cons.mpr ⟨⟨_, rfl, ?_⟩, List.forall_mem_singleton.mpr ⟨_, rfl, ?_⟩⟩
  · refine List.forall_mem_cons.mpr ⟨⟨_, .listed " < " "⇒"⟩, List.forall_mem_singleton.mpr ?_⟩
    exact ⟨_, .named rfl rfl⟩
  · exact List.forall_mem_singleton.mpr ⟨_, .listed "-" "⇔"⟩

theorem ofDocument_keeps_last_mixedKeys :
    (mixedKeys.map (·.1.name)).Nodup ∧
      (∀ s columns, (s, .mapping columns) ∈ mixedKeys → (columns.map (·.1.name)).Nodup) ∧
      ∃ m, ofDocument (.mapping mixedKeys) = .ok m ∧ KeepsLeaves mixedKeys m ∧
        m.get? "1" "True" = some ⟨"<", "⇒"⟩ := by
  have hrows : (mixedKeys.map (·.1.name)).Nodup := by decide
  have hcolumns : ∀ s columns, (s, .mapping columns) ∈ mixedKeys → (columns.map (·.1.name)).Nodup := by
    intro s columns hmem
    simp only [mixedKeys, List.mem_cons, List.not_mem_nil, or_false, Prod.mk.injEq] at hmem
    rcases hmem with ⟨rfl, hcolumns⟩ | ⟨rfl, hcolumns⟩ <;> cases hcolumns <;> decide
  obtain ⟨m, hm⟩ := (ofDocument_keeps_last mixedKeys).1.mpr described_mixedKeys
  have hkeeps : KeepsLeaves mixedKeys m := ((ofDocument_keeps_last mixedKeys).2 m hm).2.2 hrows hcolumns
  obtain ⟨r, hr, hcell⟩ := hkeeps _ _ _ _ (.head _) (.head _)
  have hnames : (Scalar.integer 1).name = "1" ∧ (Scalar.boolean true).name = "True" := by decide +kernel
  have hsymbols : r = ⟨"<", "⇒"⟩ := (hr.unique (.listed " < " "⇒")).symm.trans (by decide +kernel)
  rw [hnames.1, hnames.2, hsymbols] at hcell
  exact ⟨hrows, hcolumns, m, hm, hkeeps, hcell⟩

/-- Two rows that a mapping can hold, since their keys are different, but whose names coincide. -/
def clashingRows : List (Scalar × Document) :=
  [(.integer 1, .mapping [(.text "a", .texts ["<", "⇒"])]),
    (.text "1", .mapping [(.text "b", .texts ["-", "⇔"])])]

/-- The second row takes the place of the first one, whose leaf is lost. -/
theorem not_keepsLeaves_clashingRows : Document.ofEntries clashingRows = .mapping clashingRows ∧
    ∃ m, ofDocument (.mapping clashingRows) = .ok m ∧ m.cellList = [("1", "b", ⟨"-", "⇔"⟩)] ∧
      ¬ KeepsLeaves clashingRows m := by
  have hread : (ofDocument (.mapping clashingRows)).toOption.map cellList =
      some [("1", "b", ⟨"-", "⇔"⟩)] := by decide +kernel
  obtain ⟨m, hm, hcells⟩ := Option.map_eq_some_iff.mp hread
  refine ⟨rfl, m, eq_ok_of_toOption hm, hcells, fun hkeeps => ?_⟩
  obtain ⟨r, -, hcell⟩ := hkeeps _ _ _ _ (.head _) (.head _)
  have hmem := get?_eq_some_iff.mp hcell
  rw [hcells, List.mem_singleton] at hmem
  have hcolumn : "a" = "b" := congrArg (·.2.1) hmem
  exact absurd hcolumn (by decide)

/-! ## Reading again -/

/-- No leaf of a document is a relation that is already built. -/
def Unbuilt (rows : List (Scalar × Document)) : Prop :=
  ∀ s columns t leaf, (s, .mapping columns) ∈ rows → (t, leaf) ∈ columns → ∀ r, leaf ≠ .relation r

theorem Describes.normalized (h : Describes description r) (hunbuilt : ∀ s, description ≠ .relation s) :
    r.Normalized := by
  cases h with
  | built r => exact absurd rfl (hunbuilt r)
  | listed temporal existential => exact .of_normalizeSymbol temporal existential
  | named first second => exact .of_normalizeSymbol _ _

theorem normalized_of_ofDocument {m : Matrix} (h : ofDocument (.mapping rows) = .ok m)
    (hunbuilt : Unbuilt rows) : ∀ cell ∈ m.cellList, cell.2.2.Normalized := by
  intro cell hcell
  obtain ⟨s, columns, t, leaf, ⟨hs, -⟩, ⟨ht, -⟩, hleaf⟩ :=
    (get?_of_ofDocument h).mp (get?_eq_some_iff.mpr hcell)
  exact hleaf.normalized (hunbuilt s columns t leaf hs.mem ht.mem)

theorem readCell_texts (h : r.Normalized) :
    readCell row column (.texts [r.temporal, r.existential]) = .ok r := by
  have hread : readCell row column (.texts [r.temporal, r.existential]) =
      .ok ⟨normalizeSymbol r.temporal, normalizeSymbol r.existential⟩ := rfl
  rw [hread, h.temporal, h.existential]

/-- A cell as it is written under its column. -/
def writtenCell (cell : String × Relation) : Scalar × Document :=
  (.text cell.1, .texts [cell.2.temporal, cell.2.existential])

/-- A row as it is written under its name. -/
def writtenRow (row : String × Table String Relation) : Scalar × Document :=
  (.text row.1, .mapping (row.2.entries.map writtenCell))

theorem toDocument_eq (m : Matrix) : m.toDocument = .mapping (m.cells.entries.map writtenRow) := by
  simp only [toDocument, Document.object, List.map_map]
  rfl

theorem readRow_written {cells : Table String Relation}
    (h : ∀ cell ∈ cells.entries, cell.2.Normalized) :
    readRow row (cells.entries.map writtenCell) = .ok cells :=
  Table.foldlM_insert_write (readRow_step row) (fun _ => rfl) fun cell hcell => readCell_texts (h cell hcell)

/-- Cells whose symbols are normalized are read from the document that is written of them. -/
theorem ofDocument_toDocument {m : Matrix} (hactivities : m.activities = mentioned m.cells)
    (hcells : ∀ cell ∈ m.cellList, cell.2.2.Normalized) : ofDocument m.toDocument = .ok m := by
  have hrow : ∀ row ∈ m.cells.entries, readRowEntry (writtenRow row) = .ok row.2 := by
    intro row hrow
    refine readRowEntry_eq_ok_iff.mpr ⟨_, rfl, readRow_written fun cell hcell => ?_⟩
    exact hcells (row.1, cell.1, cell.2)
      (List.mem_flatMap.mpr ⟨row, hrow, List.mem_map.mpr ⟨cell, hcell, rfl⟩⟩)
  have hread : readRows (m.cells.entries.map writtenRow) = .ok m.cells :=
    Table.foldlM_insert_write readRows_step (fun _ => rfl) hrow
  have hm : ofCells m.cells [] = m := by
    rw [ofCells, List.isEmpty_nil, if_pos rfl, ← hactivities]
  rw [toDocument_eq, ofDocument, hread, Except.map, hm]

/-- **What was read is read again.** A matrix that was read from a document whose leaves are symbols is
read from the document that is written of it: its cells and its activities are the same then, in the same
order. All its symbols are normalized. -/
theorem ofDocument_toDocument_of_read {m : Matrix} (h : ofDocument (.mapping rows) = .ok m)
    (hunbuilt : Unbuilt rows) :
    ofDocument m.toDocument = .ok m ∧
      ∀ cell ∈ m.cellList, normalizeSymbol cell.2.2.temporal = cell.2.2.temporal ∧
        normalizeSymbol cell.2.2.existential = cell.2.2.existential := by
  have hnormalized := normalized_of_ofDocument h hunbuilt
  refine ⟨ofDocument_toDocument (activities_of_ofDocument h) hnormalized, fun cell hcell => ?_⟩
  exact ⟨(hnormalized cell hcell).temporal, (hnormalized cell hcell).existential⟩

theorem ofDocument_toDocument_of_read_mixedKeys :
    Unbuilt mixedKeys ∧ ∃ m, ofDocument (.mapping mixedKeys) = .ok m ∧
      m.activities = ["1", "True", "None", "a", "-2"] ∧
      m.cellList = [("1", "True", ⟨"<", "⇒"⟩), ("1", "None", ⟨"-", Existential.nand⟩),
        ("a", "-2", ⟨"-", "⇔"⟩)] ∧
      ofDocument m.toDocument = .ok m := by
  have hunbuilt : Unbuilt mixedKeys := by
    intro s columns t leaf hrow hcell
    simp only [mixedKeys, List.mem_cons, List.not_mem_nil, or_false, Prod.mk.injEq] at hrow
    rcases hrow with ⟨rfl, hcolumns⟩ | ⟨rfl, hcolumns⟩ <;> cases hcolumns <;>
      simp only [List.mem_cons, List.not_mem_nil, or_false, Prod.mk.injEq] at hcell
    · rcases hcell with ⟨rfl, rfl⟩ | ⟨rfl, rfl⟩ <;> exact fun r => Document.noConfusion
    · obtain ⟨rfl, rfl⟩ := hcell
      exact fun r => Document.noConfusion
  have hread : (ofDocument (.mapping mixedKeys)).toOption.map (fun m => (m.activities, m.cellList)) =
      some (["1", "True", "None", "a", "-2"],
        [("1", "True", ⟨"<", "⇒"⟩), ("1", "None", ⟨"-", Existential.nand⟩), ("a", "-2", ⟨"-", "⇔"⟩)]) := by
    decide +kernel
  obtain ⟨m, hm, hcontent⟩ := Option.map_eq_some_iff.mp hread
  obtain ⟨hactivities, hcells⟩ := Prod.mk.inj hcontent
  have hm := eq_ok_of_toOption hm
  exact ⟨hunbuilt, m, hm, hactivities, hcells, (ofDocument_toDocument_of_read hm hunbuilt).1⟩

end Matrix

end ActivityMatrix
