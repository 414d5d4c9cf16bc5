import ActivityMatrix.Proofs.Matrix.Requirements

/-!
# Matrices from one direction of each pair

A matrix is built from relations that are given for some pairs of activities, one after another. Each one
is entered into its own cell, and its converse into the other cell of the pair unless that cell was given
before; so in general the outcome depends on the order in which the relations are given.

Where no pair is given in both directions it does not (`ofPairs_decides`). No relation is ever overwritten
then: the cells are identity on the diagonal, what is given, its converse on the other side, and unrelated
elsewhere (`Completes`). The two cells of a pair are converses, so they never contradict each other, and all
that validation can find fault with is what was given: its symbols, their combination, and the cycles of
the precedences.
-/

namespace ActivityMatrix.Matrix

variable {activities : List String} {related : Table (String × String) Document}
  {allowed : Option (List String)} {m : Matrix} {a b row column : String} {r s : Relation}
  {description : Document} {f : String → String → Relation} {given : List (String × String)}
  {entries : List ((String × String) × Document)}

/-! ## Descriptions of relations -/

/-- A document describes a relation. -/
inductive Describes : Document → Relation → Prop
  /-- The relation is already built. -/
  | built (r : Relation) : Describes (.relation r) r
  /-- Its symbols are listed. -/
  | listed (temporal existential : String) :
      Describes (.sequence [.text temporal, .text existential])
        ⟨normalizeSymbol temporal, normalizeSymbol existential⟩
  /-- Its symbols are named. -/
  | named {entries : List (Scalar × Document)} {temporal existential : String}
      (first : Document.lookup "temporal" entries = some (.text temporal))
      (second : Document.lookup "existential" entries = some (.text existential)) :
      Describes (.mapping entries) ⟨normalizeSymbol temporal, normalizeSymbol existential⟩

/-- Reading a description answers the relation that it describes. -/
theorem Describes.readCell_eq (h : Describes description r) (a b : String) :
    readCell a b description = .ok r := by
  cases h with
  | built r => rfl
  | listed temporal existential => rfl
  | named first second =>
      simp only [readCell, listedSymbols, first, second, Option.getD_some]
      rfl

theorem Describes.unique (h : Describes description r) (h' : Describes description s) : s = r :=
  Except.ok.inj ((h'.readCell_eq "" "").symm.trans (h.readCell_eq "" ""))

/-- A relation is given for an ordered pair of activities. -/
def Gives (entries : List ((String × String) × Document)) (a b : String) (r : Relation) : Prop :=
  ∃ description, ((a, b), description) ∈ entries ∧ Describes description r

theorem Gives.mem_keys (h : Gives entries a b r) : (a, b) ∈ entries.map Prod.fst := by
  obtain ⟨description, hmem, -⟩ := h
  exact List.mem_map_of_mem hmem

theorem exists_gives (hdescribed : ∀ entry ∈ entries, ∃ r, Describes entry.2 r)
    (hab : (a, b) ∈ entries.map Prod.fst) : ∃ r, Gives entries a b r := by
  obtain ⟨⟨key, description⟩, hentry, rfl⟩ := List.mem_map.mp hab
  obtain ⟨r, hr⟩ := hdescribed _ hentry
  exact ⟨r, description, hentry, hr⟩

/-- What is given states that an activity strictly precedes another one, read from either of the two. -/
def GivesPrecedence (entries : List ((String × String) × Document)) (a b : String) : Prop :=
  (∃ r, Gives entries a b r ∧ r.precedes) ∨ ∃ r, Gives entries b a r ∧ r.follows

/-- Relations are given for pairs of different listed activities, and for no pair in both directions. -/
structure OneSided (activities : List String) (related : Table (String × String) Document) : Prop where
  listed : ∀ pair ∈ related.keys, pair.1 ∈ activities ∧ pair.2 ∈ activities
  different : ∀ pair ∈ related.keys, pair.1 ≠ pair.2
  described : ∀ entry ∈ related.entries, ∃ r, Describes entry.2 r
  single : ∀ pair ∈ related.keys, pair.swap ∉ related.keys

/-- A matrix completes given relations: there is a cell for every two listed activities and for no others,
and it holds identity, what is given, the converse of what is given for the other direction, or else
nothing but that the two are unrelated. -/
structure Completes (activities : List String) (entries : List ((String × String) × Document))
    (m : Matrix) : Prop where
  activities_eq : m.activities = activities
  rows_eq : m.rows = activities
  listed : ∀ a b r, m.get? a b = some r → a ∈ activities ∧ b ∈ activities
  diagonal : ∀ a ∈ activities, m.get? a a = some .identity
  stated : ∀ a b r, Gives entries a b r → m.get? a b = some r
  mirrored : ∀ a b r, Gives entries a b r → m.get? b a = some r.converse
  unrelated : ∀ a ∈ activities, ∀ b ∈ activities, a ≠ b → (a, b) ∉ entries.map Prod.fst →
    (b, a) ∉ entries.map Prod.fst → m.get? a b = some .unrelated

/-! ## Cells for all listed activities -/

/-- The cells that a function fills for all pairs of listed activities. -/
def filledCells (activities : List String) (f : String → String → Relation) : Cells :=
  .tabulate activities fun row => .tabulate activities (f row)

theorem blankCells_eq (activities : List String) :
    blankCells activities = filledCells activities defaultRelation :=
  rfl

/-- A function with another value for one row and column. -/
def enter (f : String → String → Relation) (row column : String) (r : Relation) :
    String → String → Relation :=
  Function.update f row (Function.update (f row) column r)

@[simp] theorem enter_self : enter f row column r row column = r := by
  simp [enter]

theorem enter_of_ne (h : (a, b) ≠ (row, column)) : enter f row column r a b = f a b := by
  by_cases ha : a = row
  · subst ha
    have hb : b ≠ column := fun heq => h (by rw [heq])
    simp [enter, hb]
  · simp [enter, ha]

theorem setCell_filledCells (hnodup : activities.Nodup) (hrow : row ∈ activities)
    (hcolumn : column ∈ activities) :
    setCell (filledCells activities f) row column r = filledCells activities (enter f row column r) := by
  rw [setCell, filledCells, Table.alter_tabulate hnodup hrow, Option.getD_some,
    Table.insert_tabulate hnodup hcolumn, filledCells]
  congr 1
  refine funext fun a => ?_
  by_cases ha : a = row
  · subst ha
    simp [enter]
  · simp [enter, ha]

theorem get?_filledCells (hnodup : activities.Nodup) :
    get? ⟨filledCells activities f, activities⟩ a b = some r ↔
      a ∈ activities ∧ b ∈ activities ∧ f a b = r := by
  rw [get?, Option.bind_eq_some_iff, filledCells]
  constructor
  · rintro ⟨columns, hcolumns, hcell⟩
    obtain ⟨ha, rfl⟩ := (Table.find?_tabulate_eq_some_iff hnodup).mp hcolumns
    obtain ⟨hb, heq⟩ := (Table.find?_tabulate_eq_some_iff hnodup).mp hcell
    exact ⟨ha, hb, heq⟩
  · rintro ⟨ha, hb, heq⟩
    exact ⟨_, (Table.find?_tabulate_eq_some_iff hnodup).mpr ⟨ha, rfl⟩,
      (Table.find?_tabulate_eq_some_iff hnodup).mpr ⟨hb, heq⟩⟩

/-! ## Entering relations one after another -/

/-- Relations that can be entered without overwriting each other: every pair is given once, in one
direction only, and its other direction was not given before. -/
structure Enterable (activities : List String) (given : List (String × String))
    (entries : List ((String × String) × Document)) : Prop where
  listed : ∀ pair ∈ entries.map Prod.fst, pair.1 ∈ activities ∧ pair.2 ∈ activities
  described : ∀ entry ∈ entries, ∃ r, Describes entry.2 r
  nodup : (entries.map Prod.fst).Nodup
  single : ∀ pair ∈ entries.map Prod.fst, pair.swap ∉ entries.map Prod.fst
  fresh : ∀ pair ∈ entries.map Prod.fst, pair.swap ∉ given

theorem Enterable.tail {entry : (String × String) × Document}
    (h : Enterable activities given (entry :: entries)) :
    Enterable activities (entry.1 :: given) entries where
  listed := fun pair hpair => h.listed pair (.tail _ hpair)
  described := fun other hother => h.described other (.tail _ hother)
  nodup := (List.nodup_cons.mp h.nodup).2
  single := fun pair hpair hswap => h.single pair (.tail _ hpair) (.tail _ hswap)
  fresh := fun pair hpair hswap => (List.mem_cons.mp hswap).elim
    (fun heq => h.single pair (.tail _ hpair) (heq ▸ .head _)) (h.fresh pair (.tail _ hpair))

/-- A function after what is given has been entered for both directions of each pair. -/
structure FilledFrom (entries : List ((String × String) × Document))
    (f filled : String → String → Relation) : Prop where
  entered : ∀ a b r, Gives entries a b r → filled a b = r ∧ filled b a = r.converse
  kept : ∀ a b, (a, b) ∉ entries.map Prod.fst → (b, a) ∉ entries.map Prod.fst → filled a b = f a b

/-- Relations that do not overwrite each other are all found in their two cells in the end. -/
theorem exists_filledFrom (hnodup : activities.Nodup) (h : Enterable activities given entries)
    (f : String → String → Relation) : ∃ filled, FilledFrom entries f filled ∧
      enterPairs (filledCells activities f) given entries = .ok (filledCells activities filled) := by
  induction entries generalizing given f with
  | nil => exact ⟨f, ⟨fun a b r hr => by simp [Gives] at hr, fun _ _ _ _ => rfl⟩, rfl⟩
  | cons entry rest ih =>
      obtain ⟨⟨row, column⟩, description⟩ := entry
      obtain ⟨r, hr⟩ := h.described _ (.head _)
      obtain ⟨hrow, hcolumn⟩ := h.listed (row, column) (.head _)
      have hne : (column, row) ≠ (row, column) := fun heq =>
        h.single (row, column) (.head _) (by simp [heq])
      have hopen : ((row, column) :: given).contains (column, row) = false :=
        Bool.eq_false_iff.mpr fun hmem => (List.mem_cons.mp (List.contains_iff_mem.mp hmem)).elim hne
          (h.fresh (row, column) (.head _))
      let g := enter (enter f row column r) column row r.converse
      have hstep : enterPairs (filledCells activities f) given (((row, column), description) :: rest) =
          enterPairs (filledCells activities g) ((row, column) :: given) rest := by
        rw [enterPairs, hr.readCell_eq]
        simp only [bind, Except.bind, hopen, Bool.false_eq_true, if_false]
        rw [setCell_filledCells hnodup hrow hcolumn, setCell_filledCells hnodup hcolumn hrow]
      have hforward : g row column = r := (enter_of_ne hne.symm).trans enter_self
      have hbackward : g column row = r.converse := enter_self
      have hother : ∀ a b, (a, b) ≠ (row, column) → (b, a) ≠ (row, column) → g a b = f a b :=
        fun a b hab hba => (enter_of_ne fun heq => hba (by simp_all)).trans (enter_of_ne hab)
      -- neither direction of this pair comes again
      have hlater : (row, column) ∉ rest.map Prod.fst := (List.nodup_cons.mp h.nodup).1
      have hlater' : (column, row) ∉ rest.map Prod.fst := fun hmem =>
        h.single (row, column) (.head _) (.tail _ hmem)
      obtain ⟨filled, hfilled, hresult⟩ := ih h.tail g
      refine ⟨filled, ⟨fun a b s hs => ?_, fun a b hab hba => ?_⟩, hstep.trans hresult⟩
      · obtain ⟨found, hmem, hs⟩ := hs
        rcases List.mem_cons.mp hmem with heq | hmem
        · obtain ⟨⟨rfl, rfl⟩, rfl⟩ : (a = row ∧ b = column) ∧ found = description := by simpa using heq
          obtain rfl := hr.unique hs
          rw [hfilled.kept a b hlater hlater', hfilled.kept b a hlater' hlater]
          exact ⟨hforward, hbackward⟩
        · exact hfilled.entered a b s ⟨found, hmem, hs⟩
      · simp only [List.map_cons, List.mem_cons, not_or] at hab hba
        rw [hfilled.kept a b hab.2 hba.2, hother a b hab.1 hba.1]

/-- What was entered does not depend on the order. -/
theorem FilledFrom.eq_of_perm {entries' : List ((String × String) × Document)}
    {filled filled' : String → String → Relation} (h : FilledFrom entries f filled)
    (h' : FilledFrom entries' f filled') (hperm : entries'.Perm entries)
    (hdescribed : ∀ entry ∈ entries, ∃ r, Describes entry.2 r) : filled' = filled := by
  have hgives : ∀ {a b r}, Gives entries a b r → Gives entries' a b r := by
    rintro a b r ⟨description, hmem, hr⟩
    exact ⟨description, hperm.mem_iff.mpr hmem, hr⟩
  have hkeys : ∀ key, key ∈ entries'.map Prod.fst ↔ key ∈ entries.map Prod.fst :=
    fun key => (hperm.map Prod.fst).mem_iff
  funext a b
  by_cases hab : (a, b) ∈ entries.map Prod.fst
  · obtain ⟨r, hr⟩ := exists_gives hdescribed hab
    rw [(h.entered a b r hr).1, (h'.entered a b r (hgives hr)).1]
  · by_cases hba : (b, a) ∈ entries.map Prod.fst
    · obtain ⟨r, hr⟩ := exists_gives hdescribed hba
      rw [(h.entered b a r hr).2, (h'.entered b a r (hgives hr)).2]
    · rw [h.kept a b hab hba, h'.kept a b ((hkeys _).not.mpr hab) ((hkeys _).not.mpr hba)]

/-! ## The matrix -/

theorem OneSided.of_perm {related' : Table (String × String) Document}
    (h : OneSided activities related) (hperm : related'.entries.Perm related.entries) :
    OneSided activities related' := by
  have hkeys : ∀ {key}, key ∈ related'.keys ↔ key ∈ related.keys := (hperm.map Prod.fst).mem_iff
  exact
    { listed := fun pair hpair => h.listed pair (hkeys.mp hpair)
      different := fun pair hpair => h.different pair (hkeys.mp hpair)
      described := fun entry hentry => h.described entry (hperm.mem_iff.mp hentry)
      single := fun pair hpair hswap => h.single pair (hkeys.mp hpair) (hkeys.mp hswap) }

theorem OneSided.enterable (h : OneSided activities related) :
    Enterable activities [] related.entries where
  listed := h.listed
  described := h.described
  nodup := related.keys_nodup
  single := h.single
  fresh := fun _ _ => List.not_mem_nil

theorem ofCells_filledCells (activities : List String) (f : String → String → Relation) :
    ofCells (filledCells activities f) activities = ⟨filledCells activities f, activities⟩ := by
  cases activities <;> rfl

theorem exists_ofPairs (hnodup : activities.Nodup) (h : OneSided activities related) :
    ∃ filled, FilledFrom related.entries defaultRelation filled ∧
      ofPairs activities related = .ok ⟨filledCells activities filled, activities⟩ := by
  obtain ⟨filled, hfilled, hresult⟩ := exists_filledFrom hnodup h.enterable defaultRelation
  refine ⟨filled, hfilled, ?_⟩
  rw [ofPairs, blankCells_eq, hresult, Except.map, ofCells_filledCells]

/-- Cells that are filled from one direction of each pair complete it. -/
theorem FilledFrom.completes {filled : String → String → Relation} (hnodup : activities.Nodup)
    (h : OneSided activities related) (hfilled : FilledFrom related.entries defaultRelation filled) :
    Completes activities related.entries ⟨filledCells activities filled, activities⟩ where
  activities_eq := rfl
  rows_eq := Table.keys_tabulate hnodup
  listed := fun a b r hr =>
    have hcell := (get?_filledCells hnodup).mp hr
    ⟨hcell.1, hcell.2.1⟩
  diagonal := fun a ha => by
    have hself : (a, a) ∉ related.entries.map Prod.fst := fun hmem => h.different (a, a) hmem rfl
    refine (get?_filledCells hnodup).mpr ⟨ha, ha, ?_⟩
    rw [hfilled.kept a a hself hself, defaultRelation, if_pos rfl]
  stated := fun a b r hr => by
    obtain ⟨ha, hb⟩ := h.listed (a, b) hr.mem_keys
    exact (get?_filledCells hnodup).mpr ⟨ha, hb, (hfilled.entered a b r hr).1⟩
  mirrored := fun a b r hr => by
    obtain ⟨ha, hb⟩ := h.listed (a, b) hr.mem_keys
    exact (get?_filledCells hnodup).mpr ⟨hb, ha, (hfilled.entered a b r hr).2⟩
  unrelated := fun a ha b hb hne hab hba => by
    refine (get?_filledCells hnodup).mpr ⟨ha, hb, ?_⟩
    rw [hfilled.kept a b hab hba, defaultRelation, if_neg hne]

/-! ## What validation finds -/

section Completes

variable (hm : Completes activities related.entries m)
include hm

theorem Completes.holds_identityDiagonal : Requirement.identityDiagonal.Holds allowed m := by
  rintro a b ⟨ha, rfl, hne⟩
  exact hne (hm.diagonal a (hm.activities_eq ▸ ha))

theorem Completes.holds_allowedActivities_iff : Requirement.allowedActivities.Holds allowed m ↔
    ∀ names, allowed = some names → activities ⊆ names := by
  constructor
  · intro hholds names hnames a ha
    by_contra hnot
    exact hholds a a ⟨.inl ⟨hm.rows_eq ▸ ha, rfl⟩, names, hnames, hnot⟩
  · rintro hallowed a b ⟨hplace, names, hnames, hnot⟩
    refine hnot (hallowed names hnames ?_)
    rcases hplace with ⟨ha, rfl⟩ | ⟨r, hcell⟩
    · exact hm.rows_eq ▸ ha
    · exact (hm.listed a b r hcell).2

variable (h : OneSided activities related)
include h

/-- Every cell between different activities is given, or the converse of what is given, or unrelated. -/
theorem Completes.cell_cases (hne : a ≠ b) (hcell : m.get? a b = some r) :
    Gives related.entries a b r ∨ (∃ s, Gives related.entries b a s ∧ r = s.converse) ∨
      (r = .unrelated ∧ m.get? b a = some .unrelated) := by
  obtain ⟨ha, hb⟩ := hm.listed a b r hcell
  by_cases hab : (a, b) ∈ related.keys
  · obtain ⟨s, hs⟩ := exists_gives h.described hab
    obtain rfl := Option.some.inj ((hm.stated a b s hs).symm.trans hcell)
    exact .inl hs
  · by_cases hba : (b, a) ∈ related.keys
    · obtain ⟨s, hs⟩ := exists_gives h.described hba
      exact .inr (.inl ⟨s, hs, Option.some.inj (hcell.symm.trans (hm.mirrored b a s hs))⟩)
    · refine .inr (.inr ⟨Option.some.inj (hcell.symm.trans ?_), ?_⟩)
      · exact hm.unrelated a ha b hb hne hab hba
      · exact hm.unrelated b hb a ha hne.symm hba hab

theorem Completes.exists_get? (ha : a ∈ activities) (hb : b ∈ activities) (hne : a ≠ b) :
    ∃ r, m.get? a b = some r := by
  by_cases hab : (a, b) ∈ related.keys
  · obtain ⟨r, hr⟩ := exists_gives h.described hab
    exact ⟨r, hm.stated a b r hr⟩
  · by_cases hba : (b, a) ∈ related.keys
    · obtain ⟨r, hr⟩ := exists_gives h.described hba
      exact ⟨r.converse, hm.mirrored b a r hr⟩
    · exact ⟨_, hm.unrelated a ha b hb hne hab hba⟩

/-- The two cells of a pair are converses. -/
theorem Completes.get?_converse (hne : a ≠ b) (hcell : m.get? a b = some r) :
    m.get? b a = some r.converse := by
  rcases hm.cell_cases h hne hcell with hr | ⟨s, hs, rfl⟩ | ⟨rfl, hother⟩
  · exact hm.mirrored a b r hr
  · rw [Relation.converse_converse]
    exact hm.stated b a s hs
  · exact hother

/-- What holds of relations read from either side holds of all cells between different activities if it
holds of what is given. -/
theorem Completes.forall_cells_iff {p : Relation → Prop} (hconverse : ∀ r, p r → p r.converse)
    (hunrelated : p .unrelated) : (∀ a b r, a ≠ b → m.get? a b = some r → p r) ↔
      ∀ a b r, Gives related.entries a b r → p r := by
  constructor
  · intro hcells a b r hr
    exact hcells a b r (h.different (a, b) hr.mem_keys) (hm.stated a b r hr)
  · intro hgiven a b r hne hcell
    rcases hm.cell_cases h hne hcell with hr | ⟨s, hs, rfl⟩ | ⟨rfl, -⟩
    · exact hgiven a b r hr
    · exact hconverse s (hgiven b a s hs)
    · exact hunrelated

/-- The precedences of the matrix are those that are given. -/
theorem Completes.precedes_iff : m.Precedes a b ↔ GivesPrecedence related.entries a b := by
  constructor
  · rintro ⟨hne, ⟨r, hcell, hr⟩ | ⟨r, hcell, hr⟩⟩
    · rcases hm.cell_cases h hne hcell with hgiven | ⟨s, hs, rfl⟩ | ⟨rfl, -⟩
      · exact .inl ⟨r, hgiven, hr⟩
      · exact .inr ⟨s, hs, by simpa using hr⟩
      · exact absurd hr (by decide)
    · rcases hm.cell_cases h hne.symm hcell with hgiven | ⟨s, hs, rfl⟩ | ⟨rfl, -⟩
      · exact .inr ⟨r, hgiven, hr⟩
      · exact .inl ⟨s, hs, by simpa using hr⟩
      · exact absurd hr (by decide)
  · rintro (⟨r, hgiven, hr⟩ | ⟨r, hgiven, hr⟩)
    · exact ⟨h.different (a, b) hgiven.mem_keys, .inl ⟨r, hm.stated a b r hgiven, hr⟩⟩
    · exact ⟨(h.different (b, a) hgiven.mem_keys).symm, .inr ⟨r, hm.stated b a r hgiven, hr⟩⟩

theorem Completes.holds_reciprocity : Requirement.reciprocity.Holds allowed m := by
  rintro a b ⟨ha, -, r, hcell, hmem, hnone⟩
  by_cases hne : a = b
  · subst hne
    exact hnone r hcell rfl
  · exact hnone _ (hm.get?_converse h hne hcell) (Relation.existential_converse_of_mem hmem)

theorem Completes.holds_oneDirection : Requirement.oneDirection.Holds allowed m := by
  rintro a b ⟨-, -, hne, r, s, hcell, hother, hclash⟩
  obtain rfl := Option.some.inj ((hm.get?_converse h hne hcell).symm.trans hother)
  rw [Relation.precedes_converse, Relation.follows_converse, and_comm (b := r.precedes = true),
    or_self] at hclash
  exact absurd hclash.1 (by simp [Relation.precedes_eq_false_of_follows hclash.2])

/-- The requirements on single cells hold if and only if what is given is legal. -/
theorem Completes.holds_cells_iff :
    Requirement.legalSymbols.Holds allowed m ∧ Requirement.legalCombinations.Holds allowed m ↔
      ∀ a b r, Gives related.entries a b r → r.hasLegalSymbols ∧ ¬ r.isIllegalCombination := by
  rw [← hm.forall_cells_iff h (p := fun r => r.hasLegalSymbols ∧ ¬ r.isIllegalCombination)
    (fun r hr => ⟨by simpa using hr.1, by simpa [Relation.isIllegalCombination_converse hr.1] using hr.2⟩)
    (by decide)]
  constructor
  · rintro ⟨hsymbols, hcombinations⟩ a b r hne hcell
    obtain ⟨ha, hb⟩ := hm.activities_eq.symm ▸ hm.listed a b r hcell
    obtain ⟨s, hs, hlegal⟩ := hsymbols.exists_cell ha hb hne
    obtain rfl := Option.some.inj (hs.symm.trans hcell)
    refine ⟨hlegal, fun hillegal => ?_⟩
    exact hcombinations a b ⟨ha, hb, s, hs, (Relation.isIllegalCombination_iff hlegal).mp hillegal⟩
  · intro hcells
    refine ⟨?_, ?_⟩
    · rintro a b ⟨ha, hb, hne, hillegal⟩
      obtain ⟨r, hcell⟩ := hm.exists_get? h (hm.activities_eq ▸ ha) (hm.activities_eq ▸ hb) hne
      exact hillegal r hcell (hcells a b r hne hcell).1
    · rintro a b ⟨ha, -, r, hcell, hstrict, hincompatible⟩
      -- the diagonal holds identities, which order nothing
      by_cases hne : a = b
      · subst hne
        obtain rfl := Option.some.inj (hcell.symm.trans (hm.diagonal a (hm.activities_eq ▸ ha)))
        exact absurd hstrict (by decide)
      · obtain ⟨hlegal, hlegal'⟩ := hcells a b r hne hcell
        exact hlegal' ((Relation.isIllegalCombination_iff hlegal).mpr ⟨hstrict, hincompatible⟩)

/-- Validation accepts the matrix if and only if its activities are allowed, what is given is legal, and
the precedences that are given form no cycle. -/
theorem Completes.validate_iff : (∃ order, m.validate allowed = .ok order) ↔
    (∀ names, allowed = some names → activities ⊆ names) ∧
      (∀ a b r, Gives related.entries a b r → r.hasLegalSymbols ∧ ¬ r.isIllegalCombination) ∧
      ∀ a, ¬ Relation.TransGen (GivesPrecedence related.entries) a a := by
  have hprecedes : m.Precedes = GivesPrecedence related.entries :=
    funext fun a => funext fun b => propext (hm.precedes_iff h)
  rw [← isValid_iff_exists_order, isValid_iff_holds, ← hprecedes]
  constructor
  · intro hholds
    exact ⟨hm.holds_allowedActivities_iff.mp (hholds _),
      (hm.holds_cells_iff h).mp ⟨hholds .legalSymbols, hholds .legalCombinations⟩,
      Requirement.holds_acyclicity_iff.mp (hholds _)⟩
  · rintro ⟨hallowed, hgiven, hacyclic⟩ requirement
    cases requirement with
    | allowedActivities => exact hm.holds_allowedActivities_iff.mpr hallowed
    | identityDiagonal => exact hm.holds_identityDiagonal
    | legalSymbols => exact ((hm.holds_cells_iff h).mpr hgiven).1
    | legalCombinations => exact ((hm.holds_cells_iff h).mpr hgiven).2
    | reciprocity => exact hm.holds_reciprocity h
    | oneDirection => exact hm.holds_oneDirection h
    | acyclicity => exact Requirement.holds_acyclicity_iff.mpr hacyclic

end Completes

/-- **Relations given for one direction of each pair.** Over activities that are listed once, in whichever
order the relations are given, the same matrix is built, and it completes them. Validation accepts it if
and only if its activities are allowed, the relations that are given have legal symbols and no illegal
combination, and the precedences that they state form no cycle; it never finds an equivalence or exclusion
that is not repeated, nor two cells that state the same strict direction. -/
theorem ofPairs_decides (hnodup : activities.Nodup) (h : OneSided activities related) :
    ∃ m, (∀ related', related'.entries.Perm related.entries → ofPairs activities related' = .ok m) ∧
      Completes activities related.entries m ∧
      ∀ allowed, ((∃ order, m.validate allowed = .ok order) ↔
          (∀ names, allowed = some names → activities ⊆ names) ∧
            (∀ a b r, Gives related.entries a b r → r.hasLegalSymbols ∧ ¬ r.isIllegalCombination) ∧
            ∀ a, ¬ Relation.TransGen (GivesPrecedence related.entries) a a) ∧
        ∀ fault, m.validate allowed = .error fault →
          fault.rule ≠ .reciprocity ∧ fault.rule ≠ .oneDirection := by
  obtain ⟨filled, hfilled, -⟩ := exists_ofPairs hnodup h
  have hm := hfilled.completes hnodup h
  refine ⟨_, fun related' hperm => ?_, hm, fun allowed => ⟨hm.validate_iff h, fun fault hfault => ⟨?_, ?_⟩⟩⟩
  · obtain ⟨filled', hfilled', hresult⟩ := exists_ofPairs hnodup (h.of_perm hperm)
    rw [hresult, hfilled.eq_of_perm hfilled' hperm h.described]
  · refine rule_ne_of_holds .reciprocity hfault (hm.holds_reciprocity h) fun other => ?_
    cases other <;> simp [Requirement.rule]
  · refine rule_ne_of_holds .oneDirection hfault (hm.holds_oneDirection h) fun other => ?_
    cases other <;> simp [Requirement.rule]

/-- Of three activities, `b` comes before `a`, and `c` occurs together with `b`. -/
def givenForTwo : Table (String × String) Document :=
  ⟨[(("b", "a"), .sequence [.text " < ", .text "⇒"]), (("c", "b"), .relation ⟨"-", "⇔"⟩)], by decide⟩

theorem oneSided_givenForTwo : OneSided ["a", "b", "c"] givenForTwo where
  listed := by decide
  different := by decide
  described := fun entry hentry => by
    simp only [givenForTwo, List.mem_cons, List.not_mem_nil, or_false] at hentry
    rcases hentry with rfl | rfl
    · exact ⟨_, .listed " < " "⇒"⟩
    · exact ⟨_, .built _⟩
  single := by decide

theorem ofPairs_decides_givenForTwo :
    ["a", "b", "c"].Nodup ∧ OneSided ["a", "b", "c"] givenForTwo ∧
      ∃ m, (∀ related', related'.entries.Perm givenForTwo.entries →
          ofPairs ["a", "b", "c"] related' = .ok m) ∧
        Completes ["a", "b", "c"] givenForTwo.entries m ∧ m.get? "a" "b" = some ⟨">", "⇐"⟩ ∧
        m.validate none = .ok ["b", "a", "c"] ∧
        ∀ a, ¬ Relation.TransGen (GivesPrecedence givenForTwo.entries) a a := by
  obtain ⟨m, hbuilt, hcompletes, hvalidate⟩ := ofPairs_decides (by decide) oneSided_givenForTwo
  have hm : (ofPairs ["a", "b", "c"] givenForTwo).toOption = some m := by
    rw [hbuilt _ (.refl _)]
    rfl
  have horder : (ofPairs ["a", "b", "c"] givenForTwo).toOption.map (fun m => (m.validate none).toOption) =
      some (some ["b", "a", "c"]) := by decide +kernel
  have hvalid : m.validate none = .ok ["b", "a", "c"] :=
    eq_ok_of_toOption (by simpa [hm] using horder)
  refine ⟨by decide, oneSided_givenForTwo, m, hbuilt, hcompletes, ?_, hvalid,
    ((hvalidate none).1.mp ⟨_, hvalid⟩).2.2⟩
  exact hcompletes.mirrored "b" "a" ⟨"<", "⇒"⟩ ⟨_, .head _, .listed " < " "⇒"⟩

end ActivityMatrix.Matrix
