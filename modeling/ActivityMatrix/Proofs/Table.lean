import ActivityMatrix.Table
import ActivityMatrix.Proofs.Sorting
import Mathlib.Data.List.Nodup
import Mathlib.Logic.Function.Basic

/-!
# Lookups in ordered tables

What is found in a table after a change, and where the keys stand: a key that is entered again stays
where it is, a new one goes to the end, and the other keys keep what they had. A table may be keyed by
its values (`KeyedBy`), and then it holds no more than the list of its values.
-/

namespace ActivityMatrix.Table

variable {κ α : Type} [DecidableEq κ] {t : Table κ α} {key other : κ} {value : α} {f : α → κ}

omit [DecidableEq κ] in
theorem ext_entries {s t : Table κ α} (h : s.entries = t.entries) : s = t := by
  cases s
  cases t
  simp_all

/-- What is found in a table under a key is an entry of the table. -/
theorem find?_eq_some_iff : t.find? key = some value ↔ (key, value) ∈ t.entries := by
  obtain ⟨entries, hnodup⟩ := t
  change entries.lookup key = some value ↔ (key, value) ∈ entries
  induction entries with
  | nil => simp
  | cons entry rest ih =>
      rw [List.map_cons, List.nodup_cons] at hnodup
      rw [List.lookup_cons, List.mem_cons, Prod.ext_iff]
      by_cases hkey : key = entry.1
      · subst hkey
        have hrest : (entry.1, value) ∉ rest := fun h => hnodup.1 (List.mem_map.mpr ⟨_, h, rfl⟩)
        simp [hrest, eq_comm]
      · simp [beq_eq_false_iff_ne.mpr hkey, hkey, ih hnodup.2]

@[simp] theorem contains_iff : t.contains key = true ↔ key ∈ t.keys := by
  rw [contains, List.contains_iff_mem]

theorem mem_keys_iff : key ∈ t.keys ↔ ∃ value, t.find? key = some value := by
  simp only [find?_eq_some_iff, keys, List.mem_map]
  constructor
  · rintro ⟨entry, hentry, rfl⟩
    exact ⟨entry.2, hentry⟩
  · rintro ⟨value, hentry⟩
    exact ⟨_, hentry, rfl⟩

theorem find?_eq_none_iff : t.find? key = none ↔ key ∉ t.keys := by
  rw [mem_keys_iff, Option.eq_none_iff_forall_ne_some, not_exists]

/-! ## Entering -/

theorem alterEntries_of_notMem {update : Option α → α} {l : List (κ × α)}
    (h : key ∉ l.map Prod.fst) : alterEntries key update l = l ++ [(key, update none)] := by
  induction l with
  | nil => rfl
  | cons entry rest ih =>
      rw [List.map_cons, List.mem_cons, not_or] at h
      rw [alterEntries, if_neg (Ne.symm h.1), ih h.2, List.cons_append]

theorem keys_alterEntries_of_mem {update : Option α → α} {l : List (κ × α)}
    (h : key ∈ l.map Prod.fst) : (alterEntries key update l).map Prod.fst = l.map Prod.fst := by
  induction l with
  | nil => exact absurd h List.not_mem_nil
  | cons entry rest ih =>
      by_cases hkey : entry.1 = key
      · rw [alterEntries, if_pos hkey, List.map_cons, List.map_cons]
      · have hrest := (List.mem_cons.mp h).resolve_left (Ne.symm hkey)
        rw [alterEntries, if_neg hkey, List.map_cons, List.map_cons, ih hrest]

theorem lookup_alterEntries {update : Option α → α} {l : List (κ × α)} :
    (alterEntries key update l).lookup other =
      if other = key then some (update (l.lookup key)) else l.lookup other := by
  induction l with
  | nil =>
      by_cases hother : other = key
      · simp [alterEntries, hother]
      · simp [alterEntries, hother]
  | cons entry rest ih =>
      obtain ⟨first, listed⟩ := entry
      by_cases hkey : first = key
      · subst hkey
        by_cases hother : other = first
        · simp [alterEntries, hother]
        · simp [alterEntries, hother, beq_eq_false_iff_ne.mpr hother, List.lookup_cons]
      · rw [alterEntries, if_neg hkey, List.lookup_cons, List.lookup_cons, List.lookup_cons, ih]
        by_cases hother : other = first
        · subst hother
          simp [hkey]
        · simp [beq_eq_false_iff_ne.mpr hother, beq_eq_false_iff_ne.mpr (Ne.symm hkey)]

theorem find?_alter {update : Option α → α} : (t.alter key update).find? other =
    if other = key then some (update (t.find? key)) else t.find? other :=
  lookup_alterEntries

theorem mem_keys_alter {update : Option α → α} : other ∈ (t.alter key update).keys ↔
    other = key ∨ other ∈ t.keys :=
  mem_keys_alterEntries

/-- A default value is not entered where there is a value. -/
theorem alterEntries_getD_of_mem {l : List (κ × α)} (h : key ∈ l.map Prod.fst) :
    alterEntries key (·.getD value) l = l := by
  induction l with
  | nil => cases h
  | cons entry rest ih =>
      by_cases hkey : entry.1 = key
      · rw [alterEntries, if_pos hkey, Option.getD_some]
      · rw [alterEntries, if_neg hkey, ih ((List.mem_cons.mp h).resolve_left (Ne.symm hkey))]

theorem alter_getD_of_mem (h : key ∈ t.keys) : t.alter key (·.getD value) = t :=
  ext_entries (alterEntries_getD_of_mem h)

theorem find?_insert :
    (t.insert key value).find? other = if other = key then some value else t.find? other :=
  find?_alter

theorem mem_keys_insert : other ∈ (t.insert key value).keys ↔ other = key ∨ other ∈ t.keys :=
  mem_keys_alter

theorem keys_insert_of_mem (h : key ∈ t.keys) : (t.insert key value).keys = t.keys :=
  keys_alterEntries_of_mem h

theorem entries_insert_of_notMem (h : key ∉ t.keys) :
    (t.insert key value).entries = t.entries ++ [(key, value)] :=
  alterEntries_of_notMem h

theorem keys_insert_of_notMem (h : key ∉ t.keys) : (t.insert key value).keys = t.keys ++ [key] := by
  rw [keys, entries_insert_of_notMem h, List.map_append]
  rfl

theorem values_insert_of_notMem (h : key ∉ t.keys) :
    (t.insert key value).values = t.values ++ [value] := by
  rw [values, entries_insert_of_notMem h, List.map_append]
  rfl

/-! ## Tables of lists -/

theorem mem_entries_insert {entry : κ × α} (h : entry ∈ (t.insert key value).entries) :
    entry = (key, value) ∨ entry ∈ t.entries := by
  obtain ⟨other, found⟩ := entry
  rw [← find?_eq_some_iff, find?_insert] at h
  split_ifs at h with hother
  · exact .inl (by rw [hother, Option.some.inj h])
  · exact .inr (find?_eq_some_iff.mp h)

theorem mem_of_mem_entries_foldl_insert {l : List (κ × α)} {entry : κ × α}
    (h : entry ∈ (l.foldl (fun t entry => t.insert entry.1 entry.2) t).entries) :
    entry ∈ t.entries ∨ entry ∈ l := by
  induction l generalizing t with
  | nil => exact .inl h
  | cons first rest ih =>
      rcases ih h with hfirst | hrest
      · exact (mem_entries_insert hfirst).elim (fun heq => .inr (heq ▸ .head _)) .inl
      · exact .inr (.tail _ hrest)

/-- The table of a list holds nothing but entries of the list. -/
theorem mem_of_mem_entries_ofList {l : List (κ × α)} {entry : κ × α}
    (h : entry ∈ (ofList l).entries) : entry ∈ l :=
  (mem_of_mem_entries_foldl_insert (t := empty) h).resolve_left List.not_mem_nil

theorem entries_foldl_insert {l : List (κ × α)} (h : (t.keys ++ l.map Prod.fst).Nodup) :
    (l.foldl (fun t entry => t.insert entry.1 entry.2) t).entries = t.entries ++ l := by
  induction l generalizing t with
  | nil => simp
  | cons entry rest ih =>
      have hkey : entry.1 ∉ t.keys := notMem_of_nodup_append_cons h
      have hkeys : (t.insert entry.1 entry.2).keys = t.keys ++ [entry.1] := keys_insert_of_notMem hkey
      rw [List.foldl_cons, ih (by simpa [hkeys] using h), entries_insert_of_notMem hkey,
        List.append_assoc]
      rfl

/-- A list in which no key is repeated is the list of the entries of its table. -/
theorem entries_ofList {l : List (κ × α)} (h : (l.map Prod.fst).Nodup) : (ofList l).entries = l :=
  entries_foldl_insert (t := empty) h

/-! ## Entries read one after another

Each entry is read before it is entered, and reading may fail. If it does not, a key holds what was read
last under it. -/

/-- A member of a list is the last one that goes by its name. -/
def IsLastNamed {β : Type} (name : β → κ) (l : List β) (b : β) : Prop :=
  ∃ before after, l = before ++ b :: after ∧ ∀ later ∈ after, name later ≠ name b

section Reading

variable {β ε : Type} {name : β → κ} {l : List β} {b : β}

omit [DecidableEq κ] in
theorem IsLastNamed.mem (h : IsLastNamed name l b) : b ∈ l := by
  obtain ⟨before, after, rfl, -⟩ := h
  exact List.mem_append_right _ List.mem_cons_self

omit [DecidableEq κ] in
theorem isLastNamed_cons {c : β} : IsLastNamed name (c :: l) b ↔
    IsLastNamed name l b ∨ c = b ∧ name b ∉ l.map name := by
  constructor
  · rintro ⟨_ | ⟨_, before⟩, after, heq, hlater⟩
    · obtain ⟨rfl, rfl⟩ := List.cons.inj heq
      refine .inr ⟨rfl, fun hmem => ?_⟩
      obtain ⟨later, hmem, hname⟩ := List.mem_map.mp hmem
      exact hlater later hmem hname
    · exact .inl ⟨before, after, (List.cons.inj heq).2, hlater⟩
  · rintro (⟨before, after, rfl, hlater⟩ | ⟨rfl, hlater⟩)
    · exact ⟨c :: before, after, rfl, hlater⟩
    · exact ⟨[], l, rfl, fun later hmem hname => hlater (List.mem_map.mpr ⟨later, hmem, hname⟩)⟩

omit [DecidableEq κ] in
/-- Where no two members share a name, each one is the last with its name. -/
theorem isLastNamed_of_nodup (hnodup : (l.map name).Nodup) (hb : b ∈ l) : IsLastNamed name l b := by
  induction l with
  | nil => cases hb
  | cons c rest ih =>
      obtain ⟨hc, hrest⟩ := List.nodup_cons.mp hnodup
      rcases List.mem_cons.mp hb with rfl | hb
      · exact isLastNamed_cons.mpr (.inr ⟨rfl, hc⟩)
      · exact isLastNamed_cons.mpr (.inl (ih hrest hb))

variable {read : β → Except ε α} {step : Table κ α → β → Except ε (Table κ α)}
  (hstep : ∀ done b, step done b = (read b).map (done.insert (name b)))
include hstep

theorem exists_foldlM_insert_iff :
    (∃ t', l.foldlM step t = .ok t') ↔ ∀ b ∈ l, ∃ value, read b = .ok value := by
  induction l generalizing t with
  | nil => simp [pure, Except.pure]
  | cons b rest ih =>
      rw [List.foldlM_cons, hstep, List.forall_mem_cons]
      cases hread : read b with
      | error fault => simp [Except.map, bind, Except.bind]
      | ok value => simpa [Except.map, bind, Except.bind] using ih

theorem find?_foldlM_insert {t' : Table κ α} (h : l.foldlM step t = .ok t') :
    t'.find? key = some value ↔
      (∃ b, IsLastNamed name l b ∧ name b = key ∧ read b = .ok value) ∨
        key ∉ l.map name ∧ t.find? key = some value := by
  induction l generalizing t with
  | nil =>
      obtain rfl : t = t' := Except.ok.inj h
      simp [IsLastNamed]
  | cons c rest ih =>
      rw [List.foldlM_cons, hstep] at h
      cases hread : read c with
      | error fault => simp [hread, Except.map, bind, Except.bind] at h
      | ok first =>
          have hrest : rest.foldlM step (t.insert (name c) first) = .ok t' := by
            simpa [hread, Except.map, bind, Except.bind] using h
          -- the first entry counts if no later one has its name
          have hcons : (∃ b, IsLastNamed name (c :: rest) b ∧ name b = key ∧ read b = .ok value) ↔
              (∃ b, IsLastNamed name rest b ∧ name b = key ∧ read b = .ok value) ∨
                name c = key ∧ key ∉ rest.map name ∧ first = value := by
            simp only [isLastNamed_cons, or_and_right, exists_or]
            refine or_congr_right ⟨?_, ?_⟩
            · rintro ⟨b, ⟨rfl, hlast⟩, rfl, hb⟩
              exact ⟨rfl, hlast, Except.ok.inj (hread.symm.trans hb)⟩
            · rintro ⟨rfl, hlast, rfl⟩
              exact ⟨c, ⟨rfl, hlast⟩, rfl, hread⟩
          rw [ih hrest, hcons, find?_insert, or_assoc, List.map_cons, List.mem_cons]
          refine or_congr_right ?_
          by_cases hkey : key = name c
          · simp [hkey]
          · simp [hkey, Ne.symm hkey]

/-- A table is read back from what its entries are written as. -/
theorem foldlM_insert_write {write : κ × α → β} (hname : ∀ entry, name (write entry) = entry.1)
    (hread : ∀ entry ∈ t.entries, read (write entry) = .ok entry.2) :
    (t.entries.map write).foldlM step empty = .ok t := by
  have hfold : ∀ (entries : List (κ × α)) (start : Table κ α),
      (∀ entry ∈ entries, read (write entry) = .ok entry.2) → (entries.map write).foldlM step start =
        .ok (entries.foldl (fun t entry => t.insert entry.1 entry.2) start) := by
    intro entries
    induction entries with
    | nil => exact fun _ _ => rfl
    | cons entry rest ih =>
        intro start hentries
        obtain ⟨hfirst, hrest⟩ := List.forall_mem_cons.mp hentries
        rw [List.map_cons, List.foldlM_cons, hstep, hfirst, hname]
        exact ih _ hrest
  rw [hfold t.entries empty hread]
  exact congrArg Except.ok (ext_entries (entries_ofList t.keys_nodup))

end Reading

/-- The values of a function at the members of a list. -/
def tabulate (l : List κ) (g : κ → α) : Table κ α :=
  .ofList (l.map fun key => (key, g key))

section Tabulate

variable {l : List κ} {g : κ → α} (h : l.Nodup)
include h

theorem entries_tabulate : (tabulate l g).entries = l.map fun key => (key, g key) :=
  entries_ofList (by simpa [Function.comp_def] using h)

theorem keys_tabulate : (tabulate l g).keys = l := by
  rw [keys, entries_tabulate h, List.map_map]
  exact List.map_id l

theorem find?_tabulate_eq_some_iff : (tabulate l g).find? key = some value ↔ key ∈ l ∧ g key = value := by
  rw [find?_eq_some_iff, entries_tabulate h, List.mem_map]
  constructor
  · rintro ⟨listed, hlisted, heq⟩
    obtain ⟨rfl, rfl⟩ := Prod.mk.inj heq
    exact ⟨hlisted, rfl⟩
  · rintro ⟨hlisted, rfl⟩
    exact ⟨key, hlisted, rfl⟩

theorem alterEntries_map {update : Option α → α} (hkey : key ∈ l) :
    alterEntries key update (l.map fun other => (other, g other)) =
      l.map fun other => (other, Function.update g key (update (some (g key))) other) := by
  induction l with
  | nil => cases hkey
  | cons first rest ih =>
      obtain ⟨hfirst, hrest⟩ := List.nodup_cons.mp h
      rw [List.map_cons, List.map_cons, alterEntries]
      by_cases heq : first = key
      · subst heq
        have hsame : ∀ other ∈ rest, (other, g other) =
            (other, Function.update g first (update (some (g first))) other) := fun other hother => by
          rw [Function.update_of_ne (ne_of_mem_of_not_mem hother hfirst)]
        rw [if_pos rfl, Function.update_self, List.map_congr_left hsame]
      · rw [if_neg heq, Function.update_of_ne heq, ih hrest ((List.mem_cons.mp hkey).resolve_left
          (Ne.symm heq))]

/-- Altering the value at a member of the list is altering the function there. -/
theorem alter_tabulate {update : Option α → α} (hkey : key ∈ l) : (tabulate l g).alter key update =
    tabulate l (Function.update g key (update (some (g key)))) := by
  refine ext_entries ?_
  change alterEntries key update (tabulate l g).entries = _
  rw [entries_tabulate h, entries_tabulate h, alterEntries_map h hkey]

theorem insert_tabulate (hkey : key ∈ l) :
    (tabulate l g).insert key value = tabulate l (Function.update g key value) :=
  alter_tabulate h hkey

end Tabulate

/-! ## Erasing -/

theorem keys_erase : (t.erase key).keys = t.keys.filter (· ≠ key) := by
  rw [keys, erase, keys, List.filter_map]
  rfl

theorem find?_erase_of_ne (h : other ≠ key) : (t.erase key).find? other = t.find? other := by
  ext value
  simp only [find?_eq_some_iff, erase, List.mem_filter, h, ne_eq, not_false_eq_true, decide_true,
    and_true]

/-! ## Tables keyed by their values -/

/-- Every value is entered under what a function makes of it. -/
def KeyedBy (f : α → κ) (t : Table κ α) : Prop :=
  ∀ entry ∈ t.entries, entry.1 = f entry.2

namespace KeyedBy

omit [DecidableEq κ] in
theorem entries_eq (h : t.KeyedBy f) : t.entries = t.values.map fun value => (f value, value) := by
  rw [values, List.map_map]
  refine (List.map_id t.entries).symm.trans (List.map_congr_left fun entry hentry => ?_)
  exact Prod.ext (h entry hentry) rfl

omit [DecidableEq κ] in
/-- The values determine the table. -/
theorem eq_of_values_eq {s : Table κ α} (h : s.KeyedBy f) (h' : t.KeyedBy f)
    (hvalues : s.values = t.values) : s = t :=
  ext_entries (by rw [h.entries_eq, h'.entries_eq, hvalues])

omit [DecidableEq κ] in
theorem keys_eq (h : t.KeyedBy f) : t.keys = t.values.map f := by
  rw [keys, values, List.map_map]
  exact List.map_congr_left h

theorem lookup_eq {entries : List (κ × α)} (h : ∀ entry ∈ entries, entry.1 = f entry.2) :
    entries.lookup key = (entries.map Prod.snd).find? (f · == key) := by
  induction entries with
  | nil => rfl
  | cons entry rest ih =>
      rw [List.lookup_cons, List.map_cons, List.find?_cons, ← h entry (.head _), BEq.comm,
        ih fun entry hentry => h entry (.tail _ hentry)]

variable (h : t.KeyedBy f)
include h

theorem find?_eq : t.find? key = t.values.find? (f · == key) :=
  lookup_eq h

theorem insert (hkey : f value ∉ t.keys) : (t.insert (f value) value).KeyedBy f := by
  intro entry hentry
  rw [entries_insert_of_notMem hkey, List.mem_append, List.mem_singleton] at hentry
  rcases hentry with hentry | rfl
  · exact h entry hentry
  · rfl

theorem erase (key : κ) : (t.erase key).KeyedBy f :=
  fun entry hentry => h entry (List.mem_of_mem_filter hentry)

theorem values_erase : (t.erase key).values = t.values.filter (f · ≠ key) := by
  rw [values, Table.erase, values, List.filter_map]
  congr 1
  refine List.filter_congr fun entry hentry => ?_
  rw [Function.comp_apply, ← h entry hentry]

end KeyedBy

end ActivityMatrix.Table
