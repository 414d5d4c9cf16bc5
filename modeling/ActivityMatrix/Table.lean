/-!
# Ordered tables

A table holds its entries in the order in which their keys were first entered, each key once.
Entering a key again replaces its value and leaves it where it is. Beside the table stand the
functions on lists that keep first occurrences: `distinct` and `groupInOrder`.
-/

namespace ActivityMatrix

universe u v w

/-- The members of a list, each at its first occurrence. -/
def distinct {α : Type u} [DecidableEq α] : List α → List α
  | [] => []
  | a :: rest => a :: (distinct rest).filter (· ≠ a)

/-- The values entered under each key, the keys by first occurrence. -/
def groupInOrder {κ : Type u} {α : Type v} [DecidableEq κ] (entries : List (κ × α)) :
    List (κ × List α) :=
  (distinct (entries.map Prod.fst)).map fun key =>
    (key, (entries.filter fun entry => entry.1 = key).map Prod.snd)

/-- The same members are in a list and among its distinct members. -/
@[simp] theorem mem_distinct {α : Type u} [DecidableEq α] {a : α} {l : List α} :
    a ∈ distinct l ↔ a ∈ l := by
  induction l with
  | nil => simp [distinct]
  | cons b rest ih => by_cases h : a = b <;> simp [distinct, ih, h]

/-- No member is listed twice among the distinct ones. -/
theorem nodup_distinct {α : Type u} [DecidableEq α] (l : List α) : (distinct l).Nodup := by
  induction l with
  | nil => simp [distinct]
  | cons b rest ih =>
      simp only [distinct, List.nodup_cons, List.mem_filter]
      exact ⟨by simp, ih.filter _⟩

theorem length_distinct_le {α : Type u} [DecidableEq α] (l : List α) :
    (distinct l).length ≤ l.length := by
  induction l with
  | nil => exact Nat.le_refl _
  | cons b rest ih =>
      exact Nat.succ_le_succ (Nat.le_trans (List.length_filter_le _ _) ih)

/-- Entries with no key twice, in the order of first entry. -/
structure Table (κ : Type u) (α : Type v) where
  entries : List (κ × α)
  keys_nodup : (entries.map Prod.fst).Nodup

namespace Table

variable {κ : Type u} {α : Type v} {β : Type w}

def empty : Table κ α := ⟨[], List.nodup_nil⟩

instance : Inhabited (Table κ α) := ⟨empty⟩

def keys (t : Table κ α) : List κ :=
  t.entries.map Prod.fst

def values (t : Table κ α) : List α :=
  t.entries.map Prod.snd

def size (t : Table κ α) : Nat :=
  t.entries.length

/-- The table with every value changed by a function of the key and the value. -/
def map (f : κ → α → β) (t : Table κ α) : Table κ β where
  entries := t.entries.map fun entry => (entry.1, f entry.1 entry.2)
  keys_nodup := by simpa [List.map_map, Function.comp_def] using t.keys_nodup

variable [DecidableEq κ]

def find? (t : Table κ α) (key : κ) : Option α :=
  t.entries.lookup key

def contains (t : Table κ α) (key : κ) : Bool :=
  t.keys.contains key

/-- Entries in which the value under `key` is `update` of the old one: a present key stays where it
is, a new one goes to the end. -/
def alterEntries (key : κ) (update : Option α → α) : List (κ × α) → List (κ × α)
  | [] => [(key, update none)]
  | entry :: rest =>
      if entry.1 = key then (entry.1, update (some entry.2)) :: rest
      else entry :: alterEntries key update rest

/-- The keys afterwards are those before and the one that was altered. -/
theorem mem_keys_alterEntries {key : κ} {update : Option α → α} {l : List (κ × α)} {k : κ} :
    k ∈ (alterEntries key update l).map Prod.fst ↔ k = key ∨ k ∈ l.map Prod.fst := by
  induction l with
  | nil => simp [alterEntries]
  | cons entry rest ih =>
      by_cases h : entry.1 = key
      · simp [alterEntries, h]
      · simp only [alterEntries, h, if_false, List.map_cons, List.mem_cons, ih]
        exact ⟨fun hk => hk.elim (fun e => .inr (.inl e)) (·.imp id .inr),
          fun hk => hk.elim (.inr ∘ .inl) (·.imp id .inr)⟩

/-- Altering a key keeps the keys apart. -/
theorem nodup_keys_alterEntries {key : κ} {update : Option α → α} {l : List (κ × α)}
    (h : (l.map Prod.fst).Nodup) : ((alterEntries key update l).map Prod.fst).Nodup := by
  induction l with
  | nil => simp [alterEntries]
  | cons entry rest ih =>
      rw [List.map_cons, List.nodup_cons] at h
      by_cases hk : entry.1 = key
      · simpa [alterEntries, hk] using ⟨hk ▸ by simpa using h.1, h.2⟩
      · rw [alterEntries, if_neg hk, List.map_cons, List.nodup_cons, mem_keys_alterEntries, not_or]
        exact ⟨⟨hk, h.1⟩, ih h.2⟩

/-- Enters `update` of the old value, if there is one, under a key. -/
def alter (t : Table κ α) (key : κ) (update : Option α → α) : Table κ α :=
  ⟨alterEntries key update t.entries, nodup_keys_alterEntries t.keys_nodup⟩

def insert (t : Table κ α) (key : κ) (value : α) : Table κ α :=
  t.alter key fun _ => value

def erase (t : Table κ α) (key : κ) : Table κ α where
  entries := t.entries.filter (·.1 ≠ key)
  keys_nodup := (t.entries.filter_sublist.map Prod.fst).nodup t.keys_nodup

/-- The table of a list of entries: a repeated key keeps its first place and its last value. -/
def ofList (entries : List (κ × α)) : Table κ α :=
  entries.foldl (fun t entry => t.insert entry.1 entry.2) empty

instance [DecidableEq α] : DecidableEq (Table κ α) := fun s t =>
  if h : s.entries = t.entries then
    .isTrue (by cases s; cases t; simp_all)
  else .isFalse fun e => h (e ▸ rfl)

end Table

end ActivityMatrix
