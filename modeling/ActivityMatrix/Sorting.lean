/-!
# Order of names

Names are ordered by code point, pairs and triples of names by their members from left to right,
and numbered names by number first. Lists are sorted by insertion: a sorted list is a permutation of
the list it comes from, and equal members keep their order.
-/

namespace ActivityMatrix

def nameLE (a b : String) : Bool :=
  a == b || decide (a < b)

/-- The order of pairs of names, the first name deciding first. -/
def pairLE (a b : String × String) : Bool :=
  if a.1 = b.1 then nameLE a.2 b.2 else nameLE a.1 b.1

/-- The order of triples of names, the first difference deciding. -/
def tripleLE (a b : String × String × String) : Bool :=
  if a.1 = b.1 then pairLE a.2 b.2 else nameLE a.1 b.1

/-- The order of numbered names, the number deciding first. -/
def rankedLE (a b : Nat × String) : Bool :=
  if a.1 = b.1 then nameLE a.2 b.2 else a.1 ≤ b.1

/-- A member put in front of the first one that it does not come after. -/
def insertSorted {α : Type} (le : α → α → Bool) (a : α) : List α → List α
  | [] => [a]
  | b :: rest => if le a b then a :: b :: rest else b :: insertSorted le a rest

/-- The members of a list in ascending order. -/
def sortBy {α : Type} (le : α → α → Bool) (l : List α) : List α :=
  l.foldr (insertSorted le) []

theorem length_insertSorted {α : Type} (le : α → α → Bool) (a : α) (l : List α) :
    (insertSorted le a l).length = l.length + 1 := by
  induction l with
  | nil => rfl
  | cons b rest ih =>
      rw [insertSorted]
      split
      · rfl
      · rw [List.length_cons, ih, List.length_cons]

theorem length_sortBy {α : Type} (le : α → α → Bool) (l : List α) :
    (sortBy le l).length = l.length := by
  induction l with
  | nil => rfl
  | cons a rest ih => exact (length_insertSorted le a _).trans (congrArg (· + 1) ih)

/-- Members put one after another at their places in a sorted list. -/
def insertAllSorted {α : Type} (le : α → α → Bool) (l more : List α) : List α :=
  more.foldl (fun l a => insertSorted le a l) l

theorem length_insertAllSorted {α : Type} (le : α → α → Bool) (l more : List α) :
    (insertAllSorted le l more).length = l.length + more.length := by
  induction more generalizing l with
  | nil => rfl
  | cons a more ih =>
      refine (ih (insertSorted le a l)).trans ?_
      rw [length_insertSorted, List.length_cons, Nat.add_assoc, Nat.add_comm 1]

def sortNames (names : List String) : List String :=
  sortBy nameLE names

def sortPairs (pairs : List (String × String)) : List (String × String) :=
  sortBy pairLE pairs

/-- Names in ascending order of a rank, and by code point where the rank is equal. -/
def sortByRank (rank : String → Nat) (names : List String) : List String :=
  sortBy (fun a b => rankedLE (rank a, a) (rank b, b)) names

/-- The members of a list before its first occurrence of `a`, counted: the length of the list when
there is none. -/
def position {α : Type} [DecidableEq α] (a : α) : List α → Nat
  | [] => 0
  | b :: rest => if b = a then 0 else position a rest + 1

/-- Every pair of members of a list, the earlier member first, in the order of the earlier members
and then of the later ones. -/
def orderedPairs {α : Type} : List α → List (α × α)
  | [] => []
  | a :: rest => rest.map (a, ·) ++ orderedPairs rest

end ActivityMatrix
