/-
# What the standard leaves open

`std::sort` puts equal elements in any order, `std::priority_queue` serves equal
elements in any order, and a `QSet` is walked in an order that depends on its
hashes.  A program built from them is a function of these choices: `Library` is
one implementation of the three, with what the standard promises of it, and a
statement about the program is a statement about every `Library`.

`Library.reference` is one such implementation, to run the program with.
-/

import Mathlib.Data.List.Sort
import Mathlib.Data.Multiset.Basic

namespace Sebastian

/-- An implementation of `std::priority_queue` that serves the smallest `key`
first.  `elems` is what it holds. -/
structure PriorityQueue (α : Type) (key : α → ℤ) where
  Carrier : Type
  empty : Carrier
  push : Carrier → α → Carrier
  pop : Carrier → Option (α × Carrier)
  elems : Carrier → Multiset α
  elems_empty : elems empty = 0
  elems_push : ∀ q a, elems (push q a) = a ::ₘ elems q
  pop_none : ∀ q, pop q = none → elems q = 0
  pop_some : ∀ q a q', pop q = some (a, q') → elems q = a ::ₘ elems q'
  pop_min : ∀ q a q', pop q = some (a, q') → ∀ b ∈ elems q, key a ≤ key b

/-- An implementation of the library functions whose result the standard does
not determine. -/
structure Library where
  /-- `std::sort` with `operator<` comparing `key`. -/
  sort : {α : Type} → (key : α → ℤ) → List α → List α
  sort_perm : ∀ {α : Type} (key : α → ℤ) (l : List α), (sort key l).Perm l
  sort_sorted : ∀ {α : Type} (key : α → ℤ) (l : List α),
    (sort key l).Pairwise fun a b => key a ≤ key b
  /-- The order in which a `QSet` is walked whose elements were inserted in this one. -/
  walk : {α : Type} → List α → List α
  walk_perm : ∀ {α : Type} (l : List α), (walk l).Perm l
  /-- `std::priority_queue` with `std::greater`. -/
  queue : {α : Type} → (key : α → ℤ) → PriorityQueue α key

namespace Library

variable {α : Type} {key : α → ℤ} {l : List α} {a : α}

@[simp] theorem mem_sort (lib : Library) : a ∈ lib.sort key l ↔ a ∈ l :=
  (lib.sort_perm key l).mem_iff

@[simp] theorem length_sort (lib : Library) : (lib.sort key l).length = l.length :=
  (lib.sort_perm key l).length_eq

@[simp] theorem mem_walk (lib : Library) : a ∈ lib.walk l ↔ a ∈ l :=
  (lib.walk_perm l).mem_iff

/-! ### A reference implementation -/

/-- Sorted by `key`. -/
def Ascending (key : α → ℤ) (l : List α) : Prop := l.Pairwise fun a b => key a ≤ key b

instance (key : α → ℤ) : Std.Total fun a b => key a ≤ key b := ⟨fun a b => le_total (key a) (key b)⟩

instance (key : α → ℤ) : IsTrans α fun a b => key a ≤ key b := ⟨fun _ _ _ => le_trans⟩

/-- A queue kept as an ascending list. -/
def ascendingQueue (key : α → ℤ) : PriorityQueue α key where
  Carrier := { l : List α // Ascending key l }
  empty := ⟨[], List.Pairwise.nil⟩
  push q a := ⟨q.1.orderedInsert (fun a b => key a ≤ key b) a, q.2.orderedInsert a q.1⟩
  pop
    | ⟨[], _⟩ => none
    | ⟨a :: l, h⟩ => some (a, ⟨l, (List.pairwise_cons.1 h).2⟩)
  elems q := q.1
  elems_empty := rfl
  elems_push q a := Multiset.coe_eq_coe.2 (List.perm_orderedInsert _ a q.1)
  pop_none
    | ⟨[], _⟩, _ => rfl
  pop_some
    | ⟨_ :: _, _⟩, _, _, rfl => rfl
  pop_min
    | ⟨_ :: _, h⟩, _, _, rfl => fun _ hb =>
      (List.mem_cons.1 (Multiset.mem_coe.1 hb)).elim (fun e => e ▸ le_rfl)
        ((List.pairwise_cons.1 h).1 _)

/-- Insertion sort, sets walked in the order of insertion, and a sorted list for
a queue. -/
def reference : Library where
  sort key := List.insertionSort fun a b => key a ≤ key b
  sort_perm _ := List.perm_insertionSort _
  sort_sorted _ l := List.pairwise_insertionSort _ l
  walk l := l
  walk_perm l := List.Perm.refl l
  queue := ascendingQueue

end Library
end Sebastian
