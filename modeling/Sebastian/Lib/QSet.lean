/-
# Qt's hashed set

`QSet<T>` as a list of its elements in the order in which the set is walked.
`T` brings its own `==`, which need not be an equality: it may look at one field
only, or hold between elements that share one of several fields.  `find` and
`remove` take the first element that compares equal, and `insert` does nothing
if there is one.

What survives every operation is that no two elements compare equal
(`Distinct`).  With it the first match is the only match of an element of the
set, which makes `find` and `remove` exact (`find_of_mem`, `mem_remove_iff`).
-/

import Mathlib.Data.List.Pairwise
import Mathlib.Tactic.Common

namespace Sebastian

open List

/-- `QSet<α>`, its elements in the order the set is walked. -/
abbrev QSet (α : Type) := List α

namespace QSet

variable {α : Type} [BEq α]

/-- `s.find(a)`: the first element that compares equal to `a`. -/
def find (s : QSet α) (a : α) : Option α := List.find? (· == a) s

/-- `s.contains(a)` -/
def contains (s : QSet α) (a : α) : Bool := List.any s (· == a)

/-- `s.insert(a)` -/
def insert (s : QSet α) (a : α) : QSet α := if s.contains a then s else s ++ [a]

/-- `s.remove(a)`, and `s.erase(s.find(a))`. -/
def remove (s : QSet α) (a : α) : QSet α := List.eraseP (· == a) s

/-- `unite`: the elements of the second set are inserted one by one. -/
def unite (s t : QSet α) : QSet α := List.foldl insert s t

/-- No two elements compare equal. -/
def Distinct (s : QSet α) : Prop := s.Pairwise fun a b => (a == b) = false

variable {s : QSet α} {a b : α}

omit [BEq α] in
@[simp] theorem default_eq : (default : QSet α) = [] := rfl

theorem contains_eq_false : contains s a = false ↔ ∀ x ∈ s, (x == a) = false := by
  simp [contains]

theorem contains_iff_mem [LawfulBEq α] : contains s a = true ↔ a ∈ s := by
  simp [contains]

theorem distinct_iff_nodup [LawfulBEq α] : Distinct s ↔ List.Nodup s := by
  simp [Distinct, List.Nodup]

theorem mem_insert [LawfulBEq α] {x : α} : x ∈ insert s a ↔ x ∈ s ∨ x = a := by
  unfold insert
  split_ifs with hc
  · rw [contains_iff_mem] at hc
    exact ⟨.inl, fun h => h.elim id fun e => e ▸ hc⟩
  · simp

theorem mem_unite [LawfulBEq α] {t : QSet α} {x : α} : x ∈ unite s t ↔ x ∈ s ∨ x ∈ t := by
  unfold unite
  induction t generalizing s with
  | nil => simp
  | cons a t ih =>
    rw [foldl_cons, ih, mem_insert, mem_cons, or_assoc]

theorem nodup_insert [LawfulBEq α] (h : List.Nodup s) (a : α) : List.Nodup (insert s a) := by
  unfold insert
  split_ifs with hc
  · exact h
  · rw [contains_iff_mem] at hc
    refine nodup_append.2 ⟨h, by simp, fun x hx y hy => ?_⟩
    rw [mem_singleton.1 hy]
    exact fun e => hc (e ▸ hx)

theorem mem_remove_of_nodup [LawfulBEq α] (h : List.Nodup s) {x : α} :
    x ∈ remove s a ↔ x ∈ s ∧ x ≠ a := by
  rw [remove, ← erase_eq_eraseP', h.mem_erase_iff, and_comm]

theorem nodup_remove (h : List.Nodup s) (a : α) : List.Nodup (remove s a) :=
  h.sublist eraseP_sublist

theorem find_eq_none : find s a = none ↔ contains s a = false := by
  simp [find, contains]

theorem mem_of_find (h : find s a = some b) : b ∈ s ∧ (b == a) = true :=
  ⟨mem_of_find?_eq_some h, by simpa using find?_some h⟩

theorem exists_append_of_find (h : find s a = some b) :
    ∃ l₁ l₂, s = l₁ ++ b :: l₂ ∧ remove s a = l₁ ++ l₂ := by
  obtain ⟨hb, l₁, l₂, rfl, hl₁⟩ := find?_eq_some_iff_append.1 h
  refine ⟨l₁, l₂, rfl, ?_⟩
  have hmiss : ∀ x ∈ l₁, ¬(x == a) = true := by simpa using hl₁
  rw [remove, eraseP_append_right _ hmiss, eraseP_cons, hb, cond_true]

theorem remove_of_find_none (h : find s a = none) : remove s a = s :=
  eraseP_of_forall_not (by simpa [find] using h)

/-- Two elements that the set cannot tell apart are removed alike. -/
theorem remove_congr (h : ∀ x ∈ s, (x == a) = (x == b)) : remove s a = remove s b := by
  unfold remove
  induction s with
  | nil => rfl
  | cons x s ih =>
    rw [eraseP_cons, eraseP_cons, h x mem_cons_self,
      ih fun y hy => h y (mem_cons_of_mem _ hy)]

theorem mem_of_mem_remove (h : b ∈ remove s a) : b ∈ s := mem_of_mem_eraseP h

theorem Distinct.remove (h : Distinct s) (a : α) : Distinct (remove s a) :=
  List.Pairwise.sublist (eraseP_sublist) h

theorem insert_of_not_contains (h : contains s a = false) : insert s a = s ++ [a] := by
  rw [insert, h, if_neg Bool.false_ne_true]

theorem mem_insert_of_not_contains (h : contains s a = false) {x : α} :
    x ∈ insert s a ↔ x ∈ s ∨ x = a := by
  rw [insert_of_not_contains h, mem_append, mem_singleton]

theorem mem_or_eq_of_mem_insert (h : b ∈ insert s a) : b ∈ s ∨ b = a := by
  cases hc : contains s a with
  | true => exact .inl (by rwa [insert, if_pos hc] at h)
  | false => exact (mem_insert_of_not_contains hc).1 h

theorem mem_insert_of_mem (h : b ∈ s) : b ∈ insert s a := by
  unfold insert
  split_ifs
  · exact h
  · exact mem_append_left _ h

theorem Distinct.insert (h : Distinct s) (a : α) : Distinct (insert s a) := by
  unfold QSet.insert
  split_ifs with hc
  · exact h
  · rw [Distinct, pairwise_append]
    refine ⟨h, pairwise_singleton _ _, fun x hx y hy => ?_⟩
    obtain rfl := mem_singleton.1 hy
    exact contains_eq_false.1 (Bool.not_eq_true _ ▸ hc) x hx

/-- Two elements of a set of distinct ones that compare equal are the same. -/
theorem Distinct.eq_of_beq (h : Distinct s) (hsymm : ∀ x y : α, (x == y) = (y == x)) (ha : a ∈ s)
    (hb : b ∈ s) (hab : (a == b) = true) : a = b := by
  by_contra hne
  have : Std.Symm fun x y : α => (x == y) = false := ⟨fun x y hxy => by rw [hsymm]; exact hxy⟩
  have hapart := List.Pairwise.forall h ha hb hne
  rw [hab] at hapart
  cases hapart

/-- **In a set of distinct elements `find` finds what is there.**  `hrefl` and
`hsymm` are what a comparison written field by field satisfies at once. -/
theorem find_of_mem (h : Distinct s) (hrefl : (a == a) = true)
    (hsymm : ∀ x y : α, (x == y) = (y == x)) (ha : a ∈ s) : find s a = some a := by
  cases hf : find s a with
  | none =>
    have hne := contains_eq_false.1 (find_eq_none.1 hf) a ha
    rw [hrefl] at hne
    cases hne
  | some b =>
    obtain ⟨hb, hba⟩ := mem_of_find hf
    rw [h.eq_of_beq hsymm hb ha hba]

/-- What is removed is the only element that compares equal. -/
theorem remove_eq_filter (h : Distinct s) (hsymm : ∀ x y : α, (x == y) = (y == x)) (ha : a ∈ s) :
    remove s a = filter (fun x => !(x == a)) s := by
  have honly : s.Pairwise fun x y => ¬((x == a) = true ∧ (y == a) = true) := by
    refine List.Pairwise.imp_of_mem (fun {x y} hx hy hxy hboth => ?_) h
    rw [h.eq_of_beq hsymm hx ha hboth.1, hsymm, hboth.2] at hxy
    cases hxy
  unfold remove
  clear h ha
  induction s with
  | nil => rfl
  | cons x s ih =>
    obtain ⟨hx, hrest⟩ := pairwise_cons.1 honly
    rw [eraseP_cons, filter_cons, ih hrest]
    cases hxa : x == a with
    | false => rfl
    | true =>
      refine (filter_eq_self.2 fun y hy => ?_).symm
      have hya : (y == a) = false := by
        rw [← Bool.not_eq_true]
        exact fun hya => hx y hy ⟨hxa, hya⟩
      rw [hya]
      rfl

/-- **`remove` takes out exactly the element that was found.** -/
theorem mem_remove_iff (h : Distinct s) (hrefl : ∀ x : α, (x == x) = true)
    (hf : find s a = some b) {x : α} : x ∈ remove s a ↔ x ∈ s ∧ x ≠ b := by
  obtain ⟨l₁, l₂, rfl, hr⟩ := exists_append_of_find hf
  rw [Distinct, pairwise_append, pairwise_cons] at h
  obtain ⟨-, ⟨hb₂, -⟩, h₁⟩ := h
  have hb : b ∉ l₁ ++ l₂ := by
    intro hmem
    have hself := hrefl b
    rcases mem_append.1 hmem with hmem | hmem
    · rw [h₁ b hmem b mem_cons_self] at hself
      cases hself
    · rw [hb₂ b hmem] at hself
      cases hself
  rw [hr]
  constructor
  · intro hx
    refine ⟨?_, fun e => hb (e ▸ hx)⟩
    rcases mem_append.1 hx with hx | hx
    · exact mem_append_left _ hx
    · exact mem_append_right _ (mem_cons_of_mem _ hx)
  · rintro ⟨hx, hne⟩
    rcases mem_append.1 hx with hx | hx
    · exact mem_append_left _ hx
    · rcases mem_cons.1 hx with rfl | hx
      · exact absurd rfl hne
      · exact mem_append_right _ hx

/-- **An element that is taken out and put back changed** is replaced, as long as the set cannot
tell the two apart. -/
theorem mem_insert_remove_iff {b' : α} (h : Distinct s) (hrefl : ∀ x : α, (x == x) = true)
    (hsymm : ∀ x y : α, (x == y) = (y == x)) (hf : find s a = some b)
    (hsame : ∀ x : α, (x == b') = (x == b)) {x : α} :
    x ∈ insert (remove s a) b' ↔ (x ∈ s ∧ x ≠ b) ∨ x = b' := by
  have hfresh : contains (remove s a) b' = false := by
    refine contains_eq_false.2 fun y hy => ?_
    obtain ⟨hy, hne⟩ := (mem_remove_iff h hrefl hf).1 hy
    rw [hsame, ← Bool.not_eq_true]
    exact fun hbeq => hne (h.eq_of_beq hsymm hy (mem_of_find hf).1 hbeq)
  rw [mem_insert_of_not_contains hfresh, mem_remove_iff h hrefl hf]

end QSet
end Sebastian
