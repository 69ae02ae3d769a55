/-
# Go's map

A Go map is what its lookups find: `m[k]` with the second result is `m k`.  A
loop `for k, v := range m` walks the entries in an order that is not determined;
one order is a list of the entries (`Ranges`), and what holds for every such
list holds for every run of the loop.
-/

import Mathlib.Data.List.Nodup

namespace Sebastian

open List

/-- `map[κ]α`, by what a lookup finds. -/
abbrev GoMap (κ α : Type) := κ → Option α

namespace GoMap

variable {κ α : Type}

/-- `make(map[κ]α)` -/
def empty : GoMap κ α := fun _ => none

@[simp] theorem empty_apply (k : κ) : (empty : GoMap κ α) k = none := rfl

variable [DecidableEq κ]

/-- `m[k] = a` -/
def set (m : GoMap κ α) (k : κ) (a : α) : GoMap κ α := fun k' => if k' = k then some a else m k'

/-- `delete(m, k)` -/
def delete (m : GoMap κ α) (k : κ) : GoMap κ α := fun k' => if k' = k then none else m k'

/-- Entries written one after the other. -/
def setAll (m : GoMap κ α) (l : List (κ × α)) : GoMap κ α := l.foldl (fun m x => m.set x.1 x.2) m

@[simp] theorem set_apply (m : GoMap κ α) (k k' : κ) (a : α) :
    m.set k a k' = if k' = k then some a else m k' := rfl

@[simp] theorem delete_apply (m : GoMap κ α) (k k' : κ) :
    m.delete k k' = if k' = k then none else m k' := rfl

/-- One order in which the entries of the map are walked. -/
structure Ranges (m : GoMap κ α) (l : List (κ × α)) : Prop where
  nodup : (l.map (·.1)).Nodup
  mem : ∀ k a, (k, a) ∈ l ↔ m k = some a

variable {m : GoMap κ α} {l : List (κ × α)} {k : κ} {a : α}

omit [DecidableEq κ] in
theorem eq_of_mem (h : (l.map (·.1)).Nodup) {a' : α} (ha : (k, a) ∈ l) (ha' : (k, a') ∈ l) :
    a = a' := by
  have := inj_on_of_nodup_map h ha ha' rfl
  exact (Prod.mk.inj this).2

/-- A key that is not written keeps what it had. -/
theorem setAll_of_not_mem (h : k ∉ l.map (·.1)) : m.setAll l k = m k := by
  induction l generalizing m with
  | nil => rfl
  | cons x l ih =>
    rw [map_cons, mem_cons, not_or] at h
    rw [setAll, foldl_cons]
    exact (ih h.2).trans (if_neg h.1)

/-- What is found afterwards was written or had been there. -/
theorem mem_of_setAll (h : m.setAll l k = some a) : (k, a) ∈ l ∨ k ∉ l.map (·.1) ∧ m k =
    some a := by
  induction l generalizing m with
  | nil => exact .inr ⟨by simp, h⟩
  | cons x l ih =>
    rw [setAll, foldl_cons] at h
    rcases ih h with hmem | ⟨hnot, hk⟩
    · exact .inl (mem_cons_of_mem _ hmem)
    · rw [set_apply] at hk
      split_ifs at hk with hkx
      · cases hk
        exact .inl (by rw [hkx]; exact mem_cons_self)
      · refine .inr ⟨?_, hk⟩
        rw [map_cons, mem_cons, not_or]
        exact ⟨hkx, hnot⟩

/-- A key that is written is found afterwards, with one of the values it was given. -/
theorem exists_setAll (h : k ∈ l.map (·.1)) : ∃ a, (k, a) ∈ l ∧ m.setAll l k = some a := by
  cases hk : m.setAll l k with
  | some a =>
    rcases mem_of_setAll hk with hmem | ⟨hnot, -⟩
    · exact ⟨a, hmem, rfl⟩
    · exact absurd h hnot
  | none =>
    exfalso
    induction l generalizing m with
    | nil => simp at h
    | cons x l ih =>
      rw [setAll, foldl_cons] at hk
      by_cases hl : k ∈ l.map (·.1)
      · exact ih hl hk
      · rw [map_cons, mem_cons, or_iff_left hl] at h
        have hlast : (m.set x.1 x.2).setAll l k = some x.2 := by
          rw [setAll_of_not_mem hl, set_apply, if_pos h]
        rw [setAll, hk] at hlast
        cases hlast

/-- **A map filled from entries with different keys** holds these, and what it had at the
other keys. -/
theorem setAll_of_mem (h : (l.map (·.1)).Nodup) (hmem : (k, a) ∈ l) : m.setAll l k = some a := by
  obtain ⟨a', hmem', hk⟩ := exists_setAll (m := m) (mem_map_of_mem (f := (·.1)) hmem)
  rw [hk, eq_of_mem h hmem' hmem]

/-- **A walk of a map that was filled** from entries with different keys. -/
theorem ranges_setAll (h : (l.map (·.1)).Nodup) : (empty.setAll l).Ranges l where
  nodup := h
  mem := fun k a => by
    refine ⟨setAll_of_mem h, fun hk => ?_⟩
    rcases mem_of_setAll hk with hmem | ⟨-, hempty⟩
    · exact hmem
    · cases hempty

theorem ranges_of_eq (hm : m = empty.setAll l) (h : (l.map (·.1)).Nodup) : m.Ranges l :=
  hm ▸ ranges_setAll h

theorem forall_setAll {P : κ → α → Prop} (h : ∀ x ∈ l, P x.1 x.2)
    (hk : (empty.setAll l) k = some a) : P k a := by
  rcases mem_of_setAll hk with hmem | ⟨-, hempty⟩
  · exact h _ hmem
  · cases hempty

/-- A map that was filled has the keys it was filled with. -/
theorem isSome_setAll : ((empty.setAll l) k).isSome = true ↔ k ∈ l.map (·.1) := by
  constructor
  · intro hsome
    obtain ⟨a, hk⟩ := Option.isSome_iff_exists.1 hsome
    rcases mem_of_setAll hk with hmem | ⟨-, hempty⟩
    · exact mem_map_of_mem (f := (·.1)) hmem
    · cases hempty
  · intro hmem
    obtain ⟨a, -, hk⟩ := exists_setAll (m := (empty : GoMap κ α)) hmem
    exact Option.isSome_iff_exists.2 ⟨a, hk⟩

/-- A walk of a map that an entry was deleted from. -/
theorem Ranges.delete (h : m.Ranges l) (k : κ) : (m.delete k).Ranges (l.filter (·.1 ≠ k)) where
  nodup := h.nodup.sublist (filter_sublist.map _)
  mem := fun k' a => by
    rw [mem_filter, h.mem, delete_apply]
    split_ifs with heq
    · exact iff_of_false (fun hboth => of_decide_eq_true hboth.2 heq) nofun
    · exact and_iff_left (decide_eq_true heq)

/-- A walk of a map that a new entry was put into. -/
theorem Ranges.set (h : m.Ranges l) (hk : m k = none) (a : α) :
    (m.set k a).Ranges ((k, a) :: l) where
  nodup := by
    rw [map_cons, nodup_cons]
    refine ⟨fun hmem => ?_, h.nodup⟩
    obtain ⟨x, hx, rfl⟩ := mem_map.1 hmem
    exact nomatch hk.symm.trans ((h.mem x.1 x.2).1 hx)
  mem := fun k' a' => by
    rw [mem_cons, h.mem, set_apply, Prod.mk.injEq]
    split_ifs with heq
    · rw [heq, hk, Option.some.injEq]
      simp [eq_comm]
    · simp [heq]

/-- **Deleting while walking**: what the walk does not delete stays. -/
theorem foldl_delete_iff (h : m.Ranges l) (p : α → Bool) :
    (l.foldl (fun m x => if p x.2 then m.delete x.1 else m) m) k = some a ↔
      m k = some a ∧ p a = false := by
  have hfold : ∀ (l : List (κ × α)) (m : GoMap κ α),
      (l.foldl (fun m x => if p x.2 then m.delete x.1 else m) m) k = some a ↔
        m k = some a ∧ ∀ b, (k, b) ∈ l → p b = false := by
    intro l
    induction l with
    | nil => exact fun m => (and_iff_left nofun).symm
    | cons x l ih =>
      intro m
      rw [foldl_cons, ih]
      have hstep : (if p x.2 then m.delete x.1 else m) k = some a ↔
          m k = some a ∧ (x.1 = k → p x.2 = false) := by
        cases hp : p x.2 with
        | true =>
          rw [if_pos rfl, delete_apply]
          by_cases hk : k = x.1 <;> simp [hk, eq_comm]
        | false => simp
      rw [hstep, and_assoc]
      refine and_congr_right fun _ => ⟨fun ⟨hx, hl⟩ b hb => ?_, fun hl => ⟨?_, ?_⟩⟩
      · rcases mem_cons.1 hb with rfl | hb
        · exact hx rfl
        · exact hl b hb
      · rintro rfl
        exact hl x.2 mem_cons_self
      · exact fun b hb => hl b (mem_cons_of_mem _ hb)
  rw [hfold]
  refine and_congr_right fun hk => ⟨fun hl => hl a ((h.mem k a).2 hk), fun hp b hb => ?_⟩
  rw [h.mem, hk] at hb
  rw [← Option.some.inj hb]
  exact hp

/-- **Collecting while walking**: a new map of the entries that pass a test, each under a
key that is computed from its value, where this is the key it had. -/
theorem foldl_collect_iff (h : m.Ranges l) (p : α → Bool) {key : α → κ}
    (hkey : ∀ k a, m k = some a → key a = k) :
    (l.foldl (fun r x => if p x.2 then r.set (key x.2) x.2 else r) empty) k = some a ↔
      m k = some a ∧ p a = true := by
  have hfilled : l.foldl (fun r x => if p x.2 then r.set (key x.2) x.2 else r) empty =
      empty.setAll (l.filter fun x => p x.2) := by
    rw [setAll, foldl_filter]
    refine foldl_ext _ _ _ fun r x hx => ?_
    rw [hkey x.1 x.2 ((h.mem x.1 x.2).1 hx)]
  have hnodup : ((l.filter fun x => p x.2).map (·.1)).Nodup :=
    h.nodup.sublist (filter_sublist.map _)
  rw [hfilled, ← (ranges_setAll hnodup).mem, mem_filter, h.mem]

end GoMap
end Sebastian
