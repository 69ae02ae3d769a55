/-
# Qt's ordered map

`QMap<K, T>` is a map ordered by key: `keys()` and `values()` list it in
ascending order of the keys.  `Std.TreeMap` is exactly that.  What Qt adds is
`operator[]` on a non-const map, which *inserts* a default-constructed value
when the key is missing and returns a reference: reading through it is
`QMap.value`, changing the referenced value in place is `QMap.update`, and
evaluating `m[k]` for its side effect alone is `QMap.touch`.

`mem_vals` and `mem_vals_update` describe the values of a map through its
lookups; the nested maps of the program are read through them alone.
-/

import Mathlib.Data.Finset.Sort

namespace Sebastian

open List Option Std.TreeMap

/-- `QMap<κ, α>`. -/
abbrev QMap (κ α : Type) [Ord κ] := Std.TreeMap κ α compare

namespace QMap

variable {κ α : Type} [Ord κ]

/-- The value read through `m[k]`: the stored one, or a default one. -/
def value [Inhabited α] (m : QMap κ α) (k : κ) : α := m.getD k default

/-- `m[k] = f(m[k])`: the referenced value, default-constructed if it was
missing, is changed in place. -/
def update [Inhabited α] (m : QMap κ α) (k : κ) (f : α → α) : QMap κ α := m.insert k (f (m.value k))

/-- `m[k]` evaluated as a statement: a missing key is inserted. -/
def touch [Inhabited α] (m : QMap κ α) (k : κ) : QMap κ α := m.update k id

/-- `m.values()`. -/
def vals (m : QMap κ α) : List α := m.toList.map (·.2)

@[simp] theorem default_eq : (default : QMap κ α) = ∅ := rfl

variable [Std.TransOrd κ]

theorem value_eq_getD [Inhabited α] (m : QMap κ α) (k : κ) : m.value k = (m[k]?).getD default := by
  simp [value, getD_eq_getD_getElem?]

theorem value_of_getElem? [Inhabited α] {m : QMap κ α} {k : κ} {a : α} (h : m[k]? = some a) :
    m.value k = a := by
  simp [value_eq_getD, h]

theorem value_of_contains_eq_false [Inhabited α] {m : QMap κ α} {k : κ}
    (h : m.contains k = false) : m.value k = default := by
  rw [value_eq_getD, getElem?_eq_none_of_contains_eq_false h, getD_none]

@[simp] theorem value_empty [Inhabited α] (k : κ) : (∅ : QMap κ α).value k = default := by
  simp [value_eq_getD]

/-- A map that holds something below `m[k]` is stored there. -/
theorem getElem?_of_value_getElem? {κ' : Type} [Ord κ'] [Std.TransOrd κ']
    {m : QMap κ (QMap κ' α)} {k : κ} {k' : κ'} {a : α} (h : (m.value k)[k']? = some a) :
    m[k]? = some (m.value k) := by
  cases hk : m[k]? with
  | some b => rw [value_of_getElem? hk]
  | none =>
    rw [value_eq_getD, hk] at h
    simp at h

variable [Std.LawfulEqOrd κ]

@[simp] theorem getElem?_update [Inhabited α] [DecidableEq κ] (m : QMap κ α) (k k' : κ)
    (f : α → α) : (m.update k f)[k']? = if k = k' then some (f (m.value k)) else m[k']? := by
  simp [update, Std.TreeMap.getElem?_insert]

@[simp] theorem value_update [Inhabited α] [DecidableEq κ] (m : QMap κ α) (k k' : κ) (f : α → α) :
    (m.update k f).value k' = if k = k' then f (m.value k) else m.value k' := by
  simp [update, value, getD_insert]

theorem contains_update [Inhabited α] [DecidableEq κ] (m : QMap κ α) (k k' : κ) (f : α → α) :
    (m.update k f).contains k' = (decide (k = k') || m.contains k') := by
  by_cases h : k = k' <;> simp [update, Std.TreeMap.contains_insert, h]

@[simp] theorem value_insert [Inhabited α] [DecidableEq κ] (m : QMap κ α) (k k' : κ) (a : α) :
    value (m.insert k a) k' = if k = k' then a else m.value k' := by
  simp [value, getD_insert]

/-- Touching a key changes no value read through `operator[]`. -/
@[simp] theorem value_touch [Inhabited α] (m : QMap κ α) (k k' : κ) :
    (m.touch k).value k' = m.value k' := by
  classical
  by_cases h : k = k' <;> simp [touch, h]

/-- **The values of a map are what its lookups find.** -/
theorem mem_vals {m : QMap κ α} {a : α} : a ∈ m.vals ↔ ∃ k : κ, m[k]? = some a := by
  simp only [vals, List.mem_map, Prod.exists, exists_eq_right,
    mem_toList_iff_getElem?_eq_some]

omit [Std.TransOrd κ] [Std.LawfulEqOrd κ] in
theorem vals_eq_nil_iff {m : QMap κ α} : m.vals = [] ↔ m.isEmpty = true := by
  rw [vals, List.map_eq_nil_iff, ← List.isEmpty_iff, isEmpty_toList]

omit [Std.TransOrd κ] [Std.LawfulEqOrd κ] in
theorem isSome_head?_keys (m : QMap κ α) : m.keys.head?.isSome = !m.isEmpty := by
  rw [← isEmpty_keys]
  cases m.keys <;> rfl

/-- Touching a key adds a default value if the key was missing. -/
theorem mem_vals_touch [Inhabited α] [DecidableEq κ] {m : QMap κ α} {k : κ} {a : α} :
    a ∈ (m.touch k).vals ↔ a ∈ m.vals ∨ (m[k]? = none ∧ a = default) := by
  simp only [mem_vals, touch, getElem?_update, id]
  constructor
  · rintro ⟨k', h⟩
    split_ifs at h with hk
    · subst hk
      cases h
      cases hm : m[k]? with
      | none => exact .inr ⟨rfl, by rw [value_eq_getD, hm, getD_none]⟩
      | some b => exact .inl ⟨k, by rw [value_of_getElem? hm, hm]⟩
    · exact .inl ⟨k', h⟩
  · rintro (⟨k', h⟩ | ⟨hm, rfl⟩)
    · refine ⟨k', ?_⟩
      split_ifs with hk
      · subst hk
        rw [value_of_getElem? h]
      · exact h
    · exact ⟨k, by rw [if_pos rfl, value_eq_getD, hm, getD_none]⟩

/-- The values of a map come from different keys. -/
theorem pairwise_vals {m : QMap κ α} {R : α → α → Prop}
    (h : ∀ (k k' : κ) (a a' : α), k ≠ k' → m[k]? = some a → m[k']? = some a' → R a a') :
    m.vals.Pairwise R := by
  rw [vals, pairwise_map]
  refine List.Pairwise.imp_of_mem (fun {x y} hx hy hne => ?_) distinct_keys_toList
  rw [mem_toList_iff_getElem?_eq_some] at hx hy
  exact h x.1 y.1 x.2 y.2 (fun e => hne (by rw [e]; exact Std.ReflCmp.compare_self)) hx hy

theorem nodup_toList (m : QMap κ α) : m.toList.Nodup :=
  distinct_keys_toList.imp fun {x y} hne he =>
    hne (by rw [he]; exact Std.ReflCmp.compare_self)

/-- **Maps are told apart by their lookups.** -/
theorem toList_eq_iff {m m' : QMap κ α} : m.toList = m'.toList ↔ ∀ k : κ, m[k]? = m'[k]? := by
  constructor
  · intro h k
    refine ext fun a => ?_
    rw [← mem_toList_iff_getElem?_eq_some, h,
      mem_toList_iff_getElem?_eq_some]
  · intro h
    refine equiv_iff_toList_eq.1 (.of_toList_perm
      ((perm_ext_iff_of_nodup (nodup_toList m) (nodup_toList m')).2 fun ⟨k, a⟩ => ?_))
    rw [mem_toList_iff_getElem?_eq_some, mem_toList_iff_getElem?_eq_some,
      h k]

theorem toList_eq_of_size {m m' : QMap κ α} (hsize : m.size = m'.size)
    (h : ∀ p ∈ m.toList, m'[p.1]? = some p.2) : m.toList = m'.toList := by
  refine equiv_iff_toList_eq.1 (.of_toList_perm
    ((subperm_of_subset (nodup_toList m) fun p hp => ?_).perm_of_length_le ?_))
  · exact mem_toList_iff_getElem?_eq_some.2 (h p hp)
  · rw [Std.TreeMap.length_toList, Std.TreeMap.length_toList, hsize]

theorem vals_eq_filterMap (m : QMap κ α) : m.vals = m.keys.filterMap (m[·]?) := by
  rw [vals, ← map_fst_toList_eq_keys, filterMap_map, ← filterMap_eq_map]
  refine filterMap_congr fun p hp => ?_
  exact (mem_toList_iff_getElem?_eq_some.1 hp).symm

/-- **Maps whose lookups correspond** have values that correspond one by one. -/
theorem forall₂_vals {β : Type} {R : α → β → Prop} {m : QMap κ α} {m' : QMap κ β}
    (h : ∀ k : κ, Option.Rel R m[k]? m'[k]?) : List.Forall₂ R m.vals m'.vals := by
  have hkeys : m.keys = m'.keys := by
    rw [← keys_map (f := fun _ _ => ()), ← keys_map (t := m')
      (f := fun _ _ => ()), ← map_fst_toList_eq_keys,
      ← map_fst_toList_eq_keys]
    refine congrArg _ (toList_eq_iff.2 fun k => ?_)
    rw [Std.TreeMap.getElem?_map, Std.TreeMap.getElem?_map]
    have hk := h k
    generalize m[k]? = a at hk ⊢
    generalize m'[k]? = b at hk ⊢
    cases hk <;> rfl
  rw [vals_eq_filterMap, vals_eq_filterMap, hkeys]
  induction m'.keys with
  | nil => exact .nil
  | cons k keys ih =>
    rw [filterMap_cons, filterMap_cons]
    have hk := h k
    generalize m[k]? = a at hk ⊢
    generalize m'[k]? = b at hk ⊢
    cases hk with
    | some hR => exact .cons hR ih
    | none => exact ih

theorem mem_keys_iff {m : QMap κ α} {k : κ} : k ∈ m.keys ↔ ∃ a : α, m[k]? = some a := by
  rw [Std.TreeMap.mem_keys, Std.TreeMap.mem_iff_isSome_getElem?, isSome_iff_exists]

/-- A map that is filled from a list of pairs, where the value is a function of the key. -/
theorem getElem?_foldl_insert [DecidableEq κ] {l : List (κ × α)} {f : κ → α}
    (h : ∀ p ∈ l, p.2 = f p.1) (m : QMap κ α) (k : κ) :
    (l.foldl (fun m p => m.insert p.1 p.2) m)[k]? =
      if k ∈ l.map (·.1) then some (f k) else m[k]? := by
  induction l generalizing m with
  | nil => simp
  | cons p l ih =>
    rw [foldl_cons, ih fun q hq => h q (mem_cons_of_mem _ hq)]
    have hp := h p mem_cons_self
    by_cases hk : k ∈ l.map (·.1)
    · simp [hk]
    · by_cases hpk : p.1 = k
      · simp [hk, hp, hpk]
      · simp [Std.TreeMap.getElem?_insert, hk, hpk, Ne.symm hpk]

/-- A missing key is inserted, and a stored one keeps its value. -/
theorem getElem?_insertIfNew [DecidableEq κ] (m : QMap κ α) (k k' : κ) (a : α) :
    (m.insertIfNew k a)[k']? = m[k']?.or (if k' = k then some a else none) := by
  simp only [Std.TreeMap.getElem?_insertIfNew, Std.LawfulEqCmp.compare_eq_iff_eq,
    Std.TreeMap.mem_iff_isSome_getElem?]
  by_cases hk : k' = k
  · subst hk
    cases hm : m[k']? <;> simp
  · simp [hk, Ne.symm hk]

/-- The keys of a list are inserted where they are missing. -/
theorem getElem?_foldl_insertIfNew [DecidableEq κ] (l : List κ) (f : κ → α) (m : QMap κ α) (k : κ) :
    (l.foldl (fun m k => m.insertIfNew k (f k)) m)[k]? =
      m[k]?.or (if k ∈ l then some (f k) else none) := by
  induction l generalizing m with
  | nil => simp
  | cons k' l ih =>
    rw [foldl_cons, ih, getElem?_insertIfNew, Option.or_assoc]
    by_cases hk : k = k'
    · simp [hk]
    · simp [hk]

/-- **A loop over the entries of a map** that changes what its state says of a key only when it
has come to that key.  Each key is passed once, so that the loop relates what is said of a key
before and after the way a round does, and it succeeds if every round does. -/
theorem exists_foldlM_toList {ε σ α β : Type} (f : σ → κ × α → Except ε σ) (read : σ → κ → β)
    (Pre : κ → α → β → Prop) (Post : κ → α → β → β → Prop)
    (hstep : ∀ (t : σ) (k : κ) (a : α), Pre k a (read t k) → ∃ t' : σ, f t (k, a) = .ok t' ∧
      Post k a (read t k) (read t' k) ∧ ∀ k' : κ, k' ≠ k → read t' k' = read t k')
    (m : QMap κ α) (t : σ) (hpre : ∀ (k : κ) (a : α), m[k]? = some a → Pre k a (read t k)) :
    ∃ t' : σ, m.toList.foldlM f t = .ok t' ∧
      (∀ (k : κ) (a : α), m[k]? = some a → Post k a (read t k) (read t' k)) ∧
      ∀ k : κ, m[k]? = none → read t' k = read t k := by
  have hkeys : m.toList.Pairwise fun x y => x.1 ≠ y.1 :=
    distinct_keys_toList.imp fun {x y} hne e =>
      hne (by rw [e]; exact Std.ReflCmp.compare_self)
  have hmem : ∀ (k : κ) (a : α), m[k]? = some a ↔ (k, a) ∈ m.toList := fun k a =>
    mem_toList_iff_getElem?_eq_some.symm
  have hnone : ∀ k : κ, m[k]? = none ↔ ∀ a : α, (k, a) ∉ m.toList := by
    intro k
    rw [eq_none_iff_forall_ne_some]
    exact forall_congr' fun a => not_congr (hmem k a)
  simp only [hmem, hnone] at hpre ⊢
  clear hmem hnone
  generalize m.toList = l at hkeys hpre ⊢
  induction l generalizing t with
  | nil => exact ⟨t, rfl, by simp, fun _ _ => rfl⟩
  | cons x l ih =>
    obtain ⟨k, a⟩ := x
    obtain ⟨hk, hl⟩ := pairwise_cons.1 hkeys
    have hapart : ∀ (k' : κ) (a' : α), (k', a') ∈ l → k' ≠ k := fun k' a' h e => hk _ h e.symm
    obtain ⟨t₁, hf, hpost, hframe⟩ := hstep t k a (hpre k a mem_cons_self)
    obtain ⟨t', hrun, hposts, hothers⟩ := ih t₁ hl fun k' a' h => by
      rw [hframe k' (hapart k' a' h)]
      exact hpre k' a' (mem_cons_of_mem _ h)
    refine ⟨t', by rw [foldlM_cons, hf]; exact hrun, fun k' a' h => ?_, fun k' h => ?_⟩
    · rcases mem_cons.1 h with e | h
      · obtain ⟨rfl, rfl⟩ := Prod.mk.inj e
        rw [hothers k' fun a'' h' => hapart k' a'' h' rfl]
        exact hpost
      · rw [← hframe k' (hapart k' a' h)]
        exact hposts k' a' h
    · have hne : k' ≠ k := fun e => h a (by rw [e]; exact mem_cons_self)
      rw [hothers k' fun a' h' => h a' (mem_cons_of_mem _ h'), hframe k' hne]

theorem foldl_toList {σ α β : Type} (f : σ → κ × α → σ) (read : σ → κ → β)
    (Post : κ → α → β → β → Prop)
    (hstep : ∀ (t : σ) (k : κ) (a : α), Post k a (read t k) (read (f t (k, a)) k) ∧
      ∀ k' : κ, k' ≠ k → read (f t (k, a)) k' = read t k') (m : QMap κ α) (t : σ) :
    (∀ (k : κ) (a : α), m[k]? = some a → Post k a (read t k) (read (m.toList.foldl f t) k)) ∧
      ∀ k : κ, m[k]? = none → read (m.toList.foldl f t) k = read t k := by
  obtain ⟨t', hok, hpost, hframe⟩ := exists_foldlM_toList
    (fun t x => (.ok (f t x) : Except Unit σ)) read (fun _ _ _ => True) Post
    (fun t k a _ => ⟨f t (k, a), rfl, hstep t k a⟩) m t fun _ _ _ => trivial
  have hrun : ∀ (l : List (κ × α)) (t : σ),
      l.foldlM (fun t x => (.ok (f t x) : Except Unit σ)) t = .ok (l.foldl f t) := by
    intro l
    induction l with
    | nil => exact fun _ => rfl
    | cons x l ih => exact fun t => ih (f t x)
  rw [hrun] at hok
  cases hok
  exact ⟨hpost, hframe⟩

/-- **The entries of a second map are taken over where the first has none.** -/
theorem getElem?_foldl_toList_insertIfNew [DecidableEq κ] (m m' : QMap κ α) (k : κ) :
    (m'.toList.foldl (fun m p => m.insertIfNew p.1 p.2) m)[k]? = m[k]?.or m'[k]? := by
  obtain ⟨hin, hout⟩ := foldl_toList (fun (m : QMap κ α) p => m.insertIfNew p.1 p.2)
    (fun m k => m[k]?) (fun _ a before after => after = before.or (some a))
    (fun t k a => ⟨by rw [getElem?_insertIfNew, if_pos rfl],
      fun k' hk => by rw [getElem?_insertIfNew, if_neg hk, or_none]⟩) m' m
  cases hk : m'[k]? with
  | some a => exact hin k a hk
  | none => rw [hout k hk, or_none]

end QMap
end Sebastian
