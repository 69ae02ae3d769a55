/-
# The cache with several indexes

`sebastian/modules/monitor/multi_index_cache.go`: the values under their
primary keys, and for every index a map from the key a value has under it to
the primary key.  `Set` over a stored value writes the new index key and leaves
the one the old value had.

What a reader expects is `ReadsStored`: a value is found under an index key
exactly when it is stored and has that key.  Between two operations that is so
as long as no overwriting takes an index key from the stored values
(`KeepsIndexKeys`), and only so (`readsStored_iff`).
-/

import Mathlib.Data.Int.Notation
import Sebastian.Lib.GoMap
import Sebastian.Lib.Run

namespace Sebastian
namespace Monitor

open List Option GoMap

/-- `MultiIndexCache[K, V]` -/
structure MultiIndexCache (K V : Type) where
  data : GoMap K V := .empty
  indexFnMap : GoMap String (V → String) := .empty
  indexMap : GoMap String (GoMap String K) := .empty

namespace MultiIndexCache

variable {K V : Type} [DecidableEq K]

/-! ### The operations -/

/-- `for key, value := range data`, the entries under their index key. -/
def fillIndex (indexFunc : V → String) (index : GoMap String K) (order : List (K × V)) :
    GoMap String K :=
  index.setAll (order.map fun x => (indexFunc x.2, x.1))

/-- `for indexName, indexFunc := range cache.indexFnMap`: every index is changed, by its
function. -/
def eachIndex (cache : MultiIndexCache K V)
    (change : (V → String) → GoMap String K → GoMap String K) : GoMap String (GoMap String K) :=
  fun indexName =>
    match cache.indexFnMap indexName with
    | some indexFunc => (cache.indexMap indexName).map (change indexFunc)
    | none => cache.indexMap indexName

/-- `AddIndex`.  `order` is the one in which `cache.data` is walked. -/
def addIndex (cache : MultiIndexCache K V) (indexName : String) (indexFunc : V → String)
    (order : List (K × V)) : MultiIndexCache K V :=
  { cache with
    indexFnMap := cache.indexFnMap.set indexName indexFunc
    indexMap := cache.indexMap.set indexName (fillIndex indexFunc .empty order) }

/-- `DeleteIndex` -/
def deleteIndex (cache : MultiIndexCache K V) (indexName : String) : MultiIndexCache K V :=
  { cache with
    indexFnMap := cache.indexFnMap.delete indexName
    indexMap := cache.indexMap.delete indexName }

/-- `GetByIndex` -/
def getByIndex (cache : MultiIndexCache K V) (indexName indexKey : String) : Option V :=
  match cache.indexMap indexName with
  | none => none
  | some index =>
    match index indexKey with
    | none => none
    | some primaryKey => cache.data primaryKey

/-- `GetAllByIndex` -/
def getAllByIndex (cache : MultiIndexCache K V) (indexName : String) : GoMap String V :=
  match cache.indexMap indexName with
  | none => .empty
  | some index => fun indexKey => (index indexKey).bind cache.data

/-- `Clear` -/
def clear (cache : MultiIndexCache K V) : MultiIndexCache K V :=
  { cache with
    data := .empty
    indexMap := fun indexName => (cache.indexMap indexName).map fun _ => .empty }

/-- `Set` -/
def set (cache : MultiIndexCache K V) (key : K) (value : V) : MultiIndexCache K V :=
  { cache with
    data := cache.data.set key value
    indexMap := cache.eachIndex fun indexFunc index => index.set (indexFunc value) key }

/-- `SetAll`.  `order` is the one in which the argument is walked. -/
def setAll (cache : MultiIndexCache K V) (order : List (K × V)) : MultiIndexCache K V :=
  order.foldl (fun cache x => cache.set x.1 x.2) cache

/-- `Delete` -/
def delete (cache : MultiIndexCache K V) (key : K) : MultiIndexCache K V :=
  match cache.data key with
  | none => cache
  | some value =>
    { cache with
      data := cache.data.delete key
      indexMap := cache.eachIndex fun indexFunc index => index.delete (indexFunc value) }

/-- `DeleteByIndex` -/
def deleteByIndex (cache : MultiIndexCache K V) (indexName indexKey : String) :
    MultiIndexCache K V :=
  match cache.indexMap indexName with
  | none => cache
  | some index =>
    match index indexKey with
    | none => cache
    | some primaryKey =>
      match cache.data primaryKey with
      | none => cache
      | some value =>
        { cache with
          data := cache.data.delete primaryKey
          indexMap := cache.eachIndex fun indexFunc index => index.delete (indexFunc value) }

/-- A call of one of the operations that change the cache. -/
inductive Operation (K V : Type) where
  | addIndex (indexName : String) (indexFunc : V → String) (order : List (K × V))
  | deleteIndex (indexName : String)
  | set (key : K) (value : V)
  | setAll (order : List (K × V))
  | delete (key : K)
  | deleteByIndex (indexName indexKey : String)
  | clear

/-- What a call does. -/
def apply (cache : MultiIndexCache K V) : Operation K V → MultiIndexCache K V
  | .addIndex indexName indexFunc order => cache.addIndex indexName indexFunc order
  | .deleteIndex indexName => cache.deleteIndex indexName
  | .set key value => cache.set key value
  | .setAll order => cache.setAll order
  | .delete key => cache.delete key
  | .deleteByIndex indexName indexKey => cache.deleteByIndex indexName indexKey
  | .clear => cache.clear

/-- The orders of a call are orders of the maps it walks. -/
def Walks (cache : MultiIndexCache K V) : Operation K V → Prop
  | .addIndex _ _ order => GoMap.Ranges cache.data order
  | .setAll order => (order.map (·.1)).Nodup
  | _ => True

/-! ### What a reader expects -/

/-- No two stored values have the same key under an index. -/
def Unambiguous (cache : MultiIndexCache K V) : Prop :=
  ∀ n f, cache.indexFnMap n = some f → ∀ k k' v v', cache.data k = some v →
    cache.data k' = some v' → f v = f v' → k = k'

/-- A value is found under an index key exactly when it is stored and has that key. -/
def ReadsStored (cache : MultiIndexCache K V) : Prop :=
  ∀ n f, cache.indexFnMap n = some f → ∀ s v,
    (cache.getByIndex n s = some v ↔ ∃ k, cache.data k = some v ∧ f v = s) ∧
    (cache.getAllByIndex n s = some v ↔ ∃ k, cache.data k = some v ∧ f v = s)

/-- Calls one after the other, after each of which the stored values are unambiguous. -/
def Step (cache : MultiIndexCache K V) (operation : Operation K V)
    (cache' : MultiIndexCache K V) : Prop :=
  cache.Walks operation ∧ cache' = cache.apply operation ∧ cache'.Unambiguous

/-- What a call writes over. -/
def written : Operation K V → List (K × V)
  | .set key value => [(key, value)]
  | .setAll order => order
  | _ => []

/-- **No overwriting takes an index key away**: a key that an overwritten value has under
an index is the key of a value that is stored afterwards. -/
def KeepsIndexKeys (cache : MultiIndexCache K V) (operation : Operation K V) : Prop :=
  ∀ n f, cache.indexFnMap n = some f → ∀ k ∈ (written operation).map (·.1), ∀ v,
    cache.data k = some v →
      ∃ k' v', cache.data.setAll (written operation) k' = some v' ∧ f v' = f v

/-- The indexes are exact. -/
structure Indexed (cache : MultiIndexCache K V) : Prop where
  named : ∀ n, (cache.indexFnMap n).isSome = (cache.indexMap n).isSome
  exact : ∀ n f index, cache.indexFnMap n = some f → cache.indexMap n = some index →
    ∀ s k, index s = some k ↔ ∃ v, cache.data k = some v ∧ f v = s

variable {cache : MultiIndexCache K V}

omit [DecidableEq K] in
theorem indexed_empty : (({} : MultiIndexCache K V)).Indexed where
  named _ := rfl
  exact _ _ _ h := by cases h

omit [DecidableEq K] in
/-- Both readers look a primary key up and the value under it. -/
theorem getByIndex_eq (n s : String) :
    cache.getByIndex n s = (cache.indexMap n).bind fun index => (index s).bind cache.data := by
  unfold getByIndex
  cases cache.indexMap n with
  | none => rfl
  | some index =>
    dsimp only [bind_some]
    cases index s with
    | none => rfl
    | some k => rfl

omit [DecidableEq K] in
theorem getAllByIndex_eq (n s : String) : cache.getAllByIndex n s = cache.getByIndex n s := by
  rw [getByIndex_eq, getAllByIndex]
  cases cache.indexMap n with
  | none => rfl
  | some index => rfl

omit [DecidableEq K] in
theorem Indexed.readsStored (h : cache.Indexed) : cache.ReadsStored := by
  intro n f hf s v
  have hn := h.named n
  rw [hf, isSome_some] at hn
  obtain ⟨index, hindex⟩ := isSome_iff_exists.1 hn.symm
  have hread : cache.getByIndex n s = some v ↔ ∃ k, cache.data k = some v ∧ f v = s := by
    rw [getByIndex_eq, hindex, bind_some, bind_eq_some_iff]
    constructor
    · rintro ⟨k, hk, hv⟩
      obtain ⟨v', hv', hs⟩ := (h.exact n f index hf hindex s k).1 hk
      rw [hv] at hv'
      cases hv'
      exact ⟨k, hv, hs⟩
    · rintro ⟨k, hv, hs⟩
      exact ⟨k, (h.exact n f index hf hindex s k).2 ⟨v, hv, hs⟩, hv⟩
  exact ⟨hread, by rw [getAllByIndex_eq]; exact hread⟩

/-! ### What the operations do to one index -/

omit [DecidableEq K] in
theorem eachIndex_isSome (change : (V → String) → GoMap String K → GoMap String K) (n : String) :
    (cache.eachIndex change n).isSome = (cache.indexMap n).isSome := by
  unfold eachIndex
  cases cache.indexFnMap n with
  | none => rfl
  | some f => rw [Option.isSome_map]

omit [DecidableEq K] in
theorem eachIndex_eq_some {change : (V → String) → GoMap String K → GoMap String K} {n : String}
    {f : V → String} {index : GoMap String K} (hf : cache.indexFnMap n = some f) :
    cache.eachIndex change n = some index ↔
      ∃ before, cache.indexMap n = some before ∧ change f before = index := by
  rw [eachIndex, hf, map_eq_some_iff]

@[simp] theorem setAll_indexFnMap (order : List (K × V)) :
    (cache.setAll order).indexFnMap = cache.indexFnMap := by
  induction order generalizing cache with
  | nil => rfl
  | cons x order ih => exact ih

@[simp] theorem setAll_data (order : List (K × V)) :
    (cache.setAll order).data = cache.data.setAll order := by
  induction order generalizing cache with
  | nil => rfl
  | cons x order ih => exact ih

/-- Every index is filled with what is written. -/
theorem setAll_indexMap (order : List (K × V)) : (cache.setAll order).indexMap =
      cache.eachIndex fun indexFunc index => fillIndex indexFunc index order := by
  induction order generalizing cache with
  | nil =>
    funext n
    unfold eachIndex
    cases cache.indexFnMap n with
    | none => rfl
    | some f =>
      cases hindex : cache.indexMap n with
      | none => exact hindex
      | some index => exact hindex
  | cons x order ih =>
    funext n
    refine (congrFun ih n).trans ?_
    show eachIndex (cache.set x.1 x.2) _ n = _
    simp only [eachIndex, set]
    cases cache.indexFnMap n with
    | none => rfl
    | some f =>
      dsimp only
      rw [Option.map_map]
      rfl

/-- `DeleteByIndex` deletes the primary key it finds. -/
theorem deleteByIndex_eq (n s : String) : cache.deleteByIndex n s =
      (((cache.indexMap n).bind fun index => index s).map cache.delete).getD cache := by
  unfold deleteByIndex
  cases cache.indexMap n with
  | none => rfl
  | some index =>
    dsimp only [bind_some]
    cases index s with
    | none => rfl
    | some k =>
      dsimp only [map_some, getD_some]
      unfold delete
      cases cache.data k with
      | none => rfl
      | some v => rfl

omit [DecidableEq K] in
theorem fillIndex_of_forall {f : V → String} {index : GoMap String K} {order : List (K × V)}
    {s : String} (h : ∀ k v, (k, v) ∈ order → f v ≠ s) : fillIndex f index order s = index s := by
  refine setAll_of_not_mem fun hmem => ?_
  simp only [List.mem_map, Prod.exists] at hmem
  obtain ⟨s', k, ⟨k', v, hkv, heq⟩, hs⟩ := hmem
  have heq := Prod.mk.inj heq
  exact h k' v hkv (heq.1.trans hs)

omit [DecidableEq K] in
/-- An index key that is written leads to a primary key that was written with it. -/
theorem exists_of_fillIndex (f : V → String) (index : GoMap String K) {order : List (K × V)}
    {k : K} {v : V} (h : (k, v) ∈ order) :
    ∃ k' v', (k', v') ∈ order ∧ f v' = f v ∧ fillIndex f index order (f v) = some k' := by
  have hmem : f v ∈ (order.map fun x => (f x.2, x.1)).map (·.1) :=
    mem_map.2 ⟨(f v, k), mem_map.2 ⟨(k, v), h, rfl⟩, rfl⟩
  obtain ⟨k', hk', hfound⟩ := exists_setAll (m := index) hmem
  obtain ⟨⟨k'', v'⟩, hkv, heq⟩ := mem_map.1 hk'
  obtain ⟨hs, rfl⟩ := Prod.mk.inj heq
  exact ⟨k'', v', hkv, hs, hfound⟩

/-! ### Every operation -/

/-- **Filling keeps the indexes exact** when no index key is taken away. -/
theorem Indexed.setAll (h : cache.Indexed) (order : List (K × V))
    (hnodup : (order.map (·.1)).Nodup) (hbefore : cache.Unambiguous)
    (hafter : (cache.setAll order).Unambiguous)
    (hkeeps : ∀ n f, cache.indexFnMap n = some f → ∀ k ∈ order.map (·.1), ∀ v,
      cache.data k = some v → ∃ k' v', cache.data.setAll order k' = some v' ∧ f v' = f v) :
    (cache.setAll order).Indexed where
  named n := by
    rw [setAll_indexMap, eachIndex_isSome, setAll_indexFnMap]
    exact h.named n
  exact n f index hf hindex s k := by
    rw [setAll_indexFnMap] at hf
    rw [setAll_indexMap, eachIndex_eq_some hf] at hindex
    obtain ⟨before, hold, rfl⟩ := hindex
    have hexact := h.exact n f before hf hold
    have hunique : ∀ k k' v v', cache.data.setAll order k = some v →
        cache.data.setAll order k' = some v' → f v = f v' → k = k' := by
      have := hafter n f (by rwa [setAll_indexFnMap])
      rwa [setAll_data] at this
    rw [setAll_data]
    by_cases hs : ∃ k v, (k, v) ∈ order ∧ f v = s
    · obtain ⟨k₀, v₀, hkv, rfl⟩ := hs
      obtain ⟨k', v', hkv', hv', hfound⟩ := exists_of_fillIndex f before hkv
      have hstored := setAll_of_mem (m := cache.data) hnodup hkv'
      rw [hfound]
      constructor
      · intro hk
        cases hk
        exact ⟨v', hstored, hv'⟩
      · rintro ⟨v, hv, hfv⟩
        rw [hunique k' k v' v hstored hv (hv'.trans hfv.symm)]
    · have hnone : ∀ k v, (k, v) ∈ order → f v ≠ s := fun k v hkv hfv => hs ⟨k, v, hkv, hfv⟩
      rw [fillIndex_of_forall hnone, hexact]
      constructor
      · rintro ⟨v, hv, rfl⟩
        by_cases hk : k ∈ order.map (·.1)
        · -- The old value had the index key, so a value stored now has it, and was not written.
          obtain ⟨k', v', hv', hfv'⟩ := hkeeps n f hf k hk v hv
          rcases mem_of_setAll hv' with hmem | ⟨hnot, hold'⟩
          · exact absurd hfv' (hnone k' v' hmem)
          · rw [hbefore n f hf k' k v' v hold' hv hfv'] at hnot
            exact absurd hk hnot
        · exact ⟨v, by rw [setAll_of_not_mem hk, hv], rfl⟩
      · rintro ⟨v, hv, rfl⟩
        rcases mem_of_setAll hv with hmem | ⟨-, hold'⟩
        · exact absurd rfl (hnone k v hmem)
        · exact ⟨v, hold', rfl⟩

theorem Indexed.delete (h : cache.Indexed) (hbefore : cache.Unambiguous) (key : K) :
    (cache.delete key).Indexed := by
  unfold MultiIndexCache.delete
  cases hkey : cache.data key with
  | none => exact h
  | some value =>
    refine ⟨fun n => ?_, fun n f index hf hindex s k => ?_⟩
    · rw [eachIndex_isSome]
      exact h.named n
    · have hf : cache.indexFnMap n = some f := hf
      have hindex : cache.eachIndex _ n = some index := hindex
      obtain ⟨before, hold, rfl⟩ := (eachIndex_eq_some hf).1 hindex
      have hexact := h.exact n f before hf hold
      dsimp only
      rw [delete_apply, delete_apply]
      by_cases hs : s = f value
      · rw [if_pos hs]
        refine iff_of_false nofun ?_
        rintro ⟨v, hv, hfv⟩
        split_ifs at hv with hk
        exact hk (hbefore n f hf k key v value hv hkey (hfv.trans hs))
      · rw [if_neg hs, hexact]
        by_cases hk : k = key
        · rw [if_pos hk]
          refine iff_of_false ?_ (by rintro ⟨v, hv, -⟩; cases hv)
          rintro ⟨v, hv, hfv⟩
          rw [hk, hkey] at hv
          cases hv
          exact hs hfv.symm
        · rw [if_neg hk]

/-- **What every operation keeps.** -/
theorem Indexed.apply (h : cache.Indexed) {operation : Operation K V}
    (hwalks : cache.Walks operation) (hbefore : cache.Unambiguous)
    (hafter : (cache.apply operation).Unambiguous) (hkeeps : cache.KeepsIndexKeys operation) :
    (cache.apply operation).Indexed := by
  cases operation with
  | addIndex name indexFunc order =>
    refine ⟨fun n => ?_, fun n f index hf hindex s k => ?_⟩
    · show (cache.indexFnMap.set _ _ n).isSome = (cache.indexMap.set _ _ n).isSome
      rw [set_apply, set_apply]
      split_ifs
      · rfl
      · exact h.named n
    · by_cases hn : n = name
      · have hf' : indexFunc = f := by
          have hf : (if n = name then some indexFunc else _) = some f := hf
          rw [if_pos hn] at hf
          exact some.inj hf
        have hindex' : fillIndex indexFunc .empty order = index := by
          have hindex : (if n = name then some _ else _) = some index := hindex
          rw [if_pos hn] at hindex
          exact some.inj hindex
        subst hf' hindex'
        show _ ↔ ∃ v, cache.data k = some v ∧ indexFunc v = s
        constructor
        · intro hk
          rcases mem_of_setAll hk with hmem | ⟨-, hnone⟩
          · obtain ⟨⟨k', v⟩, hkv, heq⟩ := mem_map.1 hmem
            obtain ⟨rfl, rfl⟩ := Prod.mk.inj heq
            exact ⟨v, (hwalks.mem k' v).1 hkv, rfl⟩
          · cases hnone
        · rintro ⟨v, hv, rfl⟩
          obtain ⟨k', v', hkv', hfv', hfound⟩ := exists_of_fillIndex indexFunc .empty
            ((hwalks.mem k v).2 hv)
          rw [hfound, hafter n indexFunc hf k' k v' v ((hwalks.mem k' v').1 hkv') hv hfv']
      · have hf' : cache.indexFnMap n = some f := by
          have hf : (if n = name then some indexFunc else _) = some f := hf
          rwa [if_neg hn] at hf
        have hindex' : cache.indexMap n = some index := by
          have hindex : (if n = name then some _ else _) = some index := hindex
          rwa [if_neg hn] at hindex
        exact h.exact n f index hf' hindex' s k
  | deleteIndex name =>
    refine ⟨fun n => ?_, fun n f index hf hindex s k => ?_⟩
    · show (cache.indexFnMap.delete _ n).isSome = (cache.indexMap.delete _ n).isSome
      rw [delete_apply, delete_apply]
      split_ifs
      · rfl
      · exact h.named n
    · have hf : (if n = name then none else _) = some f := hf
      have hindex : (if n = name then none else _) = some index := hindex
      split_ifs at hf hindex with hn
      exact h.exact n f index hf hindex s k
  | set key value => exact h.setAll [(key, value)] (by simp) hbefore hafter hkeeps
  | setAll order => exact h.setAll order hwalks hbefore hafter hkeeps
  | delete key => exact h.delete hbefore key
  | deleteByIndex n s =>
    show (cache.deleteByIndex n s).Indexed
    rw [deleteByIndex_eq]
    cases (cache.indexMap n).bind fun index => index s with
    | none => exact h
    | some key => exact h.delete hbefore key
  | clear =>
    refine ⟨fun n => ?_, fun n f index hf hindex s k => ?_⟩
    · show _ = (Option.map _ _).isSome
      rw [Option.isSome_map]
      exact h.named n
    · obtain ⟨before, -, rfl⟩ := map_eq_some_iff.1 hindex
      exact iff_of_false nofun (by rintro ⟨v, hv, -⟩; cases hv)

/-- **A key that is taken away is still found**, and leads to a value that has another. -/
theorem keepsIndexKeys_of_readsStored (h : cache.Indexed) {operation : Operation K V}
    (hwalks : cache.Walks operation) (hreads : (cache.apply operation).ReadsStored) :
    cache.KeepsIndexKeys operation := by
  have hall : ∀ order : List (K × V), (order.map (·.1)).Nodup → (cache.setAll order).ReadsStored →
      ∀ n f, cache.indexFnMap n = some f → ∀ k ∈ order.map (·.1), ∀ v, cache.data k = some v →
        ∃ k' v', cache.data.setAll order k' = some v' ∧ f v' = f v := by
    intro order hnodup hreads n f hf k hk v hv
    have hn := h.named n
    rw [hf, isSome_some] at hn
    obtain ⟨before, hold⟩ := isSome_iff_exists.1 hn.symm
    by_cases hs : ∃ k v', (k, v') ∈ order ∧ f v' = f v
    · obtain ⟨k', v', hkv, hfv⟩ := hs
      exact ⟨k', v', setAll_of_mem hnodup hkv, hfv⟩
    · -- The index still leads to the key, where another value is stored now.
      obtain ⟨v', -, hv'⟩ := exists_setAll (m := cache.data) hk
      have hindex : fillIndex f before order (f v) = some k := by
        rw [fillIndex_of_forall fun k v' hkv hfv => hs ⟨k, v', hkv, hfv⟩]
        exact (h.exact n f before hf hold (f v) k).2 ⟨v, hv, rfl⟩
      have hget : (cache.setAll order).getByIndex n (f v) = some v' := by
        rw [getByIndex_eq, setAll_indexMap, (eachIndex_eq_some hf).2 ⟨before, hold, rfl⟩,
          bind_some, hindex, bind_some, setAll_data, hv']
      obtain ⟨k', hk', hfv'⟩ := ((hreads n f (by rwa [setAll_indexFnMap]) (f v) v').1).1 hget
      rw [setAll_data] at hk'
      exact ⟨k', v', hk', hfv'⟩
  cases operation with
  | set key value => exact hall [(key, value)] (by simp) hreads
  | setAll order => exact hall order hwalks hreads
  | addIndex => exact fun _ _ _ _ hk => absurd hk not_mem_nil
  | deleteIndex => exact fun _ _ _ _ hk => absurd hk not_mem_nil
  | delete => exact fun _ _ _ _ hk => absurd hk not_mem_nil
  | deleteByIndex => exact fun _ _ _ _ hk => absurd hk not_mem_nil
  | clear => exact fun _ _ _ _ hk => absurd hk not_mem_nil

/-! ### Runs -/

/-- **When the indexes can be trusted.**  In every run from the empty cache the readers find
the stored values in every state exactly when no overwriting takes an index key away. -/
theorem readsStored_iff {run : List (Operation K V × MultiIndexCache K V)}
    (h : Along Step ({} : MultiIndexCache K V) run) :
    (∀ cache ∈ statesOfRun {} run, cache.ReadsStored) ↔
      Along (fun cache operation _ => cache.KeepsIndexKeys operation) {} run := by
  refine h.iff_along (I := fun cache => cache.Indexed ∧ cache.Unambiguous)
    ⟨indexed_empty, fun _ _ hf => by cases hf⟩ (fun _ hI => hI.1.readsStored) ?_ ?_
  · rintro cache operation _ ⟨hwalks, rfl, hafter⟩ ⟨hindexed, hbefore⟩ hkeeps
    exact ⟨hindexed.apply hwalks hbefore hafter hkeeps, hafter⟩
  · rintro cache operation _ ⟨hwalks, rfl, -⟩ ⟨hindexed, -⟩ hreads
    exact keepsIndexKeys_of_readsStored hindexed hwalks hreads

/-! ### A value that is renamed -/

/-- The stored value is replaced by one with another index key. -/
def renamedValue : List (Operation ℤ String × MultiIndexCache ℤ String) :=
  runOf apply {} [.addIndex "name" id [], .set 1 "a", .set 1 "b"]

omit [DecidableEq K] in
theorem unambiguous_of_forall {key : K} (h : ∀ k v, cache.data k = some v → k = key) :
    cache.Unambiguous :=
  fun _ _ _ k k' v v' hk hk' _ => (h k v hk).trans (h k' v' hk').symm

theorem along_renamedValue : Along Step ({} : MultiIndexCache ℤ String) renamedValue := by
  have hone : ∀ m : GoMap ℤ String, (∀ k, k ≠ 1 → m k = none) → ∀ k v, m k = some v → k = 1 := by
    intro m hm k v hk
    by_contra hne
    rw [hm k hne] at hk
    cases hk
  refine ⟨⟨⟨nodup_nil, fun k a => by simp⟩, rfl, ?_⟩, ⟨trivial, rfl, ?_⟩,
    ⟨trivial, rfl, ?_⟩, trivial⟩
  · exact unambiguous_of_forall (hone _ fun _ _ => rfl)
  · exact unambiguous_of_forall (hone _ fun k hk => by simp [apply, set, addIndex, hk])
  · exact unambiguous_of_forall (hone _ fun k hk => by simp [apply, set, addIndex, hk])

theorem readsStored_iff_renamedValue : Along Step ({} : MultiIndexCache ℤ String) renamedValue ∧
      ((∀ cache ∈ statesOfRun {} renamedValue, cache.ReadsStored) ↔
        Along (fun cache operation _ => cache.KeepsIndexKeys operation) {} renamedValue) :=
  ⟨along_renamedValue, readsStored_iff along_renamedValue⟩

/-- The name the value had is still found, and leads to the value that has another. -/
theorem not_readsStored :
    ∃ run : List (Operation ℤ String × MultiIndexCache ℤ String), Along Step {} run ∧
      ∃ cache ∈ statesOfRun {} run, cache.getByIndex "name" "a" = some "b" ∧
        ¬cache.ReadsStored := by
  refine ⟨renamedValue, along_renamedValue, _, mem_cons_of_mem _ (mem_cons_of_mem _
    (mem_cons_of_mem _ mem_cons_self)), by decide, fun h => ?_⟩
  obtain ⟨k, -, hkey⟩ := ((h "name" id rfl "a" "b").1).1 (by decide)
  exact absurd hkey (by decide)

end MultiIndexCache
end Monitor
end Sebastian
