/-
# The farthest device first

`layerMergeFarToNear` (`sebastian/modules/deploy/deployer_utils.go`) for the paths to the
root of a tree.  The depth of a device is the same on each path that it is on
(`RootPath.unique`), so the layers have no device in common, and what is merged from the
deeper layers comes first (`idxOf_layerMergeFarToNear_lt`).

`layerMergeFarToNear_farToNear` says it of the merged list and of the order in which the
devices are configured: a device that is still to be configured has its way to the origin.
-/

import Sebastian.Deploy.DeviceResults

namespace Sebastian
namespace Deploy

open List

/-! ### Layers of their own -/

section
variable {paths : List (List String)} {merged merged' : List String} {a b : String} {d e : ℕ}

/-- The device is at this depth of a path. -/
def AtDepth (paths : List (List String)) (node : String) (d : ℕ) : Prop :=
  ∃ path ∈ paths, d + 1 ≤ path.length ∧ path.getD (path.length - 1 - d) "" = node

/-- A device is at the same depth of each path. -/
def DepthsAgree (paths : List (List String)) : Prop :=
  ∀ node d e, AtDepth paths node d → AtDepth paths node e → d = e

theorem prefix_mergeNode (d : ℕ) (merged path : List String) :
    merged <+: mergeNode d merged path := by
  unfold mergeNode
  split_ifs
  · dsimp only
    split_ifs
    · exact prefix_refl _
    · exact prefix_append _ _
  · exact prefix_refl _

theorem prefix_foldl_mergeNode (d : ℕ) (merged : List String) :
    merged <+: paths.foldl (mergeNode d) merged := by
  induction paths generalizing merged with
  | nil => exact prefix_refl _
  | cons path paths ih => exact (prefix_mergeNode d merged path).trans (ih _)

theorem prefix_foldl_layers (layers : List ℕ) (merged : List String) :
    merged <+: layers.foldl (fun merged d => paths.foldl (mergeNode d) merged) merged := by
  induction layers generalizing merged with
  | nil => exact prefix_refl _
  | cons d layers ih => exact (prefix_foldl_mergeNode d merged).trans (ih _)

theorem idxOf_lt_of_extends {α : Type} [DecidableEq α] {first all : List α} {a b : α}
    (h : first <+: all) (ha : a ∈ first) (hb : b ∉ first) : all.idxOf a < all.idxOf b := by
  obtain ⟨rest, rfl⟩ := h
  rw [idxOf_append_of_mem ha, idxOf_append_of_notMem hb]
  exact (idxOf_lt_length_of_mem ha).trans_le (Nat.le_add_right _ _)

/-- The layers down to a depth, and those from it on. -/
theorem reverse_range_split (h : e < d) :
    ∃ deeper, (range d).reverse = deeper ++ (range (e + 1)).reverse ∧
      ∀ n, n ∈ deeper ↔ e < n ∧ n < d := by
  refine ⟨((range (d - (e + 1))).map (e + 1 + ·)).reverse, ?_, fun n => ?_⟩
  · rw [← reverse_append, ← range_add, Nat.add_sub_cancel' h]
  · rw [mem_reverse, mem_map]
    constructor
    · rintro ⟨k, hk, rfl⟩
      rw [mem_range] at hk
      omega
    · rintro ⟨hlow, hhigh⟩
      refine ⟨n - (e + 1), mem_range.2 ?_, ?_⟩ <;> omega

/-- **The deeper device comes first.** -/
theorem idxOf_layerMergeFarToNear_lt (ha : AtDepth paths a d)
    (hb : ∀ n, AtDepth paths b n → n ≤ e) (hdeeper : e < d) :
    (layerMergeFarToNear paths).idxOf a < (layerMergeFarToNear paths).idxOf b := by
  unfold layerMergeFarToNear
  dsimp only
  generalize hmax : paths.foldl (fun maxDepth path => max maxDepth (path.length - 1)) 0 = maxDepth
  have hd : d < maxDepth + 1 := by
    obtain ⟨path, hpath, hlen, -⟩ := ha
    have hdepth : path.length - 1 ≤ maxDepth := by
      rw [← hmax]
      exact Loop.foldl_reaches (I := fun _ => True) hpath trivial (fun _ _ _ _ => trivial)
        (fun _ _ => Nat.le_max_right _ _) fun _ hb _ _ => hb.trans (Nat.le_max_left _ _)
    omega
  obtain ⟨deeper, hsplit, hmem⟩ := reverse_range_split (hdeeper.trans hd)
  rw [hsplit, foldl_append]
  refine idxOf_lt_of_extends (prefix_foldl_layers _ _) ?_ ?_
  · obtain ⟨path, hpath, hlen, hnode⟩ := ha
    exact mem_foldl_layers.2 (.inr ⟨d, (hmem d).2 ⟨hdeeper, hd⟩, path, hpath, hlen, hnode⟩)
  · rw [mem_foldl_layers]
    rintro (hnil | ⟨n, hn, hat⟩)
    · exact absurd hnil not_mem_nil
    · exact absurd (hb n hat) (not_le.2 ((hmem n).1 hn).1)

/-- **Whatever the paths are**, each of their devices is merged once, in the order of the greatest
depths. -/
theorem layerMergeFarToNear_spec (paths : List (List String)) :
    (layerMergeFarToNear paths).Nodup ∧
      (∀ node, node ∈ layerMergeFarToNear paths ↔ ∃ path ∈ paths, node ∈ path) ∧
      ∀ a b d e, AtDepth paths a d → (∀ n, AtDepth paths b n → n ≤ e) → e < d →
        (layerMergeFarToNear paths).idxOf a < (layerMergeFarToNear paths).idxOf b :=
  ⟨nodup_layerMergeFarToNear paths, fun _ => mem_layerMergeFarToNear,
    fun _ _ _ _ => idxOf_layerMergeFarToNear_lt⟩

end

/-! ### The paths of a tree -/

/-- **The path from a node of a tree to the origin**, the node first.  The tree is given by the
parents of its nodes. -/
inductive RootPath (parent : String → Option String) (origin : String) : List String → Prop
  | origin : RootPath parent origin [origin]
  | child {node next : String} {rest : List String} : parent node = some next →
      RootPath parent origin (next :: rest) → RootPath parent origin (node :: next :: rest)

section
variable {parent : String → Option String} {origin a b : String} {path l m : List String}
  {paths : List (List String)} {env : Environment} {mapping : QMap ℤ String} {id id' : ℤ}

/-- From each of its nodes on, a path is the path of that node. -/
theorem RootPath.suffix (h : RootPath parent origin (l ++ a :: m)) :
    RootPath parent origin (a :: m) := by
  induction l with
  | nil => exact h
  | cons node l ih =>
    refine ih ?_
    cases l with
    | nil => cases h with
      | child _ hrest => exact hrest
    | cons next l => cases h with
      | child _ hrest => exact hrest

/-- **A node has one path.** -/
theorem RootPath.unique (horigin : parent origin = none) (h : RootPath parent origin (a :: l))
    (h' : RootPath parent origin (a :: m)) : l = m := by
  induction l generalizing a m with
  | nil =>
    cases h
    cases h' with
    | origin => rfl
    | child hparent =>
      rw [horigin] at hparent
      cases hparent
  | cons next l ih =>
    cases h with
    | child hparent hrest =>
      cases h' with
      | origin =>
        rw [horigin] at hparent
        cases hparent
      | child hparent' hrest' =>
        obtain rfl := Option.some.inj (hparent.symm.trans hparent')
        rw [ih hrest hrest']

theorem atDepth_append (hpath : l ++ a :: m ∈ paths) : AtDepth paths a m.length := by
  refine ⟨_, hpath, by simp, ?_⟩
  have hindex : (l ++ a :: m).length - 1 - m.length = l.length := by simp
  rw [hindex, getD_append_right _ _ _ _ le_rfl, Nat.sub_self]
  rfl

theorem AtDepth.exists_append {d : ℕ} (h : AtDepth paths a d) :
    ∃ l m, l ++ a :: m ∈ paths ∧ m.length = d := by
  obtain ⟨path, hpath, hlen, hnode⟩ := h
  have hindex : path.length - 1 - d < path.length := by omega
  rw [getD_eq_getElem _ _ hindex] at hnode
  refine ⟨path.take (path.length - 1 - d), path.drop (path.length - 1 - d + 1), ?_, ?_⟩
  · rwa [← hnode, ← drop_eq_getElem_cons hindex, take_append_drop]
  · rw [length_drop]
    omega

/-- **The paths of a tree agree** in their depths. -/
theorem depthsAgree_of_rootPath (horigin : parent origin = none)
    (hpaths : ∀ path ∈ paths, RootPath parent origin path) : DepthsAgree paths := by
  intro node d e hd he
  obtain ⟨l, m, hpath, rfl⟩ := hd.exists_append
  obtain ⟨l', m', hpath', rfl⟩ := he.exists_append
  rw [(hpaths _ hpath).suffix.unique horigin (hpaths _ hpath').suffix]

/-- The device comes before those that are nearer to the origin. -/
theorem idxOf_lt_of_rootPath (horigin : parent origin = none)
    (hpaths : ∀ path ∈ paths, RootPath parent origin path) (hpath : l ++ a :: m ∈ paths)
    (hb : b ∈ m) : (layerMergeFarToNear paths).idxOf a < (layerMergeFarToNear paths).idxOf b := by
  obtain ⟨m₁, m₂, rfl⟩ := append_of_mem hb
  have hdepth : AtDepth paths b m₂.length :=
    atDepth_append (l := l ++ a :: m₁) (by simpa using hpath)
  refine idxOf_layerMergeFarToNear_lt (atDepth_append hpath)
    (fun n hn => (depthsAgree_of_rootPath horigin hpaths b n _ hn hdepth).le) ?_
  rw [length_append, length_cons]
  omega

/-- The order of the ids is that of the devices in the merged list. -/
theorem idxOf_byDistance_lt
    (hlt : (layerMergeFarToNear paths).idxOf a < (layerMergeFarToNear paths).idxOf b)
    (ha : mapping[id]? = some a) (hb : mapping[id']? = some b)
    (hid : id ∈ byDistance env mapping paths) :
    (byDistance env mapping paths).idxOf id < (byDistance env mapping paths).idxOf id' := by
  obtain ⟨maf, hlisted, hkey⟩ := mem_byDistance.1 hid
  obtain rfl := Option.some.inj (ha.symm.trans (valToKey_eq hkey))
  obtain ⟨l₁, l₂, hsplit⟩ := append_of_mem (mem_layerMergeFarToNear.2 hlisted)
  have hnodup := nodup_layerMergeFarToNear paths
  rw [hsplit] at hnodup hlt
  have hnot : a ∉ l₁ := fun hmem =>
    disjoint_of_nodup_append hnodup hmem mem_cons_self
  have hb₁ : b ∉ l₁ := by
    intro hmem
    rw [idxOf_append_of_mem hmem, idxOf_append_of_notMem hnot] at hlt
    exact absurd (hlt.trans (idxOf_lt_length_of_mem hmem)) (by omega)
  have hab : b ≠ a := by
    rintro rfl
    exact lt_irrefl _ hlt
  unfold byDistance
  rw [hsplit, append_cons, filterMap_append]
  refine idxOf_lt_of_extends (prefix_append _ _) ?_ ?_
  · exact mem_filterMap.2 ⟨a, by simp, hkey⟩
  · rw [mem_filterMap]
    rintro ⟨node, hnode, hkey'⟩
    obtain rfl := Option.some.inj (hb.symm.trans (valToKey_eq hkey'))
    rcases mem_append.1 hnode with hnode | hnode
    · exact hb₁ hnode
    · exact hab (mem_singleton.1 hnode)

end

/-! ### The order of the deployment -/

/-- **Far to near**: the list has every device of the paths once, and each of them before those
that are nearer to the origin on its path.  So whatever has been configured of it, a device that
is still to be configured has its way to the origin. -/
structure FarToNear (paths : List (List String)) (merged : List String) : Prop where
  nodup : merged.Nodup
  mem : ∀ node, node ∈ merged ↔ ∃ path ∈ paths, node ∈ path
  order : ∀ path ∈ paths, path.Pairwise fun a b => merged.idxOf a < merged.idxOf b
  reachable : ∀ done left, merged = done ++ left → ∀ path ∈ paths, ∀ far a near,
    path = far ++ a :: near → a ∈ left → ∀ b ∈ near, b ∈ left

/-- What holds of each element and those behind it. -/
theorem pairwise_of_forall_append {α : Type} {R : α → α → Prop} {path : List α}
    (h : ∀ l a m, path = l ++ a :: m → ∀ b ∈ m, R a b) : path.Pairwise R := by
  rw [pairwise_iff_forall_sublist]
  intro a b hsub
  obtain ⟨first, rest, rfl, ha, hb⟩ := cons_sublist_iff.1 hsub
  obtain ⟨l, m, rfl⟩ := append_of_mem ha
  refine h l a (m ++ rest) (by simp) b (mem_append_right _ ?_)
  exact singleton_sublist.1 hb

/-- **The merged list is far to near**, for the paths of a tree, and so is the order in which
`sortDevicesByDistance` has the devices configured. -/
theorem layerMergeFarToNear_farToNear {parent : String → Option String} {origin : String}
    {paths : List (List String)} (horigin : parent origin = none)
    (hpaths : ∀ path ∈ paths, RootPath parent origin path) :
    FarToNear paths (layerMergeFarToNear paths) ∧
      ∀ (env : Environment) (mapping : QMap ℤ String), env.getDMManager = .ok () →
        sortResultOf env mapping = .ok paths →
        ∃ ids, sortDevicesByDistance env mapping = .ok ids ∧ ids.Nodup ∧
          ∀ path ∈ paths, path.Pairwise fun a b => ∀ id id', mapping[id]? = some a →
            mapping[id']? = some b → id ∈ ids → ids.idxOf id < ids.idxOf id' := by
  have hnodup := nodup_layerMergeFarToNear paths
  refine ⟨⟨hnodup, fun _ => mem_layerMergeFarToNear, fun path hpath => ?_,
    fun done left hsplit path hpath far a near heq ha b hb => ?_⟩,
    fun env mapping hmanager hsort => ?_⟩
  · refine pairwise_of_forall_append fun l a m heq b hb => ?_
    exact idxOf_lt_of_rootPath horigin hpaths (heq ▸ hpath) hb
  · subst heq
    have hlt := idxOf_lt_of_rootPath horigin hpaths hpath hb
    have hmem : b ∈ done ++ left := by
      rw [← hsplit]
      exact mem_layerMergeFarToNear.2 ⟨_, hpath, by simp [hb]⟩
    rw [hsplit] at hlt hnodup
    -- what is in the first part comes before `a`
    refine (mem_append.1 hmem).resolve_left fun hdone => ?_
    have hnot : a ∉ done := fun hmem => disjoint_of_nodup_append hnodup hmem ha
    exact lt_asymm hlt (idxOf_lt_of_extends (prefix_append _ _) hdone hnot)
  · refine ⟨byDistance env mapping paths, ?_, nodup_byDistance, fun path hpath => ?_⟩
    · unfold sortDevicesByDistance
      rw [hmanager, hsort]
      rfl
    · refine pairwise_of_forall_append fun l a m heq b hb id id' ha hb' hid => ?_
      exact idxOf_byDistance_lt (idxOf_lt_of_rootPath horigin hpaths (heq ▸ hpath) hb) ha hb' hid

/-- The devices `b` and `c` behind `a`, and `d` behind `b`. -/
def treeParent : String → Option String
  | "b" => some "a"
  | "c" => some "a"
  | "d" => some "b"
  | _ => none

/-- The paths of `c`, `d` and `b`. -/
theorem farToNear_treeParent :
    (treeParent "a" = none ∧
      ∀ path ∈ [["c", "a"], ["d", "b", "a"], ["b", "a"]], RootPath treeParent "a" path) ∧
    FarToNear [["c", "a"], ["d", "b", "a"], ["b", "a"]]
      (layerMergeFarToNear [["c", "a"], ["d", "b", "a"], ["b", "a"]]) := by
  have hb : RootPath treeParent "a" ["b", "a"] := .child rfl .origin
  have hpaths : ∀ path ∈ [["c", "a"], ["d", "b", "a"], ["b", "a"]],
      RootPath treeParent "a" path := by
    simp only [forall_mem_cons, not_mem_nil, IsEmpty.forall_iff, implies_true, and_true]
    exact ⟨.child rfl .origin, .child rfl hb, hb⟩
  exact ⟨⟨rfl, hpaths⟩, (layerMergeFarToNear_farToNear rfl hpaths).1⟩

example : layerMergeFarToNear [["c", "a"], ["d", "b", "a"], ["b", "a"]] = ["d", "c", "b", "a"] := by
  decide

end Deploy
end Sebastian
