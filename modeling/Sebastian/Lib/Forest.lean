/-
# Forests kept as parent pointers

A forest is often stored as nothing but a partial function from a node to its parent.
`Rooted` says that following the parents of a node comes to an end, and `Under` that it comes past
another node.  An edit changes the function: a subtree is hung elsewhere (`Rooted.rehang`), which is
safe as long as the new place is not in the subtree itself, a node is taken out and its children go
to its parent (`Rooted.splice`), or some nodes lose their parents (`Rooted.prune`).

`subtree` lists a subtree by a search from its root, given the children of each node.
-/

import Mathlib.Data.Finset.Card
import Sebastian.Lib.Loop

namespace Sebastian
namespace Forest

open List

variable {α : Type*} {parent parent' : α → Option α} {a b r x : α}

/-- Following the parents of the node comes to an end. -/
inductive Rooted (parent : α → Option α) : α → Prop
  | root {a : α} : parent a = none → Rooted parent a
  | child {a b : α} : parent a = some b → Rooted parent b → Rooted parent a

/-- Following the parents of `a` comes past `r`, or starts there. -/
def Under (parent : α → Option α) (r a : α) : Prop :=
  Relation.ReflTransGen (fun x y => parent x = some y) a r

theorem Under.refl (r : α) : Under parent r r := Relation.ReflTransGen.refl

theorem Under.of_parent (h : parent a = some b) (hb : Under parent r b) : Under parent r a :=
  Relation.ReflTransGen.head h hb

/-- A node below another one is that one, or its parent is below it. -/
theorem under_iff : Under parent r a ↔ a = r ∨ ∃ b, parent a = some b ∧ Under parent r b := by
  constructor
  · intro h
    rcases Relation.ReflTransGen.cases_head h with rfl | ⟨b, hb, hr⟩
    · exact .inl rfl
    · exact .inr ⟨b, hb, hr⟩
  · rintro (rfl | ⟨b, hb, hr⟩)
    · exact .refl _
    · exact .of_parent hb hr

theorem Rooted.up (h : Rooted parent a) (hb : parent a = some b) : Rooted parent b := by
  cases h with
  | root hnone => rw [hnone] at hb; cases hb
  | child hc hrooted =>
    rw [hc] at hb
    cases hb
    exact hrooted

theorem Rooted.prune (h : ∀ x, parent' x = none ∨ parent' x = parent x) (ha : Rooted parent a) :
    Rooted parent' a := by
  induction ha with
  | @root a hnone => exact .root ((h a).elim id fun he => he.trans hnone)
  | @child a b hb _ ih =>
    rcases h a with hnone | hsame
    · exact .root hnone
    · exact .child (hsame.trans hb) ih

theorem Rooted.of_not_under (h : ∀ x, x ≠ a → parent' x = parent x) (hb : Rooted parent b)
    (hout : ¬Under parent a b) : Rooted parent' b := by
  induction hb with
  | @root b hnone => exact .root ((h b fun e => hout (e ▸ .refl b)).trans hnone)
  | @child b c hc _ ih =>
    exact .child ((h b fun e => hout (e ▸ .refl b)).trans hc) (ih fun hu => hout (.of_parent hc hu))

/-- **Hanging a subtree elsewhere:** the new place is outside of it. -/
theorem Rooted.rehang (h : ∀ x, x ≠ a → parent' x = parent x)
    (hplace : ∀ b, parent' a = some b → Rooted parent b ∧ ¬Under parent a b)
    (hx : Rooted parent x) : Rooted parent' x := by
  have hself : Rooted parent' a := by
    cases hb : parent' a with
    | none => exact .root hb
    | some b => exact .child hb ((hplace b hb).1.of_not_under h (hplace b hb).2)
  induction hx with
  | @root x hnone =>
    by_cases hxa : x = a
    · exact hxa ▸ hself
    · exact .root ((h x hxa).trans hnone)
  | @child x y hy _ ih =>
    by_cases hxa : x = a
    · exact hxa ▸ hself
    · exact .child ((h x hxa).trans hy) ih

/-- **Taking a node out:** its children go to its parent. -/
theorem Rooted.splice [DecidableEq α] (h : ∀ x, parent' x = if parent x =
    some a then parent a else parent x)
    (hx : Rooted parent x) : Rooted parent' x := by
  induction hx with
  | @root x hnone =>
    refine .root ?_
    rw [h, if_neg (by rw [hnone]; exact fun e => nomatch e), hnone]
  | @child x y hy _ ih =>
    by_cases hya : y = a
    · subst hya
      have hown : parent' y = parent y := by
        rw [h]
        split_ifs <;> rfl
      have hchild : parent' x = parent y := by rw [h, if_pos hy]
      cases hup : parent y with
      | none => exact .root (hchild.trans hup)
      | some z => exact .child (hchild.trans hup) (ih.up (hown.trans hup))
    · refine .child ?_ ih
      rw [h, if_neg (by rw [hy]; exact fun e => hya (Option.some.inj e)), hy]

/-- A rooted node is not above itself: there are no cycles. -/
theorem Rooted.not_under_parent (ha : Rooted parent a) (hb : parent a = some b) :
    ¬Under parent a b := by
  induction ha generalizing b with
  | @root a hnone => rw [hnone] at hb; cases hb
  | @child a c hc _ ih =>
    rw [hc] at hb
    cases hb
    intro hu
    rcases under_iff.1 hu with rfl | ⟨d, hd, hda⟩
    · exact ih hc (.refl _)
    · refine ih hd ?_
      exact Relation.ReflTransGen.tail hda hc

/-! ### Listing a subtree -/

variable [DecidableEq α]

/-- A search: what waits, and what was found. -/
structure Search (α : Type*) where
  waiting : List α
  found : List α

/-- A child that was not found yet waits. -/
def Search.push (s : Search α) (child : α) : Search α :=
  if child ∈ s.found then s else ⟨s.waiting ++ [child], s.found ++ [child]⟩

/-- One round: the children of the node that waits longest. -/
def subtreeRound (children : α → List α) (s : Search α) : Iter (Search α) (List α) :=
  match s.waiting with
  | [] => .done s.found
  | current :: waiting => .next ((children current).foldl Search.push ⟨waiting, s.found⟩)

/-- The nodes of a subtree, beginning with its root. -/
def subtree (children : α → List α) (fuel : ℕ) (r : α) : Option (List α) :=
  Loop.run (subtreeRound children) fuel ⟨[r], [r]⟩

/-- What a round adds to a search: it found `l` besides, and what is new waits. -/
structure Pushed (l : List α) (s t : Search α) : Prop where
  found : ∀ x, x ∈ t.found ↔ x ∈ s.found ∨ x ∈ l
  waiting : ∀ x, x ∈ t.waiting ↔ x ∈ s.waiting ∨ x ∈ l ∧ x ∉ s.found
  nodup : s.found.Nodup → t.found.Nodup
  length : t.waiting.length + s.found.length = s.waiting.length + t.found.length

theorem pushed_foldl (l : List α) (s : Search α) : Pushed l s (l.foldl Search.push s) := by
  induction l generalizing s with
  | nil => exact ⟨by simp, by simp, id, rfl⟩
  | cons a l ih =>
    have h := ih (s.push a)
    rw [foldl_cons]
    generalize l.foldl Search.push (s.push a) = t at h ⊢
    unfold Search.push at h
    split_ifs at h with ha
    · refine ⟨fun x => ?_, fun x => ?_, h.nodup, h.length⟩
      · rw [h.found, mem_cons]
        constructor
        · rintro (hx | hx)
          · exact .inl hx
          · exact .inr (.inr hx)
        · rintro (hx | rfl | hx)
          · exact .inl hx
          · exact .inl ha
          · exact .inr hx
      · rw [h.waiting, mem_cons]
        constructor
        · rintro (hx | ⟨hx, hnew⟩)
          · exact .inl hx
          · exact .inr ⟨.inr hx, hnew⟩
        · rintro (hx | ⟨rfl | hx, hnew⟩)
          · exact .inl hx
          · exact absurd ha hnew
          · exact .inr ⟨hx, hnew⟩
    · obtain ⟨hfound, hwaiting, hnodup, hlen⟩ := h
      simp only [mem_append, mem_singleton, length_append, length_singleton]
        at hfound hwaiting hlen
      refine ⟨fun x => ?_, fun x => ?_, fun hs => hnodup ?_, by omega⟩
      · rw [hfound, mem_cons, or_assoc]
      · rw [hwaiting, mem_cons]
        by_cases hxa : x = a
        · subst hxa
          simp [ha]
        · simp [hxa]
      · exact nodup_append.2 ⟨hs, by simp, fun x hx y hy => by
          rw [mem_singleton.1 hy]
          exact fun e => ha (e ▸ hx)⟩

/-- The invariant of the search: what was found is below the root, and the children of what does
not wait any more were found. -/
structure SearchInv (parent : α → Option α) (r : α) (s : Search α) : Prop where
  root : r ∈ s.found
  under : ∀ x ∈ s.found, Under parent r x
  waiting : ∀ x ∈ s.waiting, x ∈ s.found
  closed : ∀ x ∈ s.found, x ∉ s.waiting → ∀ y, parent y = some x → y ∈ s.found
  nodup : s.found.Nodup

/-- **The search lists exactly the subtree**, when `children` inverts `parent` there and all nodes
with a parent are among `nodes`. -/
theorem exists_subtree {children : α → List α} (r : α)
    (hchildren : ∀ x, Under parent r x → ∀ y, y ∈ children x ↔ parent y = some x)
    (nodes : Finset α) (hnodes : ∀ x y, parent x = some y → x ∈ nodes) {fuel : ℕ}
    (hfuel : nodes.card + 2 < fuel) :
    ∃ l : List α, subtree children fuel r = some l ∧ l.Nodup ∧ ∀ x, x ∈ l ↔ Under parent r x := by
  have hsub : ∀ s, SearchInv parent r s → s.found.toFinset ⊆ insert r nodes := by
    intro s hs x hx
    rcases under_iff.1 (hs.under x (mem_toFinset.1 hx)) with rfl | ⟨y, hy, -⟩
    · exact Finset.mem_insert_self _ _
    · exact Finset.mem_insert_of_mem (hnodes x y hy)
  have hbound : ∀ s, SearchInv parent r s → s.found.length ≤ nodes.card + 1 := by
    intro s hs
    have hcard := Finset.card_le_card (hsub s hs)
    rw [toFinset_card_of_nodup hs.nodup] at hcard
    exact hcard.trans (Finset.card_insert_le _ _)
  have hinit : SearchInv parent r ⟨[r], [r]⟩ := by
    have hroot : ∀ x ∈ [r], Under parent r x := by
      intro x hx
      rw [mem_singleton.1 hx]
      exact .refl r
    exact ⟨mem_singleton_self r, hroot, fun x hx => hx, fun x hx hnot => absurd hx hnot,
      nodup_singleton r⟩
  -- each round takes one node out of those that wait, and each node waits once
  have hstep : ∀ s, SearchInv parent r s → (∃ l, subtreeRound children s = .done l) ∨
      ∃ t, subtreeRound children s = .next t ∧ SearchInv parent r t ∧
        t.waiting.length + (nodes.card + 1 - t.found.length) <
          s.waiting.length + (nodes.card + 1 - s.found.length) := by
    intro s hs
    unfold subtreeRound
    cases hwaiting : s.waiting with
    | nil => exact .inl ⟨_, rfl⟩
    | cons current waiting =>
      refine .inr ⟨_, rfl, ?_⟩
      have hpushed := pushed_foldl (children current) ⟨waiting, s.found⟩
      generalize (children current).foldl Search.push ⟨waiting, s.found⟩ = t at hpushed ⊢
      obtain ⟨hfound, hwait, hnodup, hlen⟩ := hpushed
      dsimp only at hfound hwait hnodup hlen
      have hcur : Under parent r current :=
        hs.under current (hs.waiting current (by rw [hwaiting]; simp))
      have hinv : SearchInv parent r t := by
        refine ⟨(hfound r).2 (.inl hs.root), fun x hx => ?_, fun x hx => ?_,
          fun x hx hnot y hy => ?_, hnodup hs.nodup⟩
        · rcases (hfound x).1 hx with hx | hx
          · exact hs.under x hx
          · exact .of_parent ((hchildren current hcur x).1 hx) hcur
        · rw [hfound]
          rcases (hwait x).1 hx with hx | ⟨hx, -⟩
          · exact .inl (hs.waiting x (by rw [hwaiting]; exact mem_cons_of_mem _ hx))
          · exact .inr hx
        · rw [hfound]
          rw [hwait] at hnot
          by_cases hxc : x = current
          · exact .inr ((hchildren current hcur y).2 (hxc ▸ hy))
          · have hold : x ∈ s.found := by
              rcases (hfound x).1 hx with hx | hx
              · exact hx
              · by_contra hnew
                exact hnot (.inr ⟨hx, hnew⟩)
            refine .inl (hs.closed x hold (fun hmem => ?_) y hy)
            rw [hwaiting] at hmem
            rcases mem_cons.1 hmem with rfl | hmem
            · exact hxc rfl
            · exact hnot (.inl hmem)
      have ht := hbound t hinv
      rw [length_cons]
      exact ⟨hinv, by omega⟩
  obtain ⟨l, s, hrun, hs, hdone⟩ := Loop.exists_run_done
    (fun s : Search α => s.waiting.length + (nodes.card + 1 - s.found.length)) hinit hstep
    (show [r].length + (nodes.card + 1 - [r].length) < fuel by
      rw [length_singleton]
      omega)
  unfold subtreeRound at hdone
  split at hdone
  · rename_i hempty
    obtain rfl : s.found = l := by injection hdone
    refine ⟨s.found, hrun, hs.nodup, fun x => ⟨hs.under x, fun hx => ?_⟩⟩
    induction hx using Relation.ReflTransGen.head_induction_on with
    | refl => exact hs.root
    | head hup _ ih => exact hs.closed _ ih (by rw [hempty]; exact not_mem_nil) _ hup
  · cases hdone

end Forest
end Sebastian
