/-
# Contested devices

A wave of the walk of `ComputeRedundantSwift` that is not settled has a device that
some run takes and some run does not reach.  The first such wave shows why: two waves
before it a device that is taken sees this device first, and then or earlier a device
sees it that may be refused (`Contested`, `exists_contested`).

Up to the fourth wave there is no doubt (`may_subset_sure`), and from the seventh on
only end stations are examined, which are never refused (`sure_of_late`).  Both say
that the refused device is in one of the four waves between.
-/

import Sebastian.Core.SwiftWaves

namespace Sebastian
namespace Core

open Finset Prod

variable {view : SwiftView} {swift : Swift} {w : SwiftWave} {j k : ℕ} {n x : ℤ} {t t' : Int16}

/-! ### What is known of a wave -/

/-- **What holds of every wave**: the devices that it is sure to reach it may reach, and all
of them were marked. -/
structure WaveInv (w : SwiftWave) : Prop where
  sure : w.sure ⊆ w.may
  nextSure : w.nextSure ⊆ w.nextMay
  may : w.may ⊆ w.marked
  nextMay : w.nextMay ⊆ w.marked
  marked : w.marked ⊆ w.marks.image Prod.fst
  accepted : w.accepted.image Prod.fst ⊆ w.marked

theorem seenFrom_taken_subset : view.seenFrom (w.taken view) ⊆ (w.next view).marked := by
  intro n hn
  obtain ⟨x, hx, hnx⟩ := SwiftView.mem_seenFrom.1 hn
  obtain ⟨hsure, hexam, -⟩ := mem_filter.1 hx
  exact mem_union_right _
    (SwiftView.mem_seenFrom.2 ⟨x, mem_filter.2 ⟨hsure, hexam⟩, hnx⟩)

theorem marked_subset_next : w.marked ⊆ (w.next view).marked := subset_union_left

theorem WaveInv.next (h : WaveInv w) : WaveInv (w.next view) where
  sure := h.nextSure
  nextSure := by
    intro n hn
    obtain ⟨hn, -⟩ := mem_sdiff.1 hn
    obtain ⟨hseen, hmarks⟩ := mem_sdiff.1 hn
    exact mem_sdiff.2 ⟨hseen, fun hmarked => hmarks (h.marked hmarked)⟩
  may := h.nextMay.trans marked_subset_next
  nextMay := sdiff_subset.trans seenFrom_taken_subset
  marked := by
    intro n hn
    unfold SwiftWave.next
    rw [image_union, mem_union, image_image]
    rcases mem_union.1 hn with hn | hn
    · exact .inl (h.marked hn)
    · by_cases hmarked : n ∈ w.marked
      · exact .inl (h.marked hmarked)
      · refine .inr (mem_image.2 ⟨n, mem_sdiff.2 ⟨?_, hmarked⟩, rfl⟩)
        exact biUnion_subset_biUnion_of_subset_left _
          (filter_subset_filter _ h.sure) hn
  accepted := by
    unfold SwiftWave.next
    rw [image_union, image_image]
    refine union_subset (h.accepted.trans marked_subset_next) fun x hx => ?_
    obtain ⟨y, hy, rfl⟩ := mem_image.1 hx
    exact marked_subset_next (h.may (h.sure (mem_filter.1 hy).1))

theorem waveInv (view : SwiftView) (swift : Swift) (k : ℕ) : WaveInv (wave view swift k) := by
  induction k with
  | zero =>
    refine ⟨subset_rfl, subset_rfl, ?_, ?_, ?_, ?_⟩
    · simp [wave]
    · simp [wave]
    · simp [wave, image_insert]
    · simp [wave]
  | succ k ih => exact ih.next

theorem monotone_marked (view : SwiftView) (swift : Swift) :
    Monotone fun k => (wave view swift k).marked :=
  monotone_nat_of_le_succ fun _ => marked_subset_next

/-- The waves go down a tier with every second one. -/
theorem wave_tier (view : SwiftView) (swift : Swift) (k : ℕ) :
    (wave view swift k).tier = Int16.ofNat (k / 2) ∧
      (wave view swift k).nextTier = Int16.ofNat ((k + 1) / 2) := by
  induction k with
  | zero => exact ⟨rfl, rfl⟩
  | succ k ih =>
    refine ⟨ih.2, ?_⟩
    show (wave view swift k).tier + 1 = _
    rw [ih.1, show (k + 1 + 1) / 2 = k / 2 + 1 by omega, Int16.ofNat_add]
    rfl

/-- **The marks are known**: no run marks what another does not, or with another tier. -/
structure Known (w : SwiftWave) : Prop where
  marks : w.marks.image Prod.fst ⊆ w.marked
  tier : ∀ n t t', (n, t) ∈ w.marks → (n, t') ∈ w.marks → t = t'

theorem Known.levelMay_subset (h : Known w) : w.levelMay ⊆ w.levelSure := by
  intro n hn
  obtain ⟨⟨m, t⟩, hp, rfl⟩ := mem_image.1 hn
  obtain ⟨hmark, htier⟩ := mem_filter.1 hp
  dsimp only at htier
  subst htier
  refine mem_filter.2 ⟨h.marks (mem_image.2 ⟨_, hmark, rfl⟩), ?_⟩
  rintro ⟨_, u⟩ hu rfl
  exact h.tier _ _ _ hu hmark

/-- Where the marks are known, every mark of the next wave has one tier. -/
theorem Known.next_tier (h : Known w) (hn : (n, t) ∈ (w.next view).marks)
    (hn' : (n, t') ∈ (w.next view).marks) : t = t' := by
  have hcases : ∀ u, (n, u) ∈ (w.next view).marks →
      (n, u) ∈ w.marks ∨ (n ∉ w.marked ∧ u = w.tier + 1) := by
    intro u hu
    refine (mem_union.1 hu).imp_right fun hu => ?_
    obtain ⟨m, hm, he⟩ := mem_image.1 hu
    obtain ⟨rfl, rfl⟩ := mk.inj he
    exact ⟨(mem_sdiff.1 hm).2, rfl⟩
  have hmarked : ∀ u, (n, u) ∈ w.marks → n ∈ w.marked := fun u hu =>
    h.marks (mem_image.2 ⟨_, hu, rfl⟩)
  rcases hcases t hn with hold | ⟨hnew, rfl⟩
  · rcases hcases t' hn' with hold' | ⟨hnew, -⟩
    · exact h.tier n t t' hold hold'
    · exact absurd (hmarked t hold) hnew
  · rcases hcases t' hn' with hold' | ⟨-, rfl⟩
    · exact absurd (hmarked t' hold') hnew
    · rfl

/-- A wave that every run reaches whole leaves the marks known. -/
theorem Known.next (h : Known w) (hmay : w.may ⊆ w.sure) : Known (w.next view) where
  marks := by
    unfold SwiftWave.next
    rw [image_union, image_image]
    refine union_subset (h.marks.trans marked_subset_next) fun n hn => ?_
    obtain ⟨m, hm, rfl⟩ := mem_image.1 hn
    refine mem_union_right _ ?_
    exact biUnion_subset_biUnion_of_subset_left _ (filter_subset_filter _ hmay)
      (mem_sdiff.1 hm).1
  tier _ _ _ hn hn' := h.next_tier hn hn'

/-! ### The first waves -/

theorem mayRefuse_of_tier_zero (hmay : w.may ⊆ w.sure) (htier : w.tier = 0) :
    w.mayRefuse view = ∅ := by
  refine filter_eq_empty_iff.2 fun x hx ⟨hexam, hnot⟩ => hnot ?_
  exact mem_filter.2 ⟨hmay hx, hexam, .inl htier⟩

theorem nextMay_subset_nextSure (h : Known w) (hrefuse : w.mayRefuse view = ∅) :
    (w.next view).nextMay ⊆ (w.next view).nextSure := by
  intro n hn
  obtain ⟨hseen, hmarked⟩ := mem_sdiff.1 hn
  have hmarks : n ∉ w.marks.image fst := fun hmarks => hmarked (h.marks hmarks)
  refine mem_sdiff.2 ⟨mem_sdiff.2 ⟨hseen, hmarks⟩, ?_⟩
  rw [hrefuse]
  exact notMem_empty n

/-- Every run reaches the first four waves whole. -/
theorem may_subset_sure (view : SwiftView) (swift : Swift) (hk : k < 4) :
    (wave view swift k).may ⊆ (wave view swift k).sure ∧ Known (wave view swift k) := by
  have h0 : Known (wave view swift 0) := by
    refine ⟨by simp [wave, image_insert], fun n t t' hn hn' => ?_⟩
    have htier : ∀ u, (n, u) ∈ (wave view swift 0).marks → u = 0 := by
      intro u hu
      rcases mem_insert.1 hu with he | he
      · exact (mk.inj he).2
      · exact (mk.inj (mem_singleton.1 he)).2
    rw [htier t hn, htier t' hn']
  have h1 : Known (wave view swift 1) := h0.next subset_rfl
  have hmay2 : (wave view swift 2).may ⊆ (wave view swift 2).sure :=
    nextMay_subset_nextSure h0 (mayRefuse_of_tier_zero subset_rfl rfl)
  have h2 : Known (wave view swift 2) := h1.next subset_rfl
  have hmay3 : (wave view swift 3).may ⊆ (wave view swift 3).sure :=
    nextMay_subset_nextSure h1 (mayRefuse_of_tier_zero subset_rfl rfl)
  obtain rfl | rfl | rfl | rfl : k = 0 ∨ k = 1 ∨ k = 2 ∨ k = 3 := by omega
  · exact ⟨subset_rfl, h0⟩
  · exact ⟨subset_rfl, h1⟩
  · exact ⟨hmay2, h2⟩
  · exact ⟨hmay3, h2.next hmay2⟩

theorem known (view : SwiftView) (swift : Swift) (hk : k < 5) : Known (wave view swift k) := by
  by_cases hk' : k < 4
  · exact (may_subset_sure view swift hk').2
  · obtain rfl : k = 4 := by omega
    obtain ⟨hmay, hknown⟩ := may_subset_sure view swift (show 3 < 4 by decide)
    exact hknown.next hmay

/-- Up to the sixth wave, what may be marked with its tier is sure to be. -/
theorem levelMay_subset_levelSure (view : SwiftView) (swift : Swift) (hk : k < 6) :
    (wave view swift k).levelMay ⊆ (wave view swift k).levelSure := by
  by_cases hk' : k < 5
  · exact (known view swift hk').levelMay_subset
  · obtain rfl : k = 5 := by omega
    have hknown := known view swift (show 4 < 5 by decide)
    intro n hn
    obtain ⟨⟨m, t⟩, hp, rfl⟩ := mem_image.1 hn
    obtain ⟨hmark, htier⟩ := mem_filter.1 hp
    dsimp only at htier
    subst htier
    refine mem_filter.2 ⟨?_, ?_⟩
    · -- the fifth wave marks with the tier below
      rcases mem_union.1 hmark with hold | hnew
      · exact marked_subset_next (hknown.marks (mem_image.2 ⟨_, hold, rfl⟩))
      · obtain ⟨_, -, he⟩ := mem_image.1 hnew
        obtain ⟨-, he⟩ := mk.inj he
        rw [(wave_tier view swift 4).1, (wave_tier view swift 5).1] at he
        exact absurd he (by decide)
    · rintro ⟨_, u⟩ hu rfl
      exact hknown.next_tier hu hmark

/-! ### The later waves -/

theorem endStation_of_examines (hk : 6 ≤ k) (hroom : k / 2 < 2 ^ 15)
    (hexam : view.examines (wave view swift k).tier x = true) : view.endStation x = true := by
  unfold SwiftView.examines at hexam
  rw [Bool.or_eq_true, Bool.and_eq_true, decide_eq_true_iff] at hexam
  refine hexam.resolve_right fun ⟨hle, _⟩ => ?_
  rw [(wave_tier view swift k).1, Int16.le_iff_toInt_le, Int16.toInt_ofNat_of_lt hroom] at hle
  have htwo : (2 : Int16).toInt = 2 := rfl
  omega

theorem takes_of_late {level : Finset ℤ} (hk : 6 ≤ k) (hroom : k / 2 < 2 ^ 15)
    (hexam : view.examines (wave view swift k).tier x = true) :
    (wave view swift k).Takes view level x :=
  ⟨hexam, .inr (.inl (endStation_of_examines hk hroom hexam))⟩

theorem sure_of_late (hk : 6 ≤ k) (hroom : k / 2 < 2 ^ 15)
    (hset : (wave view swift k).Settled view) (hx : x ∈ (wave view swift k).may)
    (hexam : view.examines (wave view swift k).tier x = true) :
    x ∈ (wave view swift k).taken view :=
  have htakes := takes_of_late hk hroom hexam
  mem_filter.2 ⟨(hset x hx htakes).1, htakes⟩

theorem lt_six_of_mayRefuse (hroom : k / 2 < 2 ^ 15) (hset : (wave view swift k).Settled view)
    (hx : x ∈ (wave view swift k).mayRefuse view) : k < 6 := by
  by_contra hk
  obtain ⟨hmay, hexam, hnot⟩ := mem_filter.1 hx
  exact hnot (sure_of_late (Nat.not_lt.1 hk) hroom hset hmay hexam)

/-- What is in doubt is seen by a device that may be refused. -/
theorem exists_mayRefuse_of_doubt (hroom : k / 2 < 2 ^ 15)
    (hset : ∀ j < k, (wave view swift j).Settled view)
    (hmarks : n ∈ (wave view swift k).marks.image fst)
    (hnot : n ∉ (wave view swift k).marked) :
    ∃ i, i < k ∧ 2 ≤ i ∧ n ∈ view.seenFrom ((wave view swift i).mayRefuse view) := by
  induction k with
  | zero => exact absurd ((known view swift (by decide)).marks hmarks) hnot
  | succ k ih =>
    have hnot' : n ∉ (wave view swift k).marked := fun h => hnot (marked_subset_next h)
    have hk : ¬k + 1 < 5 := fun h => hnot ((known view swift h).marks hmarks)
    obtain ⟨⟨m, t⟩, hp, rfl⟩ := mem_image.1 hmarks
    rcases mem_union.1 hp with hold | hnew
    · obtain ⟨i, hi, hseen⟩ := ih (by omega) (fun j hj => hset j (by omega))
        (mem_image.2 ⟨_, hold, rfl⟩) hnot'
      exact ⟨i, by omega, hseen⟩
    · obtain ⟨m', hm', he⟩ := mem_image.1 hnew
      obtain ⟨rfl, -⟩ := mk.inj he
      obtain ⟨hseen, -⟩ := mem_sdiff.1 hm'
      obtain ⟨y, hy, hny⟩ := SwiftView.mem_seenFrom.1 hseen
      obtain ⟨hmay, hexam⟩ := mem_filter.1 hy
      refine ⟨k, k.lt_succ_self, by omega, SwiftView.mem_seenFrom.2 ⟨y, ?_, hny⟩⟩
      refine mem_filter.2 ⟨hmay, hexam, fun htaken => hnot ?_⟩
      exact seenFrom_taken_subset (SwiftView.mem_seenFrom.2 ⟨y, htaken, hny⟩)

/-- **A contested device**: two waves before it, a device that is taken sees it first, and at
that time or before it a device sees it that may be refused. -/
structure Contested (view : SwiftView) (swift : Swift) (j i : ℕ) (x : ℤ) : Prop where
  seen : x ∈ view.seenFrom ((wave view swift j).taken view)
  unmarked : x ∉ (wave view swift j).marked
  takes : (wave view swift (j + 2)).Takes view (wave view swift (j + 2)).levelMay x
  refused : x ∈ view.seenFrom ((wave view swift i).mayRefuse view)
  lower : 2 ≤ i
  early : i < 6
  before : i ≤ j

/-- **The first wave that is not settled has a contested device.** -/
theorem exists_contested (hroom : k / 2 < 2 ^ 15)
    (hset : ∀ j < k, (wave view swift j).Settled view)
    (hnot : ¬(wave view swift k).Settled view) :
    ∃ j i x, k = j + 2 ∧ Contested view swift j i x := by
  unfold SwiftWave.Settled at hnot
  push Not at hnot
  obtain ⟨x, hmay, htakes, hfail⟩ := hnot
  have htakesMay : (wave view swift k).Takes view (wave view swift k).levelMay x := by
    by_cases hk : k < 6
    · exact ⟨htakes.1, htakes.2.mono fun n _ hn => levelMay_subset_levelSure view swift hk hn⟩
    · exact takes_of_late (Nat.not_lt.1 hk) hroom htakes.1
  have hsure : x ∉ (wave view swift k).sure := fun h => hfail h htakesMay
  have hk : 4 ≤ k := by
    by_contra hk
    exact hsure ((may_subset_sure view swift (by omega)).1 hmay)
  obtain ⟨j, rfl⟩ := Nat.exists_eq_add_of_le' (show 2 ≤ k by omega)
  obtain ⟨hseen, hunmarked⟩ := mem_sdiff.1 hmay
  obtain ⟨i, hi, hle, hrefuse⟩ : ∃ i, i ≤ j ∧ 2 ≤ i ∧
      x ∈ view.seenFrom ((wave view swift i).mayRefuse view) := by
    by_cases hmarks : x ∈ (wave view swift j).marks.image fst
    · obtain ⟨i, hi, h⟩ := exists_mayRefuse_of_doubt (by omega)
        (fun i hi => hset i (by omega)) hmarks hunmarked
      exact ⟨i, hi.le, h⟩
    · refine ⟨j, le_rfl, by omega, by_contra fun hrefuse => hsure ?_⟩
      exact mem_sdiff.2 ⟨mem_sdiff.2 ⟨hseen, hmarks⟩, hrefuse⟩
  obtain ⟨y, hy, -⟩ := SwiftView.mem_seenFrom.1 hrefuse
  exact ⟨j, i, x, rfl, hseen, hunmarked, htakesMay, hrefuse, hle,
    lt_six_of_mayRefuse (by omega) (hset i (by omega)) hy, hi⟩

/-- **A wave that may reach a device** has as many marked devices before it as tiers. -/
theorem tier_lt_card (view : SwiftView) (swift : Swift)
    (h : (wave view swift k).may.Nonempty) : k / 2 < (wave view swift k).marked.card := by
  induction k using Nat.strong_induction_on with
  | _ k ih =>
    by_cases hk : k < 2
    · have hpos : 0 < (wave view swift k).marked.card :=
        card_pos.2 (h.mono (waveInv view swift k).may)
      omega
    · obtain ⟨j, rfl⟩ := Nat.exists_eq_add_of_le' (show 2 ≤ k by omega)
      obtain ⟨x, hx⟩ := h
      obtain ⟨hseen, hunmarked⟩ := mem_sdiff.1 hx
      obtain ⟨y, hy, -⟩ := SwiftView.mem_seenFrom.1 hseen
      have hlt := ih j (by omega)
        ⟨y, (waveInv view swift j).sure (mem_filter.1 hy).1⟩
      have hgrows : (wave view swift j).marked.card < (wave view swift (j + 2)).marked.card := by
        refine card_lt_card (ssubset_iff_of_subset ?_ |>.2 ⟨x, ?_, hunmarked⟩)
        · exact monotone_marked view swift (by omega)
        · exact (waveInv view swift (j + 2)).may hx
      omega

end Core
end Sebastian
