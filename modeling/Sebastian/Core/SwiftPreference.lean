/-
# The two orders of a contested device

`ComputeRedundantSwift` (`core/src/act_core_redundant_swift.cpp`) takes a contested
device in one order and passes it over in another.  An order prefers some devices to
others (`preferring`): with the right preference a device comes first in its wave
(`exists_head`), the one that enqueues the contested device or the one that only marks
it.

Hence the tiers of a ring depend on the order exactly where a wave of its walk is not
settled (`swiftOrderFree_iff`); this holds as long as a tier is less than `2 ^ 15`,
from where on the tiers of the source are negative.
-/

import Sebastian.Core.SwiftContest
import Sebastian.Core.SwiftOrder
import Sebastian.Lib.Containers

namespace Sebastian
namespace Core

open Finset

variable {w : SwiftWave} {view : SwiftView}

variable {monitor : Monitor} {project : Project} {swift : Swift} {walk : ℤ → QSet ℤ → List ℤ}
  {s s' : SwiftSearch} {rest later new : List ℤ} {j k : ℕ} {n x c p : ℤ} {t : Int16}

/-! ### A run from wave to wave -/

/-- A run comes to the beginning of a wave. -/
structure Begins (walk : ℤ → QSet ℤ → List ℤ) (monitor : Monitor) (project : Project)
    (swift : Swift) (k : ℕ) (rest later : List ℤ) (s : SwiftSearch) : Prop where
  visits : Loop.Visits (swiftRoundIn walk monitor project) (swiftStart swift) s
  sound : s.Sound
  within : Within (swiftView monitor project) (wave (swiftView monitor project) swift k) ∅ rest
    later [] s

/-- **The rule for a settled wave**: what every round of the wave keeps. -/
theorem Within.finish {passed : Finset ℤ} {J : Finset ℤ → List ℤ → List ℤ → SwiftSearch → Prop}
    (hwalk : ∀ id ids, (walk id ids).Perm ids) (hw : w.Settled (swiftView monitor project))
    (hs : s.Sound) (h : Within (swiftView monitor project) w passed rest later new s)
    (hJ : J passed rest new s)
    (hstep : ∀ passed x rest new s fresh s', s.Sound → Within (swiftView monitor project) w passed
      (x :: rest) later new s → J passed (x :: rest) new s → Stepped walk
      (swiftView monitor project) w x s fresh s' → J (insert x passed) rest (new ++ fresh) s') :
    ∃ passed' new' s', Loop.Visits (swiftRoundIn walk monitor project) s s' ∧ s'.Sound ∧
      Within (swiftView monitor project) w passed' [] later new' s' ∧ J passed' [] new' s' := by
  induction rest generalizing passed new s with
  | nil => exact ⟨passed, new, s, .refl s, hs, h, hJ⟩
  | cons x rest ih =>
    obtain ⟨u, fresh, hnext, hu, hwithin, hstepped⟩ := h.step hwalk hs hw
    obtain ⟨passed', new', s', hvisits, hs', h', hJ'⟩ :=
      ih hu hwithin (hstep _ _ _ _ _ _ _ hs h hJ hstepped)
    exact ⟨passed', new', s', hvisits.head hnext, hs', h', hJ'⟩

theorem begins_zero :
    Begins walk monitor project swift 0 [swift.rootDevice] [swift.backupRootDevice]
      (swiftStart swift) :=
  ⟨.refl _, sound_swiftStart swift, within_swiftStart _ swift⟩

variable (hwalk : ∀ id ids, (walk id ids).Perm ids)
  (h : Begins walk monitor project swift k rest later s)
  (hsettled : (wave (swiftView monitor project) swift k).Settled (swiftView monitor project))
include hwalk h hsettled

theorem Begins.finish {J : Finset ℤ → List ℤ → List ℤ → SwiftSearch → Prop} (hJ : J ∅ rest [] s)
    (hstep : ∀ passed x rest new s fresh s', s.Sound →
      Within (swiftView monitor project) (wave (swiftView monitor project) swift k) passed
        (x :: rest) later new s →
      J passed (x :: rest) new s →
      Stepped walk (swiftView monitor project) (wave (swiftView monitor project) swift k) x s fresh
        s' →
      J (insert x passed) rest (new ++ fresh) s') :
    ∃ passed new s', Begins walk monitor project swift (k + 1) later new s' ∧
      Within (swiftView monitor project) (wave (swiftView monitor project) swift k) passed []
        later new s' ∧ J passed [] new s' := by
  obtain ⟨passed, new, s', hvisits, hs', hwithin, hJ'⟩ :=
    h.within.finish hwalk hsettled h.sound hJ hstep
  exact ⟨passed, new, s', ⟨h.visits.trans hvisits, hs', hwithin.next⟩, hwithin, hJ'⟩

theorem Begins.next : ∃ new s', Begins walk monitor project swift (k + 1) later new s' := by
  obtain ⟨_, new, s', h', -, -⟩ := h.finish (J := fun _ _ _ _ => True) hwalk hsettled trivial
    fun _ _ _ _ _ _ _ _ _ _ _ => trivial
  exact ⟨new, s', h'⟩

omit hwalk h hsettled

/-- **A run knows its marks**, when they are marked in every run. -/
def Tight (monitor : Monitor) (project : Project) (swift : Swift) (k : ℕ) (s : SwiftSearch) :
    Prop :=
  ∀ n : ℤ, ∀ t, s.tierMap[n]? = some t → n ∈ (wave (swiftView monitor project) swift k).marked

theorem Begins.tight (h : Begins walk monitor project swift k rest later s) (hk : k < 5) :
    Tight monitor project swift k s := by
  intro n t ht
  rcases h.within.marks n t ht with hmark | ⟨-, -, y, hy, -⟩
  · exact (known _ swift hk).marks (mem_image.2 ⟨_, hmark, rfl⟩)
  · exact absurd hy (notMem_empty y)

theorem Begins.mem_marked (h : Begins walk monitor project swift k rest later s)
    (hx : x ∈ rest ++ later) : x ∈ (wave (swiftView monitor project) swift k).marked := by
  have hinv := waveInv (swiftView monitor project) swift k
  rcases List.mem_append.1 hx with hx | hx
  · exact hinv.may (h.within.may x (.inr hx))
  · exact hinv.nextMay (h.within.nextMay x hx)

/-- **Doubtless waves leave a run tight**: if what it examines is sure to be examined, it marks
only what is sure to be marked. -/
theorem Begins.next_tight (hwalk : ∀ id ids, (walk id ids).Perm ids)
    (h : Begins walk monitor project swift k rest later s)
    (htight : Tight monitor project swift k s)
    (hsettled : (wave (swiftView monitor project) swift k).Settled (swiftView monitor project))
    (hsure : ∀ y ∈ rest, (swiftView monitor project).examines
      (wave (swiftView monitor project) swift k).tier y = true →
        y ∈ (wave (swiftView monitor project) swift k).sure) :
    ∃ new s', Begins walk monitor project swift (k + 1) later new s' ∧
      Tight monitor project swift (k + 1) s' := by
  obtain ⟨_, new, s', h', -, -, htight'⟩ := h.finish
    (J := fun _ rest _ s => (∀ y ∈ rest, (swiftView monitor project).examines
      (wave (swiftView monitor project) swift k).tier y = true →
        y ∈ (wave (swiftView monitor project) swift k).sure) ∧
      Tight monitor project swift (k + 1) s) hwalk hsettled
    ⟨hsure, fun n t ht => marked_subset_next (htight n t ht)⟩ (by
      rintro passed x rest new s fresh s' - - ⟨hsure, htight⟩ hstep
      refine ⟨fun y hy => hsure y (List.mem_cons_of_mem _ hy), fun n t ht => ?_⟩
      rcases hstep.marked n t ht with hold | ⟨hexam, hn⟩
      · exact htight n t hold
      · refine mem_union_right _ (SwiftView.mem_seenFrom.2 ⟨x, ?_, hn⟩)
        exact mem_filter.2 ⟨hsure x List.mem_cons_self hexam, hexam⟩)
  exact ⟨new, s', h', htight'⟩

/-! ### Preferences -/

/-- The order that puts the devices of low rank first. -/
def preferring (rank : ℤ → ℤ) : ℤ → QSet ℤ → List ℤ := fun _ ids => Library.reference.sort rank ids

theorem preferring_perm (rank : ℤ → ℤ) (id : ℤ) (ids : QSet ℤ) :
    (preferring rank id ids).Perm ids := Library.reference.sort_perm rank ids

theorem preferring_sorted (rank : ℤ → ℤ) (id : ℤ) (ids : QSet ℤ) :
    (preferring rank id ids).Pairwise fun x y => rank x ≤ rank y :=
  Library.reference.sort_sorted rank ids

variable {rank : ℤ → ℤ}

theorem exists_eq_cons_of_sorted {l : List ℤ} (hl : l.Pairwise fun x y => rank x ≤ rank y)
    (hc : c ∈ l) (hleast : ∀ n ∈ l, n ≠ c → rank c < rank n) : ∃ l', l = c :: l' := by
  cases l with
  | nil => cases hc
  | cons y l =>
    by_cases hy : y = c
    · exact ⟨l, by rw [hy]⟩
    · have hle := List.rel_of_pairwise_cons hl ((List.mem_cons.1 hc).resolve_left (Ne.symm hy))
      exact absurd (hleast y List.mem_cons_self hy) (not_lt.2 hle)

/-- A wave of one device leaves its neighbors sorted. -/
theorem Begins.next_sorted {r : ℤ}
    (h : Begins (preferring rank) monitor project swift k [r] later s)
    (hsettled : (wave (swiftView monitor project) swift k).Settled (swiftView monitor project)) :
    ∃ new s', Begins (preferring rank) monitor project swift (k + 1) later new s' ∧
      new.Pairwise fun x y => rank x ≤ rank y := by
  obtain ⟨u, fresh, hnext, hu, hwithin, hstep⟩ :=
    h.within.step (preferring_perm rank) h.sound hsettled
  obtain ⟨ids, rfl⟩ := hstep.ordered
  exact ⟨_, u, ⟨h.visits.step hnext, hu, hwithin.next⟩, preferring_sorted rank r ids⟩

theorem exists_begins_two (rank : ℤ → ℤ) (hsettled : ∀ j < 2,
      (wave (swiftView monitor project) swift j).Settled (swiftView monitor project)) :
    ∃ rest later s, Begins (preferring rank) monitor project swift 2 rest later s ∧
      (rest.Pairwise fun x y => rank x ≤ rank y) ∧ later.Pairwise fun x y => rank x ≤ rank y := by
  have hstart : Begins (preferring rank) monitor project swift 0 [swift.rootDevice]
    [swift.backupRootDevice] (swiftStart swift) := begins_zero
  obtain ⟨new, s, h, hnew⟩ := hstart.next_sorted (hsettled 0 (by decide))
  obtain ⟨new', s', h', hnew'⟩ := h.next_sorted (hsettled 1 (by decide))
  exact ⟨new, new', s', h', hnew, hnew'⟩

/-- **Refused devices first**: a wave whose refused devices come before the taken ones enqueues
only what every run enqueues. -/
theorem Begins.next_refused_first (hk : k < 4)
    (h : Begins (preferring rank) monitor project swift k rest later s)
    (hsettled : (wave (swiftView monitor project) swift k).Settled (swiftView monitor project))
    (hsort : rest.Pairwise fun x y => rank x ≤ rank y)
    (hfirst : ∀ y ∈ (wave (swiftView monitor project) swift k).mayRefuse
        (swiftView monitor project),
      ∀ z ∈ (wave (swiftView monitor project) swift k).taken (swiftView monitor project),
        rank y < rank z) :
    ∃ new s', Begins (preferring rank) monitor project swift (k + 1) later new s' ∧
      ∀ n ∈ new, n ∈ (wave (swiftView monitor project) swift (k + 2)).sure := by
  obtain ⟨hmay, hknown⟩ := may_subset_sure (swiftView monitor project) swift hk
  obtain ⟨_, new, s', h', hwithin, -, hsafe⟩ := h.finish
    (J := fun _ rest new _ => (rest.Pairwise fun x y => rank x ≤ rank y) ∧
      ∀ n ∈ new, n ∉ (swiftView monitor project).seenFrom
        ((wave (swiftView monitor project) swift k).mayRefuse (swiftView monitor project)))
    (preferring_perm rank) hsettled ⟨hsort, by simp⟩ (by
      rintro passed x rest new s fresh s' - hwithin ⟨hsort, hsafe⟩ hstep
      refine ⟨hsort.of_cons, fun n hn => ?_⟩
      rcases List.mem_append.1 hn with hn | hn
      · exact hsafe n hn
      · obtain ⟨htaken, hnone, -⟩ := (hstep.mem_fresh n).1 hn
        intro hseen
        obtain ⟨y, hy, hny⟩ := SwiftView.mem_seenFrom.1 hseen
        obtain ⟨hymay, hexam, hnot⟩ := mem_filter.1 hy
        rcases hwithin.sure y (hmay hymay) with hpast | hrest
        · obtain ⟨t, ht⟩ := hwithin.seen y hpast hexam n hny
          rw [hnone] at ht
          cases ht
        · rcases List.mem_cons.1 hrest with rfl | hrest
          · exact hnot htaken
          · have hle := List.rel_of_pairwise_cons hsort hrest
            exact absurd (hfirst y hy x htaken) (not_lt.2 hle))
  refine ⟨new, s', h', fun n hn => ?_⟩
  obtain ⟨hunmarked, x, -, htaken, hnx⟩ := hwithin.newMay n hn
  refine mem_sdiff.2 ⟨mem_sdiff.2 ⟨?_, fun hmarks => ?_⟩, hsafe n hn⟩
  · exact SwiftView.mem_seenFrom.2 ⟨x, htaken, hnx⟩
  · exact hunmarked (hknown.marks hmarks)

/-- **A preferred child of the first device** comes first two waves later. -/
theorem Begins.next_head (h : Begins (preferring rank) monitor project swift k (p :: rest) later s)
    (htight : Tight monitor project swift k s)
    (hsettled : (wave (swiftView monitor project) swift k).Settled (swiftView monitor project))
    (hp : p ∈ (wave (swiftView monitor project) swift k).taken (swiftView monitor project))
    (hc : c ∈ (swiftView monitor project).neighbors p)
    (hunmarked : c ∉ (wave (swiftView monitor project) swift k).marked)
    (hleast : ∀ n, n ≠ c → n ∉ (wave (swiftView monitor project) swift k).marked →
      rank c < rank n) :
    ∃ new s', Begins (preferring rank) monitor project swift (k + 1) later (c :: new) s' := by
  obtain ⟨u, fresh, hnext, hu, hwithin, hstep⟩ :=
    h.within.step (preferring_perm rank) h.sound hsettled
  have hcfresh : c ∈ fresh := by
    refine (hstep.mem_fresh c).2 ⟨hp, ?_, hc⟩
    cases hold : s.tierMap[c]? with
    | none => rfl
    | some t => exact absurd (htight c t hold) hunmarked
  obtain ⟨l, rfl⟩ : ∃ l, fresh = c :: l := by
    obtain ⟨ids, he⟩ := hstep.ordered
    refine exists_eq_cons_of_sorted (he ▸ preferring_sorted rank p ids) hcfresh fun n hn hne => ?_
    obtain ⟨-, hnone, -⟩ := (hstep.mem_fresh n).1 hn
    refine hleast n hne fun hmarked => ?_
    obtain ⟨t, ht⟩ := h.within.marked n hmarked
    rw [hnone] at ht
    cases ht
  obtain ⟨_, new, s', hvisits, hs', hwithin', l', rfl⟩ := hwithin.finish
    (J := fun _ _ new _ => ∃ l, new = c :: l) (preferring_perm rank) hsettled hu ⟨l, rfl⟩
    fun _ _ _ _ _ fresh _ _ _ ⟨l, he⟩ _ => ⟨l ++ fresh, by rw [he, List.cons_append]⟩
  exact ⟨l', s', (h.visits.step hnext).trans hvisits, hs', hwithin'.next⟩

theorem exists_parent (hc : c ∈ (wave view swift (k + 2)).may) : c ∉ (wave view swift k).marked ∧
      ∃ p ∈ (wave view swift k).taken view, c ∈ view.neighbors p := by
  obtain ⟨hseen, hunmarked⟩ := mem_sdiff.1 hc
  exact ⟨hunmarked, SwiftView.mem_seenFrom.1 hseen⟩

theorem mem_may_of_taken (hw : WaveInv w) (hp : p ∈ w.taken view) : p ∈ w.may := hw.sure
    (mem_filter.1 hp).1

theorem ne_of_may_two {y z : ℤ} (hy : y ∈ (wave view swift 2).may)
    (hz : z ∈ (wave view swift 3).may) : y ≠ z := by
  rintro rfl
  exact (exists_parent hz).1 ((waveInv view swift 1).nextMay hy)

/-- **Any device comes first in its wave**, in some order, and with its marks known. -/
theorem exists_head (hlow : 2 ≤ j) (hhigh : j < 6)
    (hsettled : ∀ i < j, (wave (swiftView monitor project) swift i).Settled
      (swiftView monitor project)) (hc : c ∈ (wave (swiftView monitor project) swift j).may) :
    ∃ rank rest later s, Begins (preferring rank) monitor project swift j (c :: rest) later s ∧
      Tight monitor project swift j s := by
  have hinv := waveInv (swiftView monitor project) swift
  have hsure : ∀ i < 4, ∀ y ∈ (wave (swiftView monitor project) swift i).may,
      y ∈ (wave (swiftView monitor project) swift i).sure :=
    fun i hi => (may_subset_sure (swiftView monitor project) swift hi).1
  -- the wave holds what it is sure to hold
  have hmem : ∀ {rank : ℤ → ℤ} {i rest later s y},
      Begins (preferring rank) monitor project swift i rest later s → i < 4 →
      y ∈ (wave (swiftView monitor project) swift i).may → y ∈ rest := fun h hi hy =>
    (h.within.sure _ (hsure _ hi _ hy)).resolve_left (notMem_empty _)
  match j, hlow, hhigh with
  | 2, _, _ =>
    obtain ⟨rest, later, s, h, hrest, -⟩ := exists_begins_two (fun n => if n = c then 0 else 1)
      fun i hi => hsettled i (by omega)
    obtain ⟨l, rfl⟩ := exists_eq_cons_of_sorted hrest (hmem h (by decide) hc)
      fun n _ hn => by simp [hn]
    exact ⟨_, l, later, s, h, h.tight (by decide)⟩
  | 3, _, _ =>
    obtain ⟨rest, later, s, h, -, hlater⟩ := exists_begins_two (fun n => if n = c then 0 else 1)
      fun i hi => hsettled i (by omega)
    obtain ⟨new, s', h'⟩ := h.next (preferring_perm _) (hsettled 2 (by decide))
    obtain ⟨l, rfl⟩ := exists_eq_cons_of_sorted hlater (hmem h' (by decide) hc)
      fun n _ hn => by simp [hn]
    exact ⟨_, l, new, s', h', h'.tight (by decide)⟩
  | 4, _, _ =>
    obtain ⟨hunmarked, p, hp, hcp⟩ := exists_parent hc
    have hpmay := mem_may_of_taken (hinv 2) hp
    have hpc : p ≠ c := fun he => hunmarked (he ▸ (hinv 2).may hpmay)
    obtain ⟨rest, later, s, h, hrest, -⟩ := exists_begins_two
      (fun n => if n = p then 0 else if n = c then 1 else 2) fun i hi => hsettled i (by omega)
    obtain ⟨l, rfl⟩ := exists_eq_cons_of_sorted hrest (hmem h (by decide) hpmay)
      fun n _ hn => by
        simp only [hn, if_true, if_false]
        split_ifs <;> decide
    obtain ⟨new, s', h'⟩ := h.next_head (h.tight (by decide)) (hsettled 2 (by decide)) hp hcp
      hunmarked fun n hn hnot => by
        have hnp : n ≠ p := fun he => hnot (he ▸ (hinv 2).may hpmay)
        simp [hn, hnp, hpc.symm]
    obtain ⟨new', s'', h''⟩ := h'.next (preferring_perm _) (hsettled 3 (by decide))
    exact ⟨_, new, new', s'', h'', h''.tight (by decide)⟩
  | 5, _, _ =>
    obtain ⟨hunmarked, p, hp, hcp⟩ := exists_parent hc
    have hpmay := mem_may_of_taken (hinv 3) hp
    have hpc : p ≠ c := fun he => hunmarked (he ▸ (hinv 3).may hpmay)
    obtain ⟨rest, later, s, h, hrest, hlater⟩ := exists_begins_two
      (fun n => if n = p then 0 else if n = c then 1 else
        if n ∈ (wave (swiftView monitor project) swift 2).mayRefuse (swiftView monitor project)
        then 2 else 3) fun i hi => hsettled i (by omega)
    -- of the fourth wave, the run has what every run has
    obtain ⟨new, s', h', hnew⟩ := h.next_refused_first (by decide) (hsettled 2 (by decide)) hrest
      fun y hy z hz => by
        have hzmay := mem_may_of_taken (hinv 2) hz
        have hzp : z ≠ p := ne_of_may_two hzmay hpmay
        have hzc : z ≠ c := fun he => hunmarked
          (marked_subset_next ((hinv 2).may (he ▸ hzmay)))
        have hznot : z ∉ (wave (swiftView monitor project) swift 2).mayRefuse
            (swiftView monitor project) := fun hz' => (mem_filter.1 hz').2.2 hz
        simp only [hy, hzp, hzc, hznot, if_true, if_false]
        split_ifs <;> decide
    obtain ⟨l, rfl⟩ := exists_eq_cons_of_sorted hlater (hmem h' (by decide) hpmay)
      fun n _ hn => by
        simp only [hn, if_true, if_false]
        split_ifs <;> decide
    obtain ⟨new', s'', h''⟩ := h'.next_head (h'.tight (by decide)) (hsettled 3 (by decide)) hp hcp
      hunmarked fun n hn hnot => by
        have hnp : n ≠ p := fun he => hnot (he ▸ (hinv 3).may hpmay)
        simp only [hn, hnp, hpc.symm, if_true, if_false]
        split_ifs <;> decide
    obtain ⟨last, s₅, h₅, htight⟩ := h''.next_tight (preferring_perm _) (h''.tight (by decide))
      (hsettled 4 (by decide)) fun y hy _ => hnew y hy
    exact ⟨_, new', last, s₅, h₅, htight⟩

/-! ### A device that is passed over -/

/-- A device that is marked, but neither queued nor accepted. -/
structure Lost (x : ℤ) (s : SwiftSearch) : Prop where
  marked : ∃ t, s.tierMap[x]? = some t
  queue : x ∉ s.queue
  accepted : ∀ t, x ∉ s.swiftMap.value t

theorem sound_lost_of_next (hwalk : ∀ id ids, (walk id ids).Perm ids) (hs : s.Sound)
    (hnext : swiftRoundIn walk monitor project s = .next s') : s'.Sound ∧ (Lost x s → Lost x s') ∧
      ∀ t, x ∈ s.swiftMap.value t → x ∈ s'.swiftMap.value t := by
  cases hq : s.queue with
  | nil =>
    unfold swiftRoundIn at hnext
    rw [hq] at hnext
    cases hnext
  | cons y q =>
    obtain ⟨tier, htier⟩ := hs.queued y (hq ▸ List.mem_cons_self)
    rcases @swiftRoundIn_cases monitor project walk s y q tier hwalk hs hq htier with
      ⟨-, hround⟩ | ⟨-, u, hround, hvis⟩
    · rw [hround] at hnext
      obtain rfl := Iter.next.inj hnext
      refine ⟨hs.skip hq, fun hlost => ⟨hlost.marked, fun hx => hlost.queue ?_, hlost.accepted⟩,
        fun _ hx => hx⟩
      exact hq ▸ List.mem_cons_of_mem _ hx
    · rw [hround] at hnext
      obtain rfl := Iter.next.inj hnext
      refine ⟨hs.visit hq htier hvis, fun hlost => ⟨?_, fun hx => ?_, fun t hx => ?_⟩,
        fun t hx => (hvis.swiftMap t x).2 (.inl hx)⟩
      · obtain ⟨t, ht⟩ := hlost.marked
        exact ⟨t, (hvis.tierMap x t).2 (.inl ht)⟩
      · obtain ⟨fresh, he, -, -, hfresh⟩ := hvis.queue
        rw [he, List.mem_append] at hx
        rcases hx with hx | hx
        · exact hlost.queue (hq ▸ List.mem_cons_of_mem _ hx)
        · obtain ⟨t, ht⟩ := hlost.marked
          rw [((hfresh x).1 hx).2.1] at ht
          cases ht
      · rcases (hvis.swiftMap t x).1 hx with hx | ⟨-, -, rfl⟩
        · exact hlost.accepted t hx
        · exact hlost.queue (hq ▸ List.mem_cons_self)

/-- **A refused device that comes first** loses what it sees. -/
theorem exists_lost (hlow : 2 ≤ j) (hhigh : j < 6)
    (hsettled : ∀ i ≤ j, (wave (swiftView monitor project) swift i).Settled
      (swiftView monitor project))
    (hunmarked : x ∉ (wave (swiftView monitor project) swift j).marked)
    (hseen : x ∈ (swiftView monitor project).seenFrom
      ((wave (swiftView monitor project) swift j).mayRefuse (swiftView monitor project))) :
    ∃ rank s, Loop.Visits (swiftRoundIn (preferring rank) monitor project) (swiftStart swift) s ∧
      s.Sound ∧ Lost x s := by
  obtain ⟨r, hr, hxr⟩ := SwiftView.mem_seenFrom.1 hseen
  obtain ⟨hmay, hexam, hnot⟩ := mem_filter.1 hr
  obtain ⟨rank, rest, later, s, h, -⟩ := exists_head hlow hhigh
    (fun i hi => hsettled i hi.le) hmay
  obtain ⟨u, fresh, hnext, hu, hwithin, hstep⟩ :=
    h.within.step (preferring_perm rank) h.sound (hsettled j le_rfl)
  have hfresh : fresh = [] :=
    List.eq_nil_iff_forall_not_mem.2 fun n hn => hnot ((hstep.mem_fresh n).1 hn).1
  have hinv := waveInv (swiftView monitor project) swift j
  refine ⟨rank, u, h.visits.step hnext, hu,
    hwithin.seen r (mem_insert_self _ _) hexam x hxr, fun hx => ?_, fun t hx => ?_⟩
  · rw [hwithin.queue, hfresh, List.append_nil, List.append_nil] at hx
    refine hunmarked (h.mem_marked ?_)
    rw [List.cons_append]
    exact List.mem_cons_of_mem _ hx
  · rcases (hwithin.accepted x t).1 hx with haccepted | ⟨-, -, htaken⟩
    · exact hunmarked (hinv.accepted (mem_image.2 ⟨_, haccepted, rfl⟩))
    · exact hunmarked (hinv.may (mem_may_of_taken hinv htaken))

/-! ### A device that is taken -/

/-- The wave as one run has it. -/
def exactWave (w : SwiftWave) (s : SwiftSearch) (rest later : List ℤ) : SwiftWave :=
  { w with
    sure := rest.toFinset
    may := rest.toFinset
    nextSure := later.toFinset
    nextMay := later.toFinset
    marked := (s.tierMap.toList.map Prod.fst).toFinset
    marks := s.tierMap.toList.toFinset }

theorem mem_marks_exactWave :
    (n, t) ∈ (exactWave w s rest later).marks ↔ s.tierMap[n]? = some t := by
  unfold exactWave
  rw [List.mem_toFinset, Std.TreeMap.mem_toList_iff_getElem?_eq_some]

theorem mem_marked_exactWave :
    n ∈ (exactWave w s rest later).marked ↔ ∃ t, s.tierMap[n]? = some t := by
  unfold exactWave
  rw [List.mem_toFinset, List.mem_map]
  constructor
  · rintro ⟨⟨m, t⟩, hp, rfl⟩
    exact ⟨t, Std.TreeMap.mem_toList_iff_getElem?_eq_some.1 hp⟩
  · rintro ⟨t, ht⟩
    exact ⟨(n, t), Std.TreeMap.mem_toList_iff_getElem?_eq_some.2 ht, rfl⟩

theorem known_exactWave : Known (exactWave w s rest later) where
  marks n hn := by
    obtain ⟨⟨m, t⟩, hp, rfl⟩ := mem_image.1 hn
    exact mem_marked_exactWave.2 ⟨t, mem_marks_exactWave.1 hp⟩
  tier n t t' hn hn' := by
    rw [mem_marks_exactWave] at hn hn'
    exact Option.some.inj (hn.symm.trans hn')

theorem settled_exactWave : (exactWave w s rest later).Settled view :=
  fun _ hx htakes => ⟨hx, htakes.1, htakes.2.mono fun _ _ hn => known_exactWave.levelMay_subset hn⟩

theorem Within.exact (h : Within view w ∅ rest later [] s) :
    Within view (exactWave w s rest later) ∅ rest later [] s where
  queue := h.queue
  tier := h.tier
  nextTier := h.nextTier
  newTier := by simp
  sure x hx := .inr (List.mem_toFinset.1 hx)
  may x hx := List.mem_toFinset.2 (hx.resolve_left (notMem_empty x))
  nextSure x hx := List.mem_toFinset.1 hx
  nextMay x hx := List.mem_toFinset.2 hx
  newSure := by simp
  newMay := by simp
  marked n hn := mem_marked_exactWave.1 hn
  seen := by simp
  marks n t ht := .inl (mem_marks_exactWave.2 ht)
  accepted x t := by
    rw [h.accepted]
    simp [exactWave]

/-- **A device that its wave takes** is accepted in every run that reaches it there. -/
theorem Begins.exists_accepted (hwalk : ∀ id ids, (walk id ids).Perm ids)
    (h : Begins walk monitor project swift k rest later s) (hx : x ∈ rest)
    (htakes : (wave (swiftView monitor project) swift k).Takes (swiftView monitor project)
      (wave (swiftView monitor project) swift k).levelMay x) :
    ∃ s' t, Loop.Visits (swiftRoundIn walk monitor project) (swiftStart swift) s' ∧ s'.Sound ∧
      x ∈ s'.swiftMap.value t := by
  have hwithin := h.within
  generalize wave (swiftView monitor project) swift k = w at hwithin htakes
  have htaken : x ∈ (exactWave w s rest later).taken (swiftView monitor project) := by
    refine mem_filter.2 ⟨List.mem_toFinset.2 hx, htakes.1, htakes.2.mono fun n _ hn => ?_⟩
    obtain ⟨hmarked, hmarks⟩ := mem_filter.1 hn
    obtain ⟨t, ht⟩ := mem_marked_exactWave.1 hmarked
    have htier : t = w.tier := hmarks (n, t) (mem_marks_exactWave.2 ht) rfl
    rcases hwithin.marks n t ht with hmark | ⟨-, -, y, hy, -⟩
    · exact mem_image.2 ⟨_, mem_filter.2 ⟨hmark, htier⟩, rfl⟩
    · exact absurd hy (notMem_empty y)
  obtain ⟨passed, new, s', hvisits, hs', hwithin', -⟩ := hwithin.exact.finish
    (J := fun _ _ _ _ => True) hwalk settled_exactWave h.sound trivial
    fun _ _ _ _ _ _ _ _ _ _ _ => trivial
  refine ⟨s', w.tier, h.visits.trans hvisits, hs', (hwithin'.accepted x w.tier).2 (.inr ?_)⟩
  exact ⟨rfl, (hwithin'.sure x (List.mem_toFinset.2 hx)).resolve_right (by simp), htaken⟩

/-- **A taken device that comes first** brings what it sees into the walk. -/
theorem exists_reached_of_head (hlow : 2 ≤ j) (hhigh : j < 6)
    (hsettled : ∀ i < j + 2, (wave (swiftView monitor project) swift i).Settled
      (swiftView monitor project))
    (hunmarked : x ∉ (wave (swiftView monitor project) swift j).marked)
    (hseen : x ∈ (swiftView monitor project).seenFrom
      ((wave (swiftView monitor project) swift j).taken (swiftView monitor project))) :
    ∃ rank rest later s, Begins (preferring rank) monitor project swift (j + 2) rest later s ∧
      x ∈ rest := by
  obtain ⟨a, ha, hxa⟩ := SwiftView.mem_seenFrom.1 hseen
  obtain ⟨rank, rest, later, s, h, htight⟩ := exists_head hlow hhigh
    (fun i hi => hsettled i (by omega)) (mem_may_of_taken (waveInv _ swift j) ha)
  obtain ⟨u, fresh, hnext, hu, hwithin, hstep⟩ :=
    h.within.step (preferring_perm rank) h.sound (hsettled j (by omega))
  have hxfresh : x ∈ fresh := by
    refine (hstep.mem_fresh x).2 ⟨ha, ?_, hxa⟩
    cases hold : s.tierMap[x]? with
    | none => rfl
    | some t => exact absurd (htight x t hold) hunmarked
  obtain ⟨_, new, s', hvisits, hs', hwithin', hx⟩ := hwithin.finish
    (J := fun _ _ new _ => x ∈ new) (preferring_perm rank) (hsettled j (by omega)) hu hxfresh
    fun _ _ _ _ _ _ _ _ _ hx _ => List.mem_append_left _ hx
  have h' : Begins (preferring rank) monitor project swift (j + 1) later new s' :=
    ⟨(h.visits.step hnext).trans hvisits, hs', hwithin'.next⟩
  obtain ⟨new', s'', h''⟩ := h'.next (preferring_perm rank) (hsettled (j + 1) (by omega))
  exact ⟨rank, new, new', s'', h'', hx⟩

/-- Refusing first, a run comes to the seventh wave, and to any later one, without having marked
anything that is in doubt. -/
theorem exists_tight (hj : 6 ≤ j) (hroom : j / 2 < 2 ^ 15)
    (hsettled : ∀ i < j, (wave (swiftView monitor project) swift i).Settled
      (swiftView monitor project)) :
    ∃ rank rest later s, Begins (preferring rank) monitor project swift j rest later s ∧
      Tight monitor project swift j s := by
  have hinv := waveInv (swiftView monitor project) swift
  refine ⟨fun n =>
    if n ∈ (wave (swiftView monitor project) swift 2).mayRefuse (swiftView monitor project) ∨
      n ∈ (wave (swiftView monitor project) swift 3).mayRefuse (swiftView monitor project)
    then 0 else 1, ?_⟩
  have hrefused : ∀ {i n}, n ∈ (wave (swiftView monitor project) swift i).mayRefuse
      (swiftView monitor project) → n ∈ (wave (swiftView monitor project) swift i).may :=
    fun hn => (mem_filter.1 hn).1
  have hnot : ∀ {i n}, n ∈ (wave (swiftView monitor project) swift i).taken
      (swiftView monitor project) → n ∉ (wave (swiftView monitor project) swift i).mayRefuse
        (swiftView monitor project) :=
    fun htaken hn => (mem_filter.1 hn).2.2 htaken
  induction j, hj using Nat.le_induction with
  | base =>
    obtain ⟨rest, later, s, h, hrest, hlater⟩ := exists_begins_two
      (fun n =>
        if n ∈ (wave (swiftView monitor project) swift 2).mayRefuse (swiftView monitor project) ∨
          n ∈ (wave (swiftView monitor project) swift 3).mayRefuse (swiftView monitor project)
        then 0 else 1) fun i hi => hsettled i (by omega)
    obtain ⟨new, s₃, h₃, hnew⟩ := h.next_refused_first (by decide) (hsettled 2 (by decide)) hrest
      fun y hy z hz => by
        have hz' : z ∉ (wave (swiftView monitor project) swift 3).mayRefuse
            (swiftView monitor project) := fun hn =>
          ne_of_may_two (mem_may_of_taken (hinv 2) hz) (hrefused hn) rfl
        rw [if_pos (.inl hy), if_neg (not_or.2 ⟨hnot hz, hz'⟩)]
        decide
    obtain ⟨new', s₄, h₄, hnew'⟩ := h₃.next_refused_first (by decide) (hsettled 3 (by decide))
      hlater fun y hy z hz => by
        have hz' : z ∉ (wave (swiftView monitor project) swift 2).mayRefuse
            (swiftView monitor project) := fun hn =>
          ne_of_may_two (hrefused hn) (mem_may_of_taken (hinv 3) hz) rfl
        rw [if_pos (.inr hy), if_neg (not_or.2 ⟨hz', hnot hz⟩)]
        decide
    obtain ⟨new₅, s₅, h₅, htight⟩ := h₄.next_tight (preferring_perm _) (h₄.tight (by decide))
      (hsettled 4 (by decide)) fun y hy _ => hnew y hy
    obtain ⟨new₆, s₆, h₆, htight'⟩ := h₅.next_tight (preferring_perm _) htight
      (hsettled 5 (by decide)) fun y hy _ => hnew' y hy
    exact ⟨new₅, new₆, s₆, h₆, htight'⟩
  | succ j hj ih =>
    obtain ⟨rest, later, s, h, htight⟩ := ih (by omega) fun i hi => hsettled i (by omega)
    obtain ⟨new, s', h', htight'⟩ := h.next_tight (preferring_perm _) htight
      (hsettled j j.lt_succ_self) fun y hy hexam => (mem_filter.1
        (sure_of_late hj (by omega) (hsettled j j.lt_succ_self) (h.within.may y (.inr hy))
          hexam)).1
    exact ⟨later, new, s', h', htight'⟩

/-- **A taken device of a later wave** brings what it sees into the walk, too. -/
theorem exists_reached_of_late (hj : 6 ≤ j) (hroom : j / 2 < 2 ^ 15)
    (hsettled : ∀ i < j + 2, (wave (swiftView monitor project) swift i).Settled
      (swiftView monitor project))
    (hunmarked : x ∉ (wave (swiftView monitor project) swift j).marked)
    (hseen : x ∈ (swiftView monitor project).seenFrom
      ((wave (swiftView monitor project) swift j).taken (swiftView monitor project))) :
    ∃ rank rest later s, Begins (preferring rank) monitor project swift (j + 2) rest later s ∧
      x ∈ rest := by
  obtain ⟨a, ha, hxa⟩ := SwiftView.mem_seenFrom.1 hseen
  obtain ⟨hasure, hexam, -⟩ := mem_filter.1 ha
  obtain ⟨rank, rest, later, s, h, htight⟩ := exists_tight hj hroom
    fun i hi => hsettled i (by omega)
  obtain ⟨_, new, s', h', hwithin, hmarked⟩ := h.finish
    (J := fun _ _ new s => ∀ n : ℤ, ∀ t, s.tierMap[n]? = some t →
      n ∈ (wave (swiftView monitor project) swift j).marked ∨ n ∈ new)
    (preferring_perm rank) (hsettled j (by omega)) (fun n t ht => .inl (htight n t ht)) (by
      intro passed y rest new s fresh s' _ hwithin hmarked hstep n t ht
      cases hold : s.tierMap[n]? with
      | some u => exact (hmarked n u hold).imp_right (List.mem_append_left _)
      | none =>
        -- whatever is examined is taken, and enqueues what it marks
        rcases hstep.marked n t ht with hold' | ⟨hexam, hn⟩
        · rw [hold] at hold'
          cases hold'
        · have htaken := sure_of_late hj hroom (hsettled j (by omega))
            (hwithin.may y (.inr List.mem_cons_self)) hexam
          exact .inr (List.mem_append_right _ ((hstep.mem_fresh n).2 ⟨htaken, hold, hn⟩)))
  have hpast := (hwithin.sure a hasure).resolve_right (by simp)
  obtain ⟨t, ht⟩ := hwithin.seen a hpast hexam x hxa
  obtain ⟨new', s'', h''⟩ := h'.next (preferring_perm rank) (hsettled (j + 1) (by omega))
  exact ⟨rank, new, new', s'', h'', (hmarked x t ht).resolve_left hunmarked⟩

/-! ### The two runs end differently -/

theorem eq_of_done (h : swiftRoundIn walk monitor project s = .done s') : s = s' := by
  cases hq : s.queue with
  | nil =>
    unfold swiftRoundIn at h
    rw [hq] at h
    exact Iter.done.inj h
  | cons y q =>
    unfold swiftRoundIn at h
    rw [hq] at h
    dsimp only at h
    split_ifs at h

/-- The end of a run keeps what was accepted and what was lost. -/
theorem exists_end (hwalk : ∀ id ids, (walk id ids).Perm ids) (hact : swift.active = true)
    (hcheck : checkRedundantSwift monitor project swift = .ok ())
    (hvisits : Loop.Visits (swiftRoundIn walk monitor project) (swiftStart swift) s)
    (hs : s.Sound) (x : ℤ) :
    ∃ e : SwiftSearch, Loop.Settles (computeRedundantSwiftIn walk · monitor project swift)
        (.success, tiered project swift e) ∧ e.Sound ∧ (Lost x s → Lost x e) ∧
      ∀ t, x ∈ s.swiftMap.value t → x ∈ e.swiftMap.value t := by
  obtain ⟨e, -, he, hempty, hrun, hset⟩ :=
    exists_settles_computeRedundantSwiftIn hwalk hact hcheck
  obtain ⟨fuel, hfuel⟩ := hrun.exists
  obtain ⟨fuel', hfuel'⟩ := Loop.exists_run_of_visits hfuel hvisits
  obtain ⟨hlost, haccepted⟩ := Loop.run_rule
    (I := fun u => u.Sound ∧ (Lost x s → Lost x u) ∧
      ∀ t, x ∈ s.swiftMap.value t → x ∈ u.swiftMap.value t)
    (Q := fun e => (Lost x s → Lost x e) ∧ ∀ t, x ∈ s.swiftMap.value t → x ∈ e.swiftMap.value t)
    hfuel' ⟨hs, fun h => h, fun _ h => h⟩ (fun u v _ ⟨hu, hlost, haccepted⟩ hnext => by
      obtain ⟨hv, hlost', haccepted'⟩ := @sound_lost_of_next _ _ _ _ _ x hwalk hu hnext
      exact ⟨hv, fun h => hlost' (hlost h), fun t h => haccepted' t (haccepted t h)⟩)
    fun u r _ ⟨_, hkept⟩ hdone => eq_of_done hdone ▸ hkept
  exact ⟨e, hset, he, hlost, haccepted⟩

/-- **A contested device makes the ring depend on the order.** -/
theorem not_swiftOrderFree_of_contested {i : ℕ} (hact : swift.active = true)
    (hcheck : checkRedundantSwift monitor project swift = .ok ()) (hroom : j / 2 < 2 ^ 15)
    (hsettled : ∀ i < j + 2, (wave (swiftView monitor project) swift i).Settled
      (swiftView monitor project)) (h : Contested (swiftView monitor project) swift j i x) :
    ¬SwiftOrderFree monitor project swift := by
  intro hfree
  have hlow := h.lower
  have hbefore := h.before
  -- the run that takes it
  obtain ⟨rank, rest, later, s, hbegins, hx⟩ : ∃ rank rest later s,
      Begins (preferring rank) monitor project swift (j + 2) rest later s ∧ x ∈ rest := by
    by_cases hj : j < 6
    · exact exists_reached_of_head (by omega) hj hsettled h.unmarked h.seen
    · exact exists_reached_of_late (Nat.not_lt.1 hj) hroom hsettled h.unmarked h.seen
  obtain ⟨s', t, hvisits, hs', haccepted⟩ :=
    hbegins.exists_accepted (preferring_perm rank) hx h.takes
  obtain ⟨e, he, hesound, -, hkept⟩ :=
    exists_end (preferring_perm rank) hact hcheck hvisits hs' x
  -- the run that loses it
  obtain ⟨rank', u, hvisits', hu, hlost⟩ := exists_lost hlow h.early
    (fun i' hi' => hsettled i' (by omega))
    (fun hmarked => h.unmarked (monotone_marked _ swift hbefore hmarked)) h.refused
  obtain ⟨e', he', hesound', hlost', -⟩ :=
    exists_end (preferring_perm rank') hact hcheck hvisits' hu x
  have htiers := hfree.tiers_eq (preferring_perm rank) (preferring_perm rank') he he'
  have hget := QMap.toList_eq_iff.1 htiers x
  have hin : (deviceTierMapOf e.swiftMap)[x]? = some t :=
    (getElem?_deviceTierMapOf_sound hesound x t).2 (hkept t haccepted)
  refine (hlost' hlost).accepted t ((getElem?_deviceTierMapOf_sound hesound' x t).1 ?_)
  exact hget.symm.trans hin

/-! ### The equivalence -/

/-- The devices that a walk may come to. -/
def swiftIds (project : Project) (swift : Swift) : Finset ℤ :=
  swiftEnds project ∪ {swift.rootDevice, swift.backupRootDevice}

theorem marked_subset_swiftIds (monitor : Monitor) (project : Project) (swift : Swift) (k : ℕ) :
    (wave (swiftView monitor project) swift k).marked ⊆ swiftIds project swift := by
  induction k with
  | zero => exact subset_union_right
  | succ k ih =>
    refine union_subset ih fun n hn => ?_
    obtain ⟨x, -, hnx⟩ := SwiftView.mem_seenFrom.1 hn
    exact mem_union_left _ (neighbors_subset_swiftEnds hnx)

/-- **The ring does not depend on the order where the waves of its walk are settled**, and only
there, as long as the walk may come to at most `2 ^ 15` devices. -/
theorem swiftOrderFree_iff (monitor : Monitor) (project : Project) (swift : Swift) :
    (WavesSettled monitor project swift → SwiftOrderFree monitor project swift) ∧
      ((swiftIds project swift).card ≤ 2 ^ 15 → SwiftOrderFree monitor project swift →
        WavesSettled monitor project swift) := by
  refine ⟨swiftOrderFree_of_wavesSettled, fun hcard hfree hact hcheck => ?_⟩
  by_contra hnot
  push Not at hnot
  classical
  have hfirst := Nat.find_spec hnot
  have hbefore := fun i (hi : i < Nat.find hnot) => not_not.1 (Nat.find_min hnot hi)
  generalize Nat.find hnot = k at hfirst hbefore
  have hroom : k / 2 < 2 ^ 15 := by
    have hmay : (wave (swiftView monitor project) swift k).may.Nonempty := by
      rw [nonempty_iff_ne_empty]
      intro hempty
      refine hfirst fun x hx => ?_
      rw [hempty] at hx
      exact absurd hx (notMem_empty x)
    have hlt := tier_lt_card _ swift hmay
    have hle := card_le_card (marked_subset_swiftIds monitor project swift k)
    omega
  obtain ⟨j, i, x, rfl, hcontested⟩ := exists_contested hroom hbefore hfirst
  exact not_swiftOrderFree_of_contested hact hcheck (by omega) hbefore hcontested hfree

end Core
end Sebastian
