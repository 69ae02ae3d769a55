/-
# The waves of the walk of a turbo ring

The queue of the walk of `ComputeRedundantSwift` is worked off in waves: the root, the
backup root, what was enqueued for the root, what was enqueued for the backup root,
and so on, each wave in an order that is not determined.  A device may then be seen
by two devices of a wave, one that is accepted and one that is refused, and which of
the two marks it first decides whether it is enqueued.

`wave` is the walk without any order: what every run is sure to have in a wave, and
what some run may have in it.  A wave is *settled* when the devices that it takes are
the same in every run (`SwiftWave.Settled`), and `mem_swiftMap_of_settled` is the main
lemma: where all waves are settled, every run in every order accepts the same devices
in the same tiers.
-/

import Sebastian.Core.SwiftView

namespace Sebastian
namespace Core

open Finset

/-! ### The walk without an order -/

/-- A wave of the walk: its tier and that of the wave after it, the devices that are `sure`
to come in the two and those that `may`, and what is known of the devices before it. -/
structure SwiftWave where
  tier : Int16
  nextTier : Int16
  sure : Finset ℤ
  may : Finset ℤ
  nextSure : Finset ℤ
  nextMay : Finset ℤ
  /-- The devices that are marked, with whatever tier. -/
  marked : Finset ℤ
  /-- The devices that may be marked, each with the tiers it may be marked with. -/
  marks : Finset (ℤ × Int16)
  accepted : Finset (ℤ × Int16)

namespace SwiftWave

variable (view : SwiftView) (w : SwiftWave)

/-- The tier above the wave. -/
def above : Finset ℤ :=
  if 0 < w.tier then (w.accepted.filter fun p => p.2 = w.tier - 1).image Prod.fst else ∅

/-- What is marked with the tier of the wave in every run. -/
def levelSure : Finset ℤ := w.marked.filter fun n => ∀ p ∈ w.marks, p.1 = n → p.2 = w.tier

/-- What is marked with the tier of the wave in some run. -/
def levelMay : Finset ℤ := (w.marks.filter fun p => p.2 = w.tier).image Prod.fst

/-- The wave would take the device, given what is marked with its tier. -/
def Takes (level : Finset ℤ) (id : ℤ) : Prop :=
  view.examines w.tier id = true ∧ view.Accepts w.tier w.above level id

instance (level : Finset ℤ) : DecidablePred (w.Takes view level) :=
  fun _ => inferInstanceAs (Decidable (_ ∧ _))

/-- The devices that the wave takes. -/
def taken : Finset ℤ := w.sure.filter (w.Takes view w.levelSure)

/-- The devices that the wave may examine and refuse. -/
def mayRefuse : Finset ℤ :=
  w.may.filter fun x => view.examines w.tier x = true ∧ x ∉ w.taken view

/-- **The wave takes the same devices in every run**: whatever it may take, it is sure to
come to, and takes whatever is marked by then. -/
def Settled : Prop :=
  ∀ x ∈ w.may, w.Takes view w.levelSure x → x ∈ w.sure ∧ w.Takes view w.levelMay x

instance : Decidable (w.Settled view) := inferInstanceAs (Decidable (∀ _ ∈ _, _))

/-- What is known after the wave.  A device that was not marked and is next to one that is
taken may come two waves later, and is sure to when no other device can mark it before. -/
def next : SwiftWave where
  tier := w.nextTier
  nextTier := w.tier + 1
  sure := w.nextSure
  may := w.nextMay
  nextSure := (view.seenFrom (w.taken view) \ w.marks.image Prod.fst) \
    view.seenFrom (w.mayRefuse view)
  nextMay := view.seenFrom (w.taken view) \ w.marked
  marked := w.marked ∪ view.seenFrom (w.sure.filter fun x => view.examines w.tier x)
  marks := w.marks ∪
    (view.seenFrom (w.may.filter fun x => view.examines w.tier x) \ w.marked).image
      fun n => (n, w.tier + 1)
  accepted := w.accepted ∪ (w.taken view).image fun x => (x, w.tier)

end SwiftWave

/-- The waves of the walk from these two roots. -/
def wave (view : SwiftView) (swift : Swift) : ℕ → SwiftWave
  | 0 => {
      tier := 0
      nextTier := 0
      sure := {swift.rootDevice}
      may := {swift.rootDevice}
      nextSure := {swift.backupRootDevice}
      nextMay := {swift.backupRootDevice}
      marked := {swift.rootDevice, swift.backupRootDevice}
      marks := {(swift.rootDevice, 0), (swift.backupRootDevice, 0)}
      accepted := ∅ }
  | k + 1 => (wave view swift k).next view

/-! ### A run and its waves -/

/-- **A run stands within a wave**: of the wave it has `passed` some devices and has `rest`
to do, `later` is the wave after it, and `new` what was enqueued during the wave. -/
structure Within (view : SwiftView) (w : SwiftWave) (passed : Finset ℤ) (rest later new : List ℤ)
    (s : SwiftSearch) : Prop where
  queue : s.queue = rest ++ (later ++ new)
  tier : ∀ x ∈ rest, s.tierMap[x]? = some w.tier
  nextTier : ∀ x ∈ later, s.tierMap[x]? = some w.nextTier
  newTier : ∀ x ∈ new, s.tierMap[x]? = some (w.tier + 1)
  sure : ∀ x ∈ w.sure, x ∈ passed ∨ x ∈ rest
  may : ∀ x, x ∈ passed ∨ x ∈ rest → x ∈ w.may
  nextSure : ∀ x ∈ w.nextSure, x ∈ later
  nextMay : ∀ x ∈ later, x ∈ w.nextMay
  newSure : ∀ x ∈ passed, x ∈ w.taken view → ∀ n ∈ view.neighbors x, n ∉ w.marks.image Prod.fst →
    n ∉ view.seenFrom (w.mayRefuse view) → n ∈ new
  newMay : ∀ n ∈ new, n ∉ w.marked ∧ ∃ x ∈ passed, x ∈ w.taken view ∧ n ∈ view.neighbors x
  marked : ∀ n ∈ w.marked, ∃ t, s.tierMap[n]? = some t
  seen : ∀ x ∈ passed, view.examines w.tier x = true → ∀ n ∈ view.neighbors x,
    ∃ t, s.tierMap[n]? = some t
  marks : ∀ n t, s.tierMap[n]? = some t → (n, t) ∈ w.marks ∨
    (n ∉ w.marked ∧ t = w.tier + 1 ∧ ∃ x ∈ passed, view.examines w.tier x = true ∧
      n ∈ view.neighbors x)
  accepted : ∀ x t, x ∈ s.swiftMap.value t ↔ (x, t) ∈ w.accepted ∨
    (t = w.tier ∧ x ∈ passed ∧ x ∈ w.taken view)

namespace Within

variable {view : SwiftView} {w : SwiftWave} {passed : Finset ℤ} {rest later new : List ℤ}
  {s s' : SwiftSearch} {x : ℤ}

/-- **A settled wave takes what the run takes** at its turn. -/
theorem takes_iff (h : Within view w passed rest later new s) (hw : w.Settled view)
    (hx : x ∈ w.may) (hexam : view.examines w.tier x = true) :
    s.Takes view w.tier x ↔ x ∈ w.taken view := by
  obtain ⟨hup, hdown, -⟩ := tier_ne w.tier
  have habove : s.above w.tier = w.above := by
    ext n
    rw [SwiftSearch.mem_above, SwiftWave.above, h.accepted]
    split_ifs with hpos
    · simp [hpos, hdown]
    · simp [hpos]
  have hsure : ∀ n ∈ view.neighbors x, n ∈ w.levelSure →
      n ∈ s.level (view.neighbors x) w.tier := by
    intro n hn hlevel
    obtain ⟨hmarked, hmarks⟩ := mem_filter.1 hlevel
    obtain ⟨t, ht⟩ := h.marked n hmarked
    rcases h.marks n t ht with hmark | ⟨hnot, -⟩
    · have htier : t = w.tier := hmarks _ hmark rfl
      exact mem_filter.2 ⟨hn, htier ▸ ht⟩
    · exact absurd hmarked hnot
  have hmay : ∀ n ∈ view.neighbors x, n ∈ s.level (view.neighbors x) w.tier → n ∈ w.levelMay := by
    intro n _ hlevel
    obtain ⟨-, ht⟩ := mem_filter.1 hlevel
    rcases h.marks n _ ht with hmark | ⟨-, he, -⟩
    · exact mem_image.2 ⟨_, mem_filter.2 ⟨hmark, rfl⟩, rfl⟩
    · exact absurd he.symm hup
  unfold SwiftSearch.Takes
  rw [habove]
  constructor
  · intro htakes
    have hlevel : w.Takes view w.levelSure x := ⟨hexam, htakes.mono hsure⟩
    exact mem_filter.2 ⟨(hw x hx hlevel).1, hlevel⟩
  · intro htaken
    obtain ⟨-, hlevel⟩ := mem_filter.1 htaken
    exact (hw x hx hlevel).2.2.mono hmay

variable (h : Within view w passed (x :: rest) later new s)
include h

theorem sure_cons : ∀ y ∈ w.sure, y ∈ insert x passed ∨ y ∈ rest := by
  intro y hy
  rw [mem_insert]
  rcases h.sure y hy with hy | hy
  · exact .inl (.inr hy)
  · exact (List.mem_cons.1 hy).imp_left .inl

theorem may_cons : ∀ y, y ∈ insert x passed ∨ y ∈ rest → y ∈ w.may := by
  rintro y (hy | hy)
  · rcases mem_insert.1 hy with rfl | hy
    · exact h.may _ (.inr List.mem_cons_self)
    · exact h.may y (.inl hy)
  · exact h.may y (.inr (List.mem_cons_of_mem _ hy))

/-- The device at the head of the queue is skipped. -/
theorem skip (hskip : view.examines w.tier x = false) :
    Within view w (insert x passed) rest later new { s with queue := rest ++ (later ++ new) } := by
  have hnot : x ∉ w.taken view := by
    intro hx
    obtain ⟨-, hexam, -⟩ := mem_filter.1 hx
    rw [hskip] at hexam
    cases hexam
  have hpast : ∀ y ∈ insert x passed, view.examines w.tier y = true → y ∈ passed := by
    intro y hy hexam
    rcases mem_insert.1 hy with rfl | hy
    · rw [hskip] at hexam
      cases hexam
    · exact hy
  exact {
    queue := rfl
    tier y hy := h.tier y (List.mem_cons_of_mem _ hy)
    nextTier := h.nextTier
    newTier := h.newTier
    sure := h.sure_cons
    may := h.may_cons
    nextSure := h.nextSure
    nextMay := h.nextMay
    newSure y hy htaken :=
      h.newSure y (hpast y hy (mem_filter.1 htaken).2.1) htaken
    newMay n hn := by
      obtain ⟨hmarked, y, hy, htaken⟩ := h.newMay n hn
      exact ⟨hmarked, y, mem_insert_of_mem hy, htaken⟩
    marked := h.marked
    seen y hy hexam := h.seen y (hpast y hy hexam) hexam
    marks n t ht := by
      refine (h.marks n t ht).imp_right fun ⟨hmarked, he, y, hy, hexam⟩ => ?_
      exact ⟨hmarked, he, y, mem_insert_of_mem hy, hexam⟩
    accepted y t := by
      rw [h.accepted]
      refine or_congr_right (and_congr_right fun _ => ⟨?_, ?_⟩) <;> rintro ⟨hy, htaken⟩
      · exact ⟨mem_insert_of_mem hy, htaken⟩
      · exact ⟨hpast y hy (mem_filter.1 htaken).2.1, htaken⟩ }

/-- **The device at the head of the queue is visited**, and `fresh` is enqueued. -/
theorem visit {walk : ℤ → QSet ℤ → List ℤ} {fresh : List ℤ} (hw : w.Settled view)
    (hexam : view.examines w.tier x = true)
    (hvis : Visited walk view s x (rest ++ (later ++ new)) w.tier s')
    (hq : s'.queue = rest ++ (later ++ new) ++ fresh) (hfresh : ∀ n, n ∈ fresh ↔
      s.Takes view w.tier x ∧ s.tierMap[n]? = none ∧ n ∈ view.neighbors x) :
    Within view w (insert x passed) rest later (new ++ fresh) s' := by
  have htakes := h.takes_iff hw (h.may x (.inr List.mem_cons_self)) hexam
  have hold : ∀ n : ℤ, ∀ t, s.tierMap[n]? = some t → s'.tierMap[n]? = some t :=
    fun n t ht => (hvis.tierMap n t).2 (.inl ht)
  have hnbr : ∀ n ∈ view.neighbors x, s.tierMap[n]? = none →
      s'.tierMap[n]? = some (w.tier + 1) :=
    fun n hn hnone => (hvis.tierMap n _).2 (.inr ⟨hnone, hn, rfl⟩)
  have hunmarked : ∀ n : ℤ, s.tierMap[n]? = none → n ∉ w.marked := by
    intro n hnone hmarked
    obtain ⟨t, ht⟩ := h.marked n hmarked
    rw [hnone] at ht
    cases ht
  refine {
    queue := by rw [hq]; simp only [List.append_assoc]
    tier := fun y hy => hold y _ (h.tier y (List.mem_cons_of_mem _ hy))
    nextTier := fun y hy => hold y _ (h.nextTier y hy)
    newTier := fun y hy => ?_
    sure := h.sure_cons
    may := h.may_cons
    nextSure := h.nextSure
    nextMay := h.nextMay
    newSure := fun y hy htaken n hn hmarks hsafe => ?_
    newMay := fun n hn => ?_
    marked := fun n hn => (h.marked n hn).imp fun t => hold n t
    seen := fun y hy hexam n hn => ?_
    marks := fun n t ht => ?_
    accepted := fun y t => ?_ }
  · rcases List.mem_append.1 hy with hy | hy
    · exact hold y _ (h.newTier y hy)
    · obtain ⟨-, hnone, hn⟩ := (hfresh y).1 hy
      exact hnbr y hn hnone
  · rw [List.mem_append]
    rcases mem_insert.1 hy with rfl | hy
    · cases hold : s.tierMap[n]? with
      | none => exact .inr ((hfresh n).2 ⟨htakes.2 htaken, hold, hn⟩)
      | some t =>
        -- the neighbor was marked during the wave, by a device that the wave takes
        rcases h.marks n t hold with hmark | ⟨-, -, z, hz, hexam', hnz⟩
        · exact absurd (mem_image_of_mem _ hmark) hmarks
        · have hztaken : z ∈ w.taken view := by
            by_contra hnot
            exact hsafe (SwiftView.mem_seenFrom.2 ⟨z, mem_filter.2
              ⟨h.may z (.inl hz), hexam', hnot⟩, hnz⟩)
          exact .inl (h.newSure z hz hztaken n hnz hmarks hsafe)
    · exact .inl (h.newSure y hy htaken n hn hmarks hsafe)
  · rcases List.mem_append.1 hn with hn | hn
    · obtain ⟨hmarked, y, hy, htaken⟩ := h.newMay n hn
      exact ⟨hmarked, y, mem_insert_of_mem hy, htaken⟩
    · obtain ⟨htake, hnone, hnbr⟩ := (hfresh n).1 hn
      exact ⟨hunmarked n hnone, x, mem_insert_self _ _, htakes.1 htake, hnbr⟩
  · rcases mem_insert.1 hy with rfl | hy
    · cases hold' : s.tierMap[n]? with
      | none => exact ⟨_, hnbr n hn hold'⟩
      | some t => exact ⟨t, hold n t hold'⟩
    · exact (h.seen y hy hexam n hn).imp fun t => hold n t
  · rcases (hvis.tierMap n t).1 ht with ht | ⟨hnone, hn, rfl⟩
    · refine (h.marks n t ht).imp_right fun ⟨hmarked, he, y, hy, hseen⟩ => ?_
      exact ⟨hmarked, he, y, mem_insert_of_mem hy, hseen⟩
    · exact .inr ⟨hunmarked n hnone, rfl, x, mem_insert_self _ _, hexam, hn⟩
  · rw [hvis.swiftMap, h.accepted, htakes, mem_insert, or_assoc]
    refine or_congr_right ⟨?_, ?_⟩
    · rintro (⟨ht, hy, htaken⟩ | ⟨htaken, ht, rfl⟩)
      · exact ⟨ht, .inr hy, htaken⟩
      · exact ⟨ht, .inl rfl, htaken⟩
    · rintro ⟨ht, rfl | hy, htaken⟩
      · exact .inr ⟨htaken, ht, rfl⟩
      · exact .inl ⟨ht, hy, htaken⟩

omit h

/-- **A wave is over**, and the next one begins. -/
theorem next (h : Within view w passed [] later new s) :
    Within view (w.next view) ∅ later new [] s := by
  have hpast : ∀ x ∈ w.sure, x ∈ passed := fun x hx => (h.sure x hx).resolve_right (by simp)
  have htaken : ∀ x ∈ w.taken view, x ∈ passed := fun x hx => hpast x (mem_filter.1 hx).1
  exact {
    queue := by rw [h.queue]; simp
    tier := h.nextTier
    nextTier := h.newTier
    newTier := by simp
    sure x hx := .inr (h.nextSure x hx)
    may x hx := h.nextMay x (hx.resolve_left (by simp))
    nextSure n hn := by
      obtain ⟨hn, hsafe⟩ := mem_sdiff.1 hn
      obtain ⟨hseen, hmarks⟩ := mem_sdiff.1 hn
      obtain ⟨x, hx, hnx⟩ := SwiftView.mem_seenFrom.1 hseen
      exact h.newSure x (htaken x hx) hx n hnx hmarks hsafe
    nextMay n hn := by
      obtain ⟨hmarked, x, -, hx, hnx⟩ := h.newMay n hn
      exact mem_sdiff.2 ⟨SwiftView.mem_seenFrom.2 ⟨x, hx, hnx⟩, hmarked⟩
    newSure := by simp
    newMay := by simp
    marked n hn := by
      rcases mem_union.1 hn with hn | hn
      · exact h.marked n hn
      · obtain ⟨x, hx, hnx⟩ := SwiftView.mem_seenFrom.1 hn
        obtain ⟨hsure, hexam⟩ := mem_filter.1 hx
        exact h.seen x (hpast x hsure) hexam n hnx
    seen := by simp
    marks n t ht := by
      refine .inl (mem_union.2 ?_)
      refine (h.marks n t ht).imp_right fun ⟨hmarked, he, x, hx, hexam, hnx⟩ => ?_
      refine mem_image.2 ⟨n, mem_sdiff.2 ⟨SwiftView.mem_seenFrom.2 ⟨x, ?_, hnx⟩,
        hmarked⟩, by rw [he]⟩
      exact mem_filter.2 ⟨h.may x (.inl hx), hexam⟩
    accepted x t := by
      rw [h.accepted]
      unfold SwiftWave.next
      rw [mem_union, mem_image]
      simp only [notMem_empty, false_and, and_false, or_false, Prod.mk.injEq]
      refine or_congr_right ⟨fun ⟨ht, _, hx⟩ => ⟨x, hx, rfl, ht.symm⟩, ?_⟩
      rintro ⟨y, hy, rfl, rfl⟩
      exact ⟨rfl, htaken y hy, hy⟩ }

end Within

/-! ### Every run -/

section

variable {view : SwiftView} {swift : Swift} {monitor : Monitor} {project : Project}
  {walk : ℤ → QSet ℤ → List ℤ} {s : SwiftSearch} {x : ℤ} {t : Int16} {q : List ℤ}

/-- A run stands within one of its waves. -/
def WithinSome (view : SwiftView) (swift : Swift) (s : SwiftSearch) : Prop :=
  ∃ k passed rest later new, Within view (wave view swift k) passed rest later new s

theorem within_swiftStart (view : SwiftView) (swift : Swift) :
    Within view (wave view swift 0) ∅ [swift.rootDevice] [swift.backupRootDevice] []
      (swiftStart swift) := by
  have hmap := fun n t => @tierMap_swiftStart n swift t
  refine {
    queue := rfl
    tier := fun x hx => (hmap x 0).2 ⟨.inl (List.mem_singleton.1 hx), rfl⟩
    nextTier := fun x hx => (hmap x 0).2 ⟨.inr (List.mem_singleton.1 hx), rfl⟩
    newTier := by simp
    sure := fun x hx => .inr (List.mem_singleton.2 (mem_singleton.1 hx))
    may := fun x hx => mem_singleton.2 (List.mem_singleton.1 (hx.resolve_left (by simp)))
    nextSure := fun x hx => List.mem_singleton.2 (mem_singleton.1 hx)
    nextMay := fun x hx => mem_singleton.2 (List.mem_singleton.1 hx)
    newSure := by simp
    newMay := by simp
    marked := fun n hn => ⟨0, (hmap n 0).2 ⟨by simpa [wave] using hn, rfl⟩⟩
    seen := by simp
    marks := fun n t ht => .inl ?_
    accepted := fun x t => by simp [swiftStart, wave] }
  obtain ⟨hroot, rfl⟩ := (hmap n t).1 ht
  simpa [wave] using hroot

/-- The device at the head of the queue belongs to the wave within which the run stands. -/
theorem WithinSome.exists_cons (h : WithinSome view swift s) (hq : s.queue = x :: q) :
    ∃ k passed rest later new,
      Within view (wave view swift k) passed (x :: rest) later new s := by
  have hhead : ∀ k passed rest later new, rest ≠ [] →
      Within view (wave view swift k) passed rest later new s →
      ∃ rest', Within view (wave view swift k) passed (x :: rest') later new s := by
    intro k passed rest later new hne h
    cases rest with
    | nil => exact absurd rfl hne
    | cons y rest =>
      obtain ⟨rfl, -⟩ := List.cons.inj (hq.symm.trans h.queue)
      exact ⟨rest, h⟩
  obtain ⟨k, passed, rest, later, new, h⟩ := h
  by_cases hrest : rest = []
  · subst hrest
    have hnext : Within view (wave view swift (k + 1)) ∅ later new [] s := h.next
    by_cases hlater : later = []
    · -- the wave after it is empty, too
      subst hlater
      have hnext' : Within view (wave view swift (k + 2)) ∅ new [] [] s := hnext.next
      obtain ⟨rest', h'⟩ := hhead _ _ _ _ _ (by
        rintro rfl
        rw [h.queue] at hq
        cases hq) hnext'
      exact ⟨_, _, _, _, _, h'⟩
    · obtain ⟨rest', h'⟩ := hhead _ _ _ _ _ hlater hnext
      exact ⟨_, _, _, _, _, h'⟩
  · obtain ⟨rest', h'⟩ := hhead _ _ _ _ _ hrest h
    exact ⟨_, _, _, _, _, h'⟩

/-- What a round within a settled wave enqueues and marks. -/
structure Stepped (walk : ℤ → QSet ℤ → List ℤ) (view : SwiftView) (w : SwiftWave) (x : ℤ)
    (s : SwiftSearch) (fresh : List ℤ) (s' : SwiftSearch) : Prop where
  mem_fresh : ∀ n, n ∈ fresh ↔
    x ∈ w.taken view ∧ s.tierMap[n]? = none ∧ n ∈ view.neighbors x
  ordered : ∃ ids, fresh = walk x ids
  kept : ∀ n : ℤ, ∀ t, s.tierMap[n]? = some t → s'.tierMap[n]? = some t
  marked : ∀ n : ℤ, ∀ t, s'.tierMap[n]? = some t → s.tierMap[n]? = some t ∨
    (view.examines w.tier x = true ∧ n ∈ view.neighbors x)

/-- **One round within a settled wave.** -/
theorem Within.step {w : SwiftWave} {passed : Finset ℤ} {rest later new : List ℤ}
    (hwalk : ∀ id ids, (walk id ids).Perm ids) (hs : s.Sound)
    (h : Within (swiftView monitor project) w passed (x :: rest) later new s)
    (hw : w.Settled (swiftView monitor project)) :
    ∃ s' fresh, swiftRoundIn walk monitor project s = .next s' ∧ s'.Sound ∧
      Within (swiftView monitor project) w (insert x passed) rest later (new ++ fresh) s' ∧
        Stepped walk (swiftView monitor project) w x s fresh s' := by
  have htier := h.tier x List.mem_cons_self
  rcases @swiftRoundIn_cases monitor project walk s x _ _ hwalk hs h.queue htier with
    ⟨hskip, hround⟩ | ⟨hexam, s', hround, hvis⟩
  · refine ⟨_, [], hround, hs.skip h.queue, ?_, fun n => ?_, ⟨[], ((hwalk x []).eq_nil).symm⟩,
      fun n t ht => ht, fun n t ht => .inl ht⟩
    · rw [List.append_nil]
      exact h.skip hskip
    · refine ⟨nofun, fun ⟨htaken, _⟩ => ?_⟩
      obtain ⟨-, hexam, -⟩ := mem_filter.1 htaken
      rw [hskip] at hexam
      cases hexam
  · obtain ⟨fresh, hq, -, hordered, hfresh⟩ := hvis.queue
    refine ⟨s', fresh, hround, hs.visit h.queue htier hvis,
      h.visit hw hexam hvis hq hfresh, fun n => ?_, hordered,
      fun n t ht => (hvis.tierMap n t).2 (.inl ht), fun n t ht => ?_⟩
    · rw [hfresh, h.takes_iff hw (h.may x (.inr List.mem_cons_self)) hexam]
    · exact ((hvis.tierMap n t).1 ht).imp_right fun ⟨_, hn, _⟩ => ⟨hexam, hn⟩

/-- **Every run keeps to the waves**, where they are settled. -/
theorem withinSome_of_visits (hwalk : ∀ id ids, (walk id ids).Perm ids)
    (hset : ∀ k, (wave (swiftView monitor project) swift k).Settled (swiftView monitor project))
    (hv : Loop.Visits (swiftRoundIn walk monitor project) (swiftStart swift) s) :
    s.Sound ∧ WithinSome (swiftView monitor project) swift s := by
  refine hv.rule (I := fun s => s.Sound ∧ WithinSome (swiftView monitor project) swift s)
    ⟨sound_swiftStart swift, 0, _, _, _, _, within_swiftStart _ swift⟩ ?_
  rintro s u - ⟨hs, hwithin⟩ hnext
  cases hq : s.queue with
  | nil =>
    unfold swiftRoundIn at hnext
    rw [hq] at hnext
    cases hnext
  | cons x q =>
    obtain ⟨k, passed, rest, later, new, h⟩ := hwithin.exists_cons hq
    obtain ⟨u', fresh, hround, hu, h', -⟩ := h.step hwalk hs (hset k)
    rw [hround] at hnext
    obtain rfl := Iter.next.inj hnext
    exact ⟨hu, k, _, _, _, _, h'⟩

theorem monotone_accepted (view : SwiftView) (swift : Swift) :
    Monotone fun k => (wave view swift k).accepted :=
  monotone_nat_of_le_succ fun _ => subset_union_left

/-- **What a run accepts, in any order**, where all waves are settled: what the waves take. -/
theorem mem_swiftMap_of_settled (hwalk : ∀ id ids, (walk id ids).Perm ids)
    (hset : ∀ k, (wave (swiftView monitor project) swift k).Settled (swiftView monitor project))
    (hv : Loop.Visits (swiftRoundIn walk monitor project) (swiftStart swift) s)
    (hempty : s.queue = []) :
    x ∈ s.swiftMap.value t ↔ ∃ k, (x, t) ∈ (wave (swiftView monitor project) swift k).accepted := by
  obtain ⟨-, k, passed, rest, later, new, h⟩ := withinSome_of_visits hwalk hset hv
  obtain ⟨rfl, rfl, rfl⟩ : rest = [] ∧ later = [] ∧ new = [] := by
    simpa using hempty.symm.trans h.queue
  have hlast : ∀ j, Within (swiftView monitor project)
      (wave (swiftView monitor project) swift (k + 1 + j)) ∅ [] [] [] s := by
    intro j
    induction j with
    | zero => exact h.next
    | succ j ih => exact ih.next
  have haccepted : ∀ j, x ∈ s.swiftMap.value t ↔
      (x, t) ∈ (wave (swiftView monitor project) swift (k + 1 + j)).accepted := by
    intro j
    rw [(hlast j).accepted]
    simp
  constructor
  · exact fun hx => ⟨k + 1 + 0, (haccepted 0).1 hx⟩
  · rintro ⟨j, hj⟩
    exact (haccepted j).2 (monotone_accepted _ swift (Nat.le_add_left j (k + 1)) hj)

end

end Core
end Sebastian
