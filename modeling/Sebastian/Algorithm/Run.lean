/-
# A run of `ComputeSchedule`

`ComputeSchedule` makes attempts: a stream with one of its priority code points,
over the schedule of the streams before it (`Attempts`).  `Searches` says that a
run comes to a state of a search of one of them; a statement about every step of a
run is a statement about these states.

`computeSchedule_rule` carries a property of schedules through a run: it holds of
the empty schedule, passes to smaller schedules and survives every round of every
search.  `scheduleInv_of_computeSchedule` says how the frames of a schedule hang
together, and `exists_attempt` finds the attempt a stream was scheduled by.
-/

import Sebastian.Algorithm.Attempt
import Sebastian.Algorithm.StreamOrder

namespace Sebastian
namespace Algorithm

open List Option Prod

variable {lib : Library}

/-! ### The attempts of a run -/

/-- The loop over the priority code points of a stream comes to an attempt. -/
inductive AttemptsPcp (lib : Library) (fuel : ℕ) (streamId : ℤ) (base : ScheduleResult) :
    List UInt8 → ScheduleConfig → Attempt → Prop
  | here (pcp : UInt8) (pcps : List UInt8) (config : ScheduleConfig) :
      AttemptsPcp lib fuel streamId base (pcp :: pcps) config ⟨streamId, pcp, config, base⟩
  | next {pcp : UInt8} {pcps : List UInt8} {config config' : ScheduleConfig} {status : Status}
      {result : ScheduleResult} {a : Attempt} :
      computeScheduleStream lib fuel (attemptOf config streamId pcp) config base =
        some (status, config', result) → status ≠ .success →
      AttemptsPcp lib fuel streamId base pcps config' a →
      AttemptsPcp lib fuel streamId base (pcp :: pcps) config a

/-- The loop over the streams comes to an attempt. -/
inductive AttemptsStream (lib : Library) (fuel : ℕ) :
    List ℤ → ScheduleConfig → ScheduleResult → Attempt → Prop
  | here {streamId : ℤ} {ids : List ℤ} {config : ScheduleConfig} {base : ScheduleResult}
      {a : Attempt} :
      AttemptsPcp lib fuel streamId base (pcpsOf lib (config.getScheduleConfigStream streamId))
        config a →
      AttemptsStream lib fuel (streamId :: ids) config base a
  | next {streamId : ℤ} {ids : List ℤ} {config config' : ScheduleConfig}
      {base base' : ScheduleResult} {a : Attempt} :
      computePcps lib fuel streamId (pcpsOf lib (config.getScheduleConfigStream streamId)) .success
        config base = some (.success, config', base') →
      AttemptsStream lib fuel ids config' base' a →
      AttemptsStream lib fuel (streamId :: ids) config base a

/-- `ComputeSchedule` comes to an attempt. -/
def Attempts (lib : Library) (fuel : ℕ) (config : ScheduleConfig) (a : Attempt) : Prop :=
  ∃ ids, config.sortScheduleConfigStreams lib = some ids ∧ AttemptsStream lib fuel ids config ∅ a

/-- **`ComputeSchedule` comes to a state of a search** of the stream. -/
structure Searches (fuel : ℕ) (config : ScheduleConfig) (stream : ScheduleStream)
    (s : RoutingState lib) : Prop where
  attempt : ∃ a t, Attempts lib fuel config a ∧
    Loop.Visits (streamBody lib fuel a.base) a.init t ∧ t.stream = stream ∧ SearchesFrom t s

/-! ### The streams of a run -/

/-- `SetPriorityCodePoint` and `SetQueueId` change nothing else. -/
theorem ScheduleConfig.extends_assignPcp (config : ScheduleConfig) (streamId : ℤ) (pcp : UInt8) :
    config.Extends (config.assignPcp streamId pcp) where
  cycleTime := rfl
  reserveTime := rfl
  stream id := by
    simp only [assignPcp, getScheduleConfigStream, QMap.value_update]
    split_ifs with h
    · subst h
      rfl
    · rfl
  link _ := rfl
  device _ := rfl
  interface _ _ := rfl
  interfacesAt_subset _ := List.Subset.refl _

/-- Where the loop over the streams `ids` is, in a run that began with `config`. -/
structure RunInv (config : ScheduleConfig) (ids : List ℤ) (config' : ScheduleConfig)
    (base : ScheduleResult) : Prop where
  extends_config : config.Extends config'
  schedule : ScheduleInv config base
  free : ∀ id ∈ ids, base.Free id
  nodup : ids.Nodup

section
variable {config config' config'' : ScheduleConfig} {fuel : ℕ} {ids : List ℤ} {streamId : ℤ}
  {base result : ScheduleResult} {status status' : Status} {pcps : List UInt8} {a : Attempt}

/-- **The loop over the priority code points** leaves the schedule alone or stores
an attempt. -/
theorem of_computePcps (hextends : config.Extends config') (hkeyed : base.Keyed)
    (hfree : base.Free streamId)
    (h : computePcps lib fuel streamId pcps status config' base = some (status', config'',
      result)) : config.Extends config'' ∧ (status' ≠ .success → result = base) ∧
      (status' = .success → (pcps = [] ∧ status = .success ∧ result = base) ∨
        ∃ a t frames, AttemptsPcp lib fuel streamId base pcps config' a ∧ a.streamId = streamId ∧
          a.base = base ∧ AttemptInv config a ∧ Completes lib fuel config a t result frames) := by
  induction pcps generalizing status config' with
  | nil =>
    have h := some.inj h
    rw [mk.injEq, mk.injEq] at h
    obtain ⟨rfl, rfl, rfl⟩ := h
    exact ⟨hextends, fun _ => rfl, fun e => .inl ⟨rfl, e, rfl⟩⟩
  | cons pcp pcps ih =>
    rw [computePcps] at h
    obtain ⟨⟨status₁, config₁, attempt⟩, hatt, h⟩ := bind_eq_some_iff.1 h
    have ha : AttemptInv config ⟨streamId, pcp, config', base⟩ := ⟨hextends, hkeyed, hfree⟩
    obtain ⟨hextends₁, hcompletes⟩ := of_computeScheduleStream ha hatt
    dsimp only at h
    split_ifs at h with hst
    · have h := some.inj h
      rw [mk.injEq, mk.injEq] at h
      obtain ⟨rfl, rfl, rfl⟩ := h
      have hsucc := Status.isSuccess_iff.1 hst
      obtain ⟨t, frames, hcompletes⟩ := hcompletes hsucc
      exact ⟨hextends₁.trans (config₁.extends_assignPcp _ _), fun hne => absurd hsucc hne,
        fun _ => .inr ⟨_, t, frames, .here pcp pcps config', rfl, rfl, ha, hcompletes⟩⟩
    · have hne : status₁ ≠ .success := fun e => hst (Status.isSuccess_iff.2 e)
      obtain ⟨hextends₂, hfail, hsucc⟩ := ih hextends₁ h
      refine ⟨hextends₂, hfail, fun e => .inr ?_⟩
      rcases hsucc e with ⟨-, e', -⟩ | ⟨a, t, frames, hatts, hrest⟩
      · exact absurd e' hne
      · exact ⟨a, t, frames, .next hatt hne hatts, hrest⟩

theorem AttemptsPcp.inv (h : AttemptsPcp lib fuel streamId base pcps config' a)
    (hextends : config.Extends config') (hkeyed : base.Keyed) (hfree : base.Free streamId) :
    AttemptInv config a ∧ a.streamId = streamId ∧ a.base = base := by
  induction h with
  | here => exact ⟨⟨hextends, hkeyed, hfree⟩, rfl, rfl⟩
  | next hatt _ _ ih =>
    exact ih (of_computeScheduleStream (a := ⟨streamId, _, _, base⟩)
      ⟨hextends, hkeyed, hfree⟩ hatt).1

/-- **A stream that is scheduled** keeps what holds between two streams. -/
theorem RunInv.next (h : RunInv config (streamId :: ids) config' base)
    (hpcps : computePcps lib fuel streamId pcps .success config' base =
      some (.success, config'', result)) : RunInv config ids config'' result := by
  obtain ⟨hextends, -, hsucc⟩ := of_computePcps h.extends_config h.schedule.keyed
    (h.free streamId mem_cons_self) hpcps
  obtain ⟨hnot, hnodup⟩ := nodup_cons.1 h.nodup
  rcases hsucc rfl with ⟨-, -, rfl⟩ | ⟨a, t, frames, -, rfl, rfl, ha, hcompletes⟩
  · exact ⟨hextends, h.schedule, fun id hid => h.free id (mem_cons_of_mem _ hid), hnodup⟩
  · refine ⟨hextends, hcompletes.scheduleInv ha h.schedule, fun id hid key hkey => ?_, hnodup⟩
    rw [hcompletes.lookup_other fun e => hnot (by rw [← e, hkey]; exact hid)]
    exact h.free id (mem_cons_of_mem _ hid) key hkey

theorem AttemptsStream.inv (h : AttemptsStream lib fuel ids config' base a)
    (hinv : RunInv config ids config' base) :
    AttemptInv config a ∧ a.streamId ∈ ids ∧ ScheduleInv config a.base := by
  induction h with
  | here hatts =>
    obtain ⟨ha, rfl, rfl⟩ := hatts.inv hinv.extends_config hinv.schedule.keyed
      (hinv.free _ mem_cons_self)
    exact ⟨ha, mem_cons_self, hinv.schedule⟩
  | next hpcps _ ih =>
    obtain ⟨ha, hmem, hbase⟩ := ih (hinv.next hpcps)
    exact ⟨ha, mem_cons_of_mem _ hmem, hbase⟩

theorem runInv_init (h : config.sortScheduleConfigStreams lib = some ids) :
    RunInv config ids config ∅ :=
  ⟨.refl _, scheduleInv_empty _, fun _ _ key _ => by simp,
    (ScheduleConfig.sortScheduleConfigStreams_spec h).1⟩

theorem Attempts.inv (h : Attempts lib fuel config a) :
    AttemptInv config a ∧ ScheduleInv config a.base := by
  obtain ⟨ids, hids, hatts⟩ := h
  obtain ⟨ha, -, hbase⟩ := hatts.inv (runInv_init hids)
  exact ⟨ha, hbase⟩

end

/-! ### Rules for a run -/

/-- What is known of every state of every search of a run. -/
structure InSearch (config : ScheduleConfig) (stream : ScheduleStream) (s : RoutingState lib) :
    Prop where
  inv : ∃ start, SearchInv config stream start s
  cycleTime : stream.cycleTime = config.cycleTime
  cycleTime_pos : 0 < config.cycleTime
  transmitOffset : (config.getScheduleConfigStream stream.streamId).earliestTransmitOffset ≤
    stream.transmitOffset

section
variable {config config' config₁ : ScheduleConfig} {fuel : ℕ} {ids : List ℤ}
  {base result : ScheduleResult} {status : Status}

theorem StreamInv.cycleTime_pos {a : Attempt} {t : StreamState} (h : StreamInv config a t)
    (hs : t.Searching) (hc : 0 ≤ config.cycleTime) : 0 < config.cycleTime := by
  rcases hc.lt_or_eq with hlt | heq
  · exact hlt
  · have hlt := hs.sequence
    rw [h.cycleTime, ← heq, Int.zero_tdiv] at hlt
    exact absurd h.sequenceId_nonneg (not_le.2 hlt)

theorem Searches.searchInv {stream : ScheduleStream} {s : RoutingState lib}
    (h : Searches fuel config stream s) : ∃ start, SearchInv config stream start s := by
  obtain ⟨a, t, hatts, hv, rfl, hs⟩ := h.attempt
  have hinv : StreamInv config a t := .visits hatts.inv.1 hv
  exact ⟨_, hinv.searchInv hs⟩

theorem Searches.inSearch {stream : ScheduleStream} {s : RoutingState lib}
    (h : Searches fuel config stream s) (hc : 0 ≤ config.cycleTime) : InSearch config stream s := by
  obtain ⟨a, t, hatts, hv, rfl, hs⟩ := h.attempt
  have hinv : StreamInv config a t := .visits hatts.inv.1 hv
  refine ⟨⟨_, hinv.searchInv hs⟩, hinv.cycleTime, hinv.cycleTime_pos hs.searching hc, ?_⟩
  rw [hinv.streamId]
  exact hinv.transmitOffset

/-- The second schedule holds a part of the first one, up to the marks. -/
def ScheduleResult.Sub (result result' : ScheduleResult) : Prop :=
  ∀ key f, result.lookup key = some f → ∃ g, result'.lookup key = some g ∧ f.Marks g

/-- **The rule for a property of schedules**: it holds of the empty schedule and
of every smaller one, and each round of a search keeps it. -/
theorem computeSchedule_rule {R : ScheduleResult → Prop} (hempty : R ∅)
    (hsub : ∀ r r' : ScheduleResult, r.Keyed → r'.Keyed → r.Sub r' → R r' → R r)
    (hround : ∀ stream (s s' : RoutingState lib), Searches fuel config stream s → R s.result →
      Round stream s s' → R s'.result)
    (h : computeSchedule lib fuel config = some (status, config', result)) : R result := by
  simp only [computeSchedule] at h
  obtain ⟨ids, hids, h⟩ := bind_eq_some_iff.1 h
  have hatt : ∀ a t frames r, Attempts lib fuel config a → R a.base →
      Completes lib fuel config a t r frames → R r := by
    intro a t frames r hatts hbase hcompletes
    have ha := hatts.inv.1
    have ht : R t.result := by
      refine hcompletes.visits.rule (I := fun t => R t.result) hbase fun t t' hv hR hb => ?_
      cases streamRound_of_next hb with
      | accept s hs ht' =>
        rw [ht']
        obtain ⟨s₀, hinit, hsv⟩ := hs.visits
        refine hsv.rule (I := fun s => R s.result) ?_ fun s s' hsv' hR' hb' => ?_
        · simp only [routingInit] at hinit
          obtain ⟨duration, -, hinit⟩ := bind_eq_some_iff.1 hinit
          rw [← some.inj hinit]
          exact hR
        · exact hround t.stream s s' ⟨a, t, hatts, hv, rfl, hs.searching, s₀, hinit, hsv'⟩ hR'
            (round_of_next hb')
      | restart _ _ _ _ hres _ => exact hres ▸ hbase
    refine hsub r t.result ?_ hcompletes.inv.keyed (fun key f hf => hcompletes.sub ha hf) ht
    exact (hcompletes.scheduleInv ha hatts.inv.2).keyed
  have hstrms : ∀ ids config₁ base, RunInv config ids config₁ base → R base →
      (∀ a, AttemptsStream lib fuel ids config₁ base a → Attempts lib fuel config a) →
      computeStreams lib fuel ids .success config₁ base = some (status, config', result) →
      R result := by
    intro ids
    induction ids with
    | nil =>
      intro config₁ base _ hR _ h
      have h := some.inj h
      rw [mk.injEq, mk.injEq] at h
      exact h.2.2 ▸ hR
    | cons streamId ids ih =>
      intro config₁ base hinv hR hatts h
      rw [computeStreams] at h
      obtain ⟨⟨status₂, config₂, middle⟩, hpcps, h⟩ := bind_eq_some_iff.1 h
      obtain ⟨-, hfail, hsucc⟩ := of_computePcps hinv.extends_config hinv.schedule.keyed
        (hinv.free streamId mem_cons_self) hpcps
      dsimp only at h
      split_ifs at h with hst
      · have h := some.inj h
        rw [mk.injEq, mk.injEq] at h
        rw [← h.2.2, hfail (by simpa using hst)]
        exact hR
      · obtain rfl : status₂ = .success := Status.isSuccess_iff.1 (by simpa using hst)
        refine ih config₂ middle (hinv.next hpcps) ?_ (fun a ha => hatts a (.next hpcps ha)) h
        rcases hsucc rfl with ⟨-, -, rfl⟩ | ⟨a, t, frames, ha, rfl, rfl, -, hcompletes⟩
        · exact hR
        · exact hatt a t frames middle (hatts a (.here ha)) hR hcompletes
  exact hstrms ids config ∅ (runInv_init hids) hempty (fun a ha => ⟨ids, hids, ha⟩) h

/-- Every frame of the schedule has the property `P`, every two of them `Q`. -/
structure ScheduleResult.Holds (P : Frame → Prop) (Q : Frame → Frame → Prop)
    (result : ScheduleResult) : Prop where
  single : ∀ key f, result.lookup key = some f → P f
  pair : ∀ key key' f g, key ≠ key' → result.lookup key = some f → result.lookup key' = some g →
    Q f g

theorem ScheduleResult.Holds.setScheduleResult {P : Frame → Prop} {Q : Frame → Frame → Prop}
    {result result' : ScheduleResult} {frame : Frame} (h : result.Holds P Q)
    (hsymm : ∀ f g, Q f g → Q g f)
    (hget : ∀ key, result'.lookup key = (result.setScheduleResult frame).lookup key)
    (hframe : P frame) (hpair : ∀ key g, key ≠ frame.key → result.lookup key = some g → Q frame g) :
    result'.Holds P Q := by
  have hcases : ∀ key f, result'.lookup key = some f →
      (frame.key = key ∧ f = frame) ∨ (frame.key ≠ key ∧ result.lookup key = some f) := by
    intro key f hf
    rw [hget, lookup_setScheduleResult] at hf
    split_ifs at hf with hk
    · exact .inl ⟨hk, (some.inj hf).symm⟩
    · exact .inr ⟨hk, hf⟩
  refine ⟨fun key f hf => ?_, fun key key' f g hne hf hg => ?_⟩
  · rcases hcases key f hf with ⟨-, rfl⟩ | ⟨-, hf⟩
    · exact hframe
    · exact h.single key f hf
  · rcases hcases key f hf with ⟨rfl, rfl⟩ | ⟨hk, hf⟩
    · rcases hcases key' g hg with ⟨rfl, -⟩ | ⟨-, hg⟩
      · exact absurd rfl hne
      · exact hpair key' g hne.symm hg
    · rcases hcases key' g hg with ⟨rfl, rfl⟩ | ⟨-, hg⟩
      · exact hsymm _ _ (hpair key f hne hf)
      · exact h.pair key key' f g hne hf hg

/-- **The rule for a property of the frames**: it does not look at the marks, and a
frame that is received or placed has it, alone and with each frame that is stored. -/
theorem computeSchedule_holds {P : Frame → Prop} {Q : Frame → Frame → Prop}
    (hP : ∀ f g : Frame, f.Marks g → P g → P f)
    (hQ : ∀ f f' g g' : Frame, f.Marks f' → g.Marks g' → Q f' g' → Q f g)
    (hsymm : ∀ f g, Q f g → Q g f)
    (hrecv : ∀ stream (s : RoutingState lib) frame, Searches fuel config stream s →
      s.result.Holds P Q → Receives stream s frame →
      P frame ∧ ∀ key g, key ≠ frame.key → s.result.lookup key = some g → Q frame g)
    (hplace : ∀ stream (s : RoutingState lib) frame r placed, Searches fuel config stream s →
      s.result.Holds P Q → Places stream s frame r →
      placed = considerLinkIsolation lib r stream.cycleTime s.config.reserveTime frame →
      considerQueueIsolation lib r placed = 0 →
      P placed ∧ ∀ key g, key ≠ placed.key → s.result.lookup key = some g → Q placed g)
    (h : computeSchedule lib fuel config = some (status, config', result)) : result.Holds P Q := by
  refine computeSchedule_rule ⟨fun key f hf => by simp at hf, fun key _ f _ _ hf => by simp at hf⟩
    (fun r r' _ _ hsub hr' => ⟨fun key f hf => ?_, fun key key' f g hne hf hg => ?_⟩)
    (fun stream s s' hs hr hround => ?_) h
  · obtain ⟨f', hf', hm⟩ := hsub key f hf
    exact hP f f' hm (hr'.single key f' hf')
  · obtain ⟨f', hf', hm⟩ := hsub key f hf
    obtain ⟨g', hg', hm'⟩ := hsub key' g hg
    exact hQ f f' g g' hm hm' (hr'.pair key key' f' g' hne hf' hg')
  · cases hround with
    | receive frame hreceives _ _ _ hres =>
      obtain ⟨hframe, hpair⟩ := hrecv stream s frame hs hr hreceives
      exact hr.setScheduleResult hsymm (fun key => by rw [hres]) hframe hpair
    | drop frame _ _ _ hget =>
      exact ⟨fun key f hf => hr.single key f (hget key ▸ hf),
        fun key key' f g hne hf hg =>
          hr.pair key key' f g hne (hget key ▸ hf) (hget key' ▸ hg)⟩
    | send frame placed r totalDelay children hplaces hplaced hq _ _ hget =>
      obtain ⟨hframe, hpair⟩ := hplace stream s frame r placed hs hr hplaces hplaced hq
      exact hr.setScheduleResult hsymm hget hframe hpair

/-- **What holds of the configuration and the schedule** whether or not every stream
found its place. -/
theorem of_computeStreams (hinv : RunInv config ids config₁ base)
    (h : computeStreams lib fuel ids .success config₁ base = some (status, config', result)) :
    config.Extends config' ∧ ScheduleInv config result := by
  induction ids generalizing config₁ base with
  | nil =>
    have h := some.inj h
    rw [mk.injEq, mk.injEq] at h
    obtain ⟨-, rfl, rfl⟩ := h
    exact ⟨hinv.extends_config, hinv.schedule⟩
  | cons streamId ids ih =>
    rw [computeStreams] at h
    obtain ⟨⟨status₂, config₂, middle⟩, hpcps, h⟩ := bind_eq_some_iff.1 h
    obtain ⟨hextends, hfail, -⟩ := of_computePcps hinv.extends_config hinv.schedule.keyed
      (hinv.free streamId mem_cons_self) hpcps
    dsimp only at h
    split_ifs at h with hst
    · have h := some.inj h
      rw [mk.injEq, mk.injEq] at h
      obtain ⟨-, rfl, rfl⟩ := h
      rw [hfail (by simpa using hst)]
      exact ⟨hextends, hinv.schedule⟩
    · obtain rfl : status₂ = .success := Status.isSuccess_iff.1 (by simpa using hst)
      exact ih (hinv.next hpcps) h

theorem scheduleInv_of_computeSchedule
    (h : computeSchedule lib fuel config = some (status, config', result)) :
    ScheduleInv config result := by
  simp only [computeSchedule] at h
  obtain ⟨ids, hids, h⟩ := bind_eq_some_iff.1 h
  exact (of_computeStreams (runInv_init hids) h).2

theorem extends_of_computeSchedule
    (h : computeSchedule lib fuel config = some (status, config', result)) :
    config.Extends config' := by
  simp only [computeSchedule] at h
  obtain ⟨ids, hids, h⟩ := bind_eq_some_iff.1 h
  exact (of_computeStreams (runInv_init hids) h).1

/-- Streams that are not scheduled any more keep their frames. -/
theorem lookup_of_computeStreams (hinv : RunInv config ids config₁ base)
    (h : computeStreams lib fuel ids .success config₁ base = some (status, config', result))
    {key : FrameKey} (hkey : key.streamId ∉ ids) : result.lookup key = base.lookup key := by
  induction ids generalizing config₁ base with
  | nil =>
    have h := some.inj h
    rw [mk.injEq, mk.injEq] at h
    rw [h.2.2]
  | cons streamId ids ih =>
    obtain ⟨hne, hnot⟩ := not_or.1 (mem_cons.not.1 hkey)
    rw [computeStreams] at h
    obtain ⟨⟨status₂, config₂, middle⟩, hpcps, h⟩ := bind_eq_some_iff.1 h
    obtain ⟨-, hfail, hsucc⟩ := of_computePcps hinv.extends_config hinv.schedule.keyed
      (hinv.free streamId mem_cons_self) hpcps
    dsimp only at h
    split_ifs at h with hst
    · have h := some.inj h
      rw [mk.injEq, mk.injEq] at h
      rw [← h.2.2, hfail (by simpa using hst)]
    · obtain rfl : status₂ = .success := Status.isSuccess_iff.1 (by simpa using hst)
      rw [ih (hinv.next hpcps) h hnot]
      rcases hsucc rfl with ⟨-, -, rfl⟩ | ⟨a, t, frames, -, rfl, rfl, -, hcompletes⟩
      · rfl
      · exact hcompletes.lookup_other hne

/-- **The attempt by which a stream was scheduled**: its frames are in the schedule
that `ComputeSchedule` returns. -/
theorem exists_attempt {id : ℤ}
    (h : computeSchedule lib fuel config = some (.success, config', result))
    (hid : id ∈ config.scheduleConfigStreams.keys) :
    ∃ a t frames r, Attempts lib fuel config a ∧ a.streamId = id ∧
      Completes lib fuel config a t r frames ∧
      ∀ key : FrameKey, key.streamId = id → result.lookup key = r.lookup key := by
  simp only [computeSchedule] at h
  obtain ⟨ids, hids, h⟩ := bind_eq_some_iff.1 h
  have hpcps : ∀ id ∈ ids, (config.getScheduleConfigStream id).pcps ≠ [] := fun id hid =>
    ScheduleConfig.pcps_ne_nil_of_sortScheduleConfigStreams hids
      (((ScheduleConfig.sortScheduleConfigStreams_spec hids).2 id).1 hid)
  have hmem := ((ScheduleConfig.sortScheduleConfigStreams_spec hids).2 id).2 hid
  have hinv := runInv_init hids
  suffices hstrms : ∀ ids config₁ base, RunInv config ids config₁ base → id ∈ ids →
      (∀ id ∈ ids, (config.getScheduleConfigStream id).pcps ≠ []) →
      (∀ a, AttemptsStream lib fuel ids config₁ base a → Attempts lib fuel config a) →
      computeStreams lib fuel ids .success config₁ base = some (.success, config', result) →
      ∃ a t frames r, Attempts lib fuel config a ∧ a.streamId = id ∧
        Completes lib fuel config a t r frames ∧
        ∀ key : FrameKey, key.streamId = id → result.lookup key = r.lookup key from
    hstrms ids config ∅ hinv hmem hpcps (fun a ha => ⟨ids, hids, ha⟩) h
  clear h hids hpcps hmem hinv hid
  intro ids
  induction ids with
  | nil => exact fun _ _ _ hmem => absurd hmem not_mem_nil
  | cons streamId ids ih =>
    intro config₁ base hinv hmem hpcps hatts h
    rw [computeStreams] at h
    obtain ⟨⟨status₂, config₂, middle⟩, hfirst, hrest⟩ := bind_eq_some_iff.1 h
    dsimp only at hrest
    split_ifs at hrest with hst
    · have hrest := some.inj hrest
      rw [mk.injEq] at hrest
      rw [hrest.1] at hst
      cases hst
    · obtain rfl : status₂ = .success := Status.isSuccess_iff.1 (by simpa using hst)
      rcases mem_cons.1 hmem with rfl | hmem
      · obtain ⟨-, -, hsucc⟩ := of_computePcps hinv.extends_config hinv.schedule.keyed
          (hinv.free id mem_cons_self) hfirst
        rcases hsucc rfl with ⟨hnil, -, -⟩ | ⟨a, t, frames, ha, haid, -, -, hcompletes⟩
        · have hlen := congrArg length hnil
          have hwalk : lib.walk (config₁.getScheduleConfigStream id).pcps = [] :=
            length_eq_zero_iff.1 ((lib.length_sort).symm.trans hlen)
          have hpcps := hpcps id mem_cons_self
          rw [← hinv.extends_config.pcps] at hpcps
          have hperm := lib.walk_perm (config₁.getScheduleConfigStream id).pcps
          rw [hwalk] at hperm
          exact absurd (nil_perm.1 hperm) hpcps
        · refine ⟨a, t, frames, middle, hatts a (.here ha), haid, hcompletes, fun key hkey =>
            ?_⟩
          refine lookup_of_computeStreams (hinv.next hfirst) hrest ?_
          rw [hkey]
          exact (nodup_cons.1 hinv.nodup).1
      · exact ih config₂ middle (hinv.next hfirst) hmem
          (fun id hid => hpcps id (mem_cons_of_mem _ hid))
          (fun a ha => hatts a (.next hfirst ha)) hrest

end

end Algorithm
end Sebastian
