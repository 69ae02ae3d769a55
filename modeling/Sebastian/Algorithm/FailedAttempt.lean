/-
# What a failed attempt leaves

Each attempt of `ComputeSchedule` (`algorithm/src/act_schedule.cpp`) works on a copy of
the schedule, but on the configuration itself.  The searches leave the VLAN allocator in
it alone; `GenerateScheduleStreamRouting` takes the VLAN for the second copies of a FRER
stream before it looks for the way to each listener, and does not give it back when a
listener was not reached.

So a failed attempt leaves nothing behind unless all sequences of a FRER stream had found
their place and there was a VLAN to take (`leavesNoTrace_iff`).
-/

import Sebastian.Algorithm.States

namespace Sebastian
namespace Algorithm

open Sample Option

/-- A round of the loop over the priority code points: the status, and the configuration and
the schedule that `ComputeSchedule` goes on with. -/
def Attempt.compute (lib : Library) (fuel : ℕ) (a : Attempt) :
    Option (Status × ScheduleConfig × ScheduleResult) := do
  let (status, config, result) ←
    computeScheduleStream lib fuel (attemptOf a.config a.streamId a.pcp) a.config a.base
  if status.isSuccess then return (status, config.assignPcp a.streamId a.pcp, result)
  return (status, config, a.base)

/-- The attempt has left the schedule and the VLAN allocator as they were. -/
structure LeavesNoTrace (a : Attempt) (config : ScheduleConfig) (result : ScheduleResult) :
    Prop where
  result : result = a.base
  scheduleConfigVLAN : config.scheduleConfigVLAN = a.config.scheduleConfigVLAN

/-- The loop over the sequences of the stream ends with success. -/
def Attempt.PlacesSequences (lib : Library) (fuel : ℕ) (a : Attempt) : Prop :=
  ∃ t, Loop.run (streamBody lib fuel a.base) fuel a.init = some t ∧ t.status = .success

/-- The attempt comes to a VLAN that it can take: all sequences of a FRER stream have found
their place, and the allocator has a VLAN for the stream. -/
structure Attempt.TakesSplitVlan (lib : Library) (fuel : ℕ) (a : Attempt) : Prop where
  placesSequences : a.PlacesSequences lib fuel
  cbEnable : (a.config.getScheduleConfigStream a.streamId).cbEnable = true
  hasVlan : a.config.scheduleConfigVLAN.HasVlan
    (a.config.getScheduleConfigStream a.streamId).destinationMac

variable {lib : Library} {fuel : ℕ} {config config' : ScheduleConfig} {stream : ScheduleStream}
  {base result : ScheduleResult} {status : Status} {a : Attempt}

/-! ### The searches -/

theorem Round.scheduleConfigVLAN {s s' : RoutingState lib} (h : Round stream s s') :
    s'.config.scheduleConfigVLAN = s.config.scheduleConfigVLAN := by
  cases h with
  | receive _ _ _ _ hconfig => rw [hconfig]
  | drop frame _ _ hconfig =>
    rw [hconfig, touched]
    split_ifs <;> rfl
  | send _ _ _ _ _ _ _ _ hconfig =>
    rw [hconfig]
    rfl

/-- The search of a sequence leaves the allocator alone, whatever it ends with. -/
theorem vlan_of_computeScheduleStreamRouting {r : RoutingExit}
    (h : computeScheduleStreamRouting lib fuel config stream base = some r) :
    r.2.2.1.scheduleConfigVLAN = config.scheduleConfigVLAN := by
  obtain ⟨s₀, s, hinit, hv, hexit⟩ := exists_of_computeScheduleStreamRouting h
  have hs : s.config.scheduleConfigVLAN = config.scheduleConfigVLAN := by
    refine hv.rule (I := fun t => t.config.scheduleConfigVLAN = config.scheduleConfigVLAN) ?_
      fun _ _ _ ht hb => (round_of_next hb).scheduleConfigVLAN.trans ht
    rw [extends_of_routingInit hinit]
  cases hexit with
  | empty => exact hs
  | restart => exact hs

theorem vlan_of_streamBody {fuel' : ℕ} {t t' : StreamState}
    (h : Loop.run (streamBody lib fuel base) fuel' t = some t') :
    t'.config.scheduleConfigVLAN = t.config.scheduleConfigVLAN := by
  have hround : ∀ u : StreamState, match streamBody lib fuel base u with
      | .next u' => u'.config.scheduleConfigVLAN = u.config.scheduleConfigVLAN
      | .done u' => u'.config.scheduleConfigVLAN = u.config.scheduleConfigVLAN
      | .stuck => True := by
    intro u
    unfold streamBody
    by_cases hintv : u.stream.interval = 0
    · rw [if_pos hintv]
      trivial
    rw [if_neg hintv]
    by_cases hseq : u.stream.sequenceId < u.stream.cycleTime.tdiv u.stream.interval
    · rw [if_pos hseq]
      dsimp only
      split_ifs with hcheck
      · rfl
      · cases hrouting : computeScheduleStreamRouting lib fuel u.config u.stream u.result with
        | none => trivial
        | some r =>
          have hvlan := vlan_of_computeScheduleStreamRouting hrouting
          obtain ⟨status, stream, config, result⟩ := r
          dsimp only
          split_ifs <;> exact hvlan
    · rw [if_neg hseq]
  refine Loop.run_rule (I := fun u => u.config.scheduleConfigVLAN = t.config.scheduleConfigVLAN)
    (Q := fun u => u.config.scheduleConfigVLAN = t.config.scheduleConfigVLAN) h rfl
    (fun u u' _ hu hb => ?_) fun u u' _ hu hb => ?_
  · have := hround u
    rw [hb] at this
    exact this.trans hu
  · have := hround u
    rw [hb] at this
    exact this.trans hu

/-! ### The end of an attempt -/

/-- **How an attempt ends**: in the loop over the sequences, or after the VLAN for the second
copies was asked for. -/
theorem exists_of_computeScheduleStream
    (h : computeScheduleStream lib fuel stream config base = some (status, config', result)) :
    ∃ t, Loop.run (streamBody lib fuel base) fuel
        { stream := stream, config := config, result := base, status := .success } = some t ∧
      t.config.scheduleConfigVLAN = config.scheduleConfigVLAN ∧
      (t.status ≠ .success ∧
          config'.scheduleConfigVLAN = config.scheduleConfigVLAN ∨
        t.status = .success ∧ ∃ status₁ splitVlanId,
          generateSplitVlan fuel t.config (t.config.getScheduleConfigStream t.stream.streamId) =
            some (status₁, splitVlanId, config'.scheduleConfigVLAN)) := by
  simp only [computeScheduleStream] at h
  obtain ⟨t, hrun, h⟩ := bind_eq_some_iff.1 h
  have hvlan := vlan_of_streamBody hrun
  refine ⟨t, hrun, hvlan, ?_⟩
  split_ifs at h with hst
  · obtain ⟨-, rfl, -⟩ : t.status = status ∧ t.config = config' ∧ base = result := by
      simpa using h
    exact .inl ⟨fun e => by simp [e] at hst, hvlan⟩
  · have hsucc : t.status = .success := Status.isSuccess_iff.1 (by simpa using hst)
    simp only [generateScheduleStreamRouting] at h
    obtain ⟨⟨status₁, splitVlanId, vlan⟩, hsplit, h⟩ := bind_eq_some_iff.1 h
    refine .inr ⟨hsucc, status₁, splitVlanId, ?_⟩
    dsimp only at h
    split_ifs at h
    · obtain ⟨-, rfl, -⟩ := by simpa using h
      exact hsplit
    · obtain ⟨⟨status₂, result₂⟩, -, h⟩ := bind_eq_some_iff.1 h
      obtain ⟨-, rfl, -⟩ := by simpa using h
      exact hsplit

theorem takenInRange_of_computeScheduleStream
    (h : computeScheduleStream lib fuel stream config base = some (status, config', result))
    (hv : config.scheduleConfigVLAN.TakenInRange) : config'.scheduleConfigVLAN.TakenInRange := by
  obtain ⟨t, -, hvlan, ⟨-, hsame⟩ | ⟨-, status₁, splitVlanId, hsplit⟩⟩ :=
    exists_of_computeScheduleStream h
  · rwa [hsame]
  · unfold generateSplitVlan at hsplit
    rw [hvlan] at hsplit
    split_ifs at hsplit
    · obtain ⟨found, hfound⟩ := ScheduleConfigVLAN.exists_assign_of_generate hsplit
      have hassign := ScheduleConfigVLAN.TakenInRange.assign hv
        (t.config.getScheduleConfigStream t.stream.streamId).destinationMac found
      rwa [hfound] at hassign
    · obtain ⟨-, -, heq⟩ := by simpa using hsplit
      rwa [← heq]

theorem takenInRange_of_computePcps {streamId : ℤ} {pcps : List UInt8} {status' : Status}
    (h : computePcps lib fuel streamId pcps status config base = some (status', config', result))
    (hv : config.scheduleConfigVLAN.TakenInRange) : config'.scheduleConfigVLAN.TakenInRange := by
  induction pcps generalizing status config with
  | nil =>
    obtain ⟨-, rfl, -⟩ := by simpa [computePcps] using h
    exact hv
  | cons pcp pcps ih =>
    rw [computePcps] at h
    obtain ⟨⟨status₁, config₁, attempt⟩, hatt, h⟩ := bind_eq_some_iff.1 h
    have hv₁ := takenInRange_of_computeScheduleStream hatt hv
    dsimp only at h
    split_ifs at h
    · obtain ⟨-, rfl, -⟩ := by simpa using h
      exact hv₁
    · exact ih h hv₁

theorem AttemptsPcp.takenInRange {streamId : ℤ} {pcps : List UInt8}
    (h : AttemptsPcp lib fuel streamId base pcps config a)
    (hv : config.scheduleConfigVLAN.TakenInRange) : a.config.scheduleConfigVLAN.TakenInRange := by
  induction h with
  | here => exact hv
  | next hatt _ _ ih => exact ih (takenInRange_of_computeScheduleStream hatt hv)

theorem AttemptsStream.takenInRange {ids : List ℤ} (h : AttemptsStream lib fuel ids config base a)
    (hv : config.scheduleConfigVLAN.TakenInRange) : a.config.scheduleConfigVLAN.TakenInRange := by
  induction h with
  | here hpcp => exact hpcp.takenInRange hv
  | next hpcps _ ih => exact ih (takenInRange_of_computePcps hpcps hv)

/-- **In every attempt of a run** the VLANs that are taken are ids of the range. -/
theorem Attempts.takenInRange (h : Attempts lib fuel config a)
    (hv : config.scheduleConfigVLAN.TakenInRange) : a.config.scheduleConfigVLAN.TakenInRange := by
  obtain ⟨ids, -, hatts⟩ := h
  exact hatts.takenInRange hv

/-- **A failed attempt leaves no trace** exactly when it does not come to a VLAN that it can
take.  The schedule is a copy; the VLAN is taken before the ways to the listeners are looked
for. -/
theorem leavesNoTrace_iff {fuel' : ℕ} {project : Project}
    (hprepare : ScheduleConfig.prepareScheduleConfig fuel' project = .ok config)
    (ha : Attempts lib fuel config a)
    (h : a.compute lib fuel = some (status, config', result)) (hfail : status ≠ .success) :
    LeavesNoTrace a config' result ↔ ¬a.TakesSplitVlan lib fuel := by
  have hinv := ha.inv.1
  have htaken := ha.takenInRange (ScheduleConfig.takenInRange_of_prepareScheduleConfig hprepare)
  simp only [Attempt.compute] at h
  obtain ⟨⟨status₁, config₁, attempt⟩, hatt, h⟩ := bind_eq_some_iff.1 h
  have hne : status₁.isSuccess ≠ true := by
    intro hs
    simp only [hs, if_true] at h
    obtain ⟨rfl, -, -⟩ : status₁ = status ∧ _ ∧ attempt = result := by simpa using h
    exact hfail (Status.isSuccess_iff.1 hs)
  obtain ⟨rfl, rfl, rfl⟩ : status₁ = status ∧ config₁ = config' ∧ a.base = result := by
    simpa [hne] using h
  obtain ⟨t, hrun, hvlan, hend⟩ := exists_of_computeScheduleStream hatt
  have hplaces : a.PlacesSequences lib fuel ↔ t.status = .success := by
    constructor
    · rintro ⟨t', hrun', hsucc⟩
      obtain rfl := some.inj (hrun'.symm.trans hrun)
      exact hsucc
    · exact fun hsucc => ⟨t, hrun, hsucc⟩
  have htrace : LeavesNoTrace a config₁ a.base ↔
      config₁.scheduleConfigVLAN = a.config.scheduleConfigVLAN :=
    ⟨fun hl => hl.2, fun he => ⟨rfl, he⟩⟩
  rw [htrace]
  rcases hend with ⟨hst, hsame⟩ | ⟨hst, status₂, splitVlanId, hsplit⟩
  · exact iff_of_true hsame fun htakes => hst (hplaces.1 htakes.placesSequences)
  -- the loop over the sequences was left at its head
  obtain ⟨u, hvis, hdone⟩ := Loop.exists_of_run hrun
  obtain ⟨rfl, -, -⟩ := (eq_of_done hdone).2 hst
  have hu : StreamInv config a t := .visits hinv hvis
  have hstrm := hu.extends_config.stream a.streamId
  have hstrm' := hinv.extends_config.stream a.streamId
  rw [generateSplitVlan, hvlan, hu.streamId] at hsplit
  have hcb : (t.config.getScheduleConfigStream a.streamId).cbEnable =
      (a.config.getScheduleConfigStream a.streamId).cbEnable := by
    rw [hstrm, hstrm']
  have hmac : (t.config.getScheduleConfigStream a.streamId).destinationMac =
      (a.config.getScheduleConfigStream a.streamId).destinationMac := by
    rw [hstrm, hstrm']
  rw [hcb, hmac] at hsplit
  by_cases hfrer : (a.config.getScheduleConfigStream a.streamId).cbEnable = true
  · rw [if_pos hfrer] at hsplit
    rw [ScheduleConfigVLAN.generate_unchanged_iff htaken hsplit]
    exact not_congr ⟨fun hhas => ⟨hplaces.2 hst, hfrer, hhas⟩, fun htakes => htakes.hasVlan⟩
  · rw [if_neg hfrer] at hsplit
    obtain ⟨-, -, heq⟩ := by simpa using hsplit
    exact iff_of_true heq.symm fun htakes => hfrer htakes.cbEnable

/-! ### A listener that is not reached -/

/-- A FRER stream with a listener at the switch and one on an island of two stations. -/
def islands : Project :=
  { devices := [station 1 "a", station 2 "b",
      { switch 3 "c" 2 with deviceProperty := { features with ieee802Dot1CB := true } },
      station 4 "d", station 5 "e"]
    links := [cable 1 1 3 1 1000, cable 2 2 3 2 1000, cable 3 4 5 1 1000]
    trafficDesign := trafficDesign
      [{ application 1 6 46 0 1000 with tsn := { active := true, frer := true } }]
      [Sample.stream 1 1 [2, 4]] }

/-- The only attempt fails, and the cursor of the allocator has moved. -/
theorem exists_attempt_islands :
    ∃ (config config' : ScheduleConfig) (status : Status) (result : ScheduleResult),
      ScheduleConfig.prepareScheduleConfig 100 islands = .ok config ∧
      Attempts .reference 100 config ⟨1, 6, config, ∅⟩ ∧
      Attempt.compute .reference 100 ⟨1, 6, config, ∅⟩ = some (status, config', result) ∧
      status ≠ .success ∧
      config.scheduleConfigVLAN.lastAssignVlan ≠ config'.scheduleConfigVLAN.lastAssignVlan := by
  obtain ⟨config, hprep, hcheck⟩ := exists_of_prepareScheduleConfig islands (fun config =>
    decide (config.sortScheduleConfigStreams .reference = some [1]) &&
    decide (pcpsOf .reference (config.getScheduleConfigStream 1) = [6]) &&
    (Attempt.compute .reference 100 ⟨1, 6, config, ∅⟩).any
      fun (r : Status × ScheduleConfig × ScheduleResult) =>
        decide (r.1 ≠ .success ∧ config.scheduleConfigVLAN.lastAssignVlan ≠
          r.2.1.scheduleConfigVLAN.lastAssignVlan)) (by decide +kernel)
  simp only [Bool.and_eq_true, decide_eq_true_eq] at hcheck
  obtain ⟨⟨hsort, hpcps⟩, hcheck⟩ := hcheck
  obtain ⟨⟨status, config', result⟩, hcomp, hcheck⟩ := (any_eq_true _ _).1 hcheck
  obtain ⟨hfail, hmoved⟩ := of_decide_eq_true hcheck
  exact ⟨config, config', status, result, hprep, attempts_of_single hsort hpcps, hcomp,
    hfail, hmoved⟩

/-- **A failed attempt that keeps its VLAN.**  The listener on the island is found not to be
reached only after the VLAN was taken. -/
theorem not_leavesNoTrace_islands :
    ¬∀ (lib : Library) (fuel fuel' : ℕ) (project : Project) (config config' : ScheduleConfig)
      (a : Attempt) (status : Status) (result : ScheduleResult),
      ScheduleConfig.prepareScheduleConfig fuel' project = .ok config →
      Attempts lib fuel config a → a.compute lib fuel = some (status, config', result) →
      status ≠ .success → LeavesNoTrace a config' result := by
  intro hall
  obtain ⟨config, config', status, result, hprep, ha, hcomp, hfail, hmoved⟩ :=
    exists_attempt_islands
  have htrace := hall .reference 100 100 islands config config' _ status result hprep ha
    hcomp hfail
  exact hmoved (congrArg ScheduleConfigVLAN.lastAssignVlan htrace.scheduleConfigVLAN).symm

theorem leavesNoTrace_iff_islands :
    ∃ (config config' : ScheduleConfig) (status : Status) (result : ScheduleResult),
      status ≠ .success ∧
      (LeavesNoTrace ⟨1, 6, config, ∅⟩ config' result ↔
        ¬Attempt.TakesSplitVlan .reference 100 ⟨1, 6, config, ∅⟩) := by
  obtain ⟨config, config', status, result, hprep, ha, hcomp, hfail, -⟩ :=
    exists_attempt_islands
  exact ⟨config, config', status, result, hfail, leavesNoTrace_iff hprep ha hcomp hfail⟩

end Algorithm
end Sebastian
