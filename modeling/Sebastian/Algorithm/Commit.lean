/-
# Storing the paths of a stream

`GenerateScheduleStreamRouting` follows every reception of a stream back to its
talker and stores the frames it meets, with their VLAN and FRER type, in the
schedule of the streams before it.  What it stores is a set of frames of the
search (`Committed`) that is closed under predecessors, has a reception for each
sequence that the search received at a listener, and nothing where there is no
reception (`committed_of_generateScheduleStreamRouting`).

A round of the way back adds the frame it meets (`TraceInv.meet`), and the frame
it leaves has its predecessor among the met ones; the search gave the frames of a
sequence ids of their own (`Traceable`), so that no frame is lost in the sets by
frame id.
-/

import Sebastian.Algorithm.ScheduleStream

namespace Sebastian
namespace Algorithm

open List Option QMap

variable {f : Frame} {config : ScheduleConfig} {d : ℤ} {fuel : ℕ} {splitVlanId : UInt16}
  {sequence : ScheduleResultSequence}

variable {lib : Library}

/-! ### Frames that differ in their marks -/

/-- The frame is the other one, but for the VLAN and the FRER type. -/
def Frame.Marks (frame other : Frame) : Prop :=
  frame = { other with vlanId := frame.vlanId, frerType := frame.frerType }

theorem Frame.Marks.refl (frame : Frame) : frame.Marks frame := rfl

theorem Frame.Marks.key {g : Frame} (h : f.Marks g) : f.key = g.key := by rw [h]; rfl

theorem Frame.Marks.prevKey {g : Frame} (h : f.Marks g) : f.prevKey = g.prevKey := by rw [h]; rfl

/-! ### Storing the frames that were met -/

/-- The second schedule is the first one with the frames `frames`, marked. -/
structure Commits (frames : Frame → Prop) (result result' : ScheduleResult) : Prop where
  origin : ∀ key g, result'.lookup key = some g →
    result.lookup key = some g ∨ ∃ f, frames f ∧ f.key = key ∧ g.Marks f
  stored : ∀ f, frames f → (result'.lookup f.key).isSome
  kept : ∀ key, (result.lookup key).isSome → (result'.lookup key).isSome
  streams : ∀ d i q s, result'.isStreamExist d i q s = true ↔
    result.isStreamExist d i q s = true ∨
      ∃ f, frames f ∧ f.deviceId = d ∧ f.egressInterfaceId = i ∧ f.queueId = q ∧ f.streamId = s

namespace Commits

variable {frames frames' : Frame → Prop} {result result' result'' : ScheduleResult}

theorem none (result : ScheduleResult) : Commits (fun _ => False) result result :=
  ⟨fun _ _ h => .inl h, fun _ h => h.elim, fun _ h => h, fun _ _ _ _ => by simp⟩

theorem single (vlanId : UInt16) (frerType : FrerType) : Commits (· = f) result
      (result.setScheduleResult { f with vlanId := vlanId, frerType := frerType }) where
  origin key g hg := by
    rw [ScheduleResult.lookup_setScheduleResult] at hg
    split_ifs at hg with hk
    · cases hg
      exact .inr ⟨f, rfl, hk, rfl⟩
    · exact .inl hg
  stored g hg := by
    subst hg
    rw [ScheduleResult.lookup_setScheduleResult]
    split_ifs with hk
    · rfl
    · exact absurd rfl hk
  kept key hkey := by
    rw [ScheduleResult.lookup_setScheduleResult]
    split_ifs
    · rfl
    · exact hkey
  streams d i q s := by
    rw [ScheduleResult.isStreamExist_setScheduleResult]
    simp

theorem append (h : Commits frames result result') (h' : Commits frames' result' result'') :
    Commits (fun f => frames f ∨ frames' f) result result'' where
  origin key g hg := by
    rcases h'.origin key g hg with hg | ⟨f, hf, hk, hm⟩
    · rcases h.origin key g hg with hg | ⟨f, hf, hk, hm⟩
      · exact .inl hg
      · exact .inr ⟨f, .inl hf, hk, hm⟩
    · exact .inr ⟨f, .inr hf, hk, hm⟩
  stored f hf := by
    rcases hf with hf | hf
    · exact h'.kept _ (h.stored f hf)
    · exact h'.stored f hf
  kept key hkey := h'.kept key (h.kept key hkey)
  streams d i q s := by
    rw [h'.streams, h.streams]
    constructor
    · rintro ((hs | ⟨f, hf, hp⟩) | ⟨f, hf, hp⟩)
      · exact .inl hs
      · exact .inr ⟨f, .inl hf, hp⟩
      · exact .inr ⟨f, .inr hf, hp⟩
    · rintro (hs | ⟨f, hf | hf, hp⟩)
      · exact .inl (.inl hs)
      · exact .inl (.inr ⟨f, hf, hp⟩)
      · exact .inr ⟨f, hf, hp⟩

theorem congr (h : Commits frames result result') (hiff : ∀ f, frames f ↔ frames' f) :
    Commits frames' result result' := by
  obtain rfl : frames = frames' := funext fun f => propext (hiff f)
  exact h

theorem foldl {l : List Frame} (vlanId : Frame → UInt16) (frerType : FrerType) :
    Commits (· ∈ l) result (l.foldl (fun result frame => result.setScheduleResult
      { frame with vlanId := vlanId frame, frerType := frerType }) result) := by
  refine Loop.foldl_rule (I := fun passed r => Commits (· ∈ passed) result r) ?_ ?_
  · exact (none result).congr fun f => by simp
  · intro passed frame _ _ h
    exact (h.append (single (vlanId frame) frerType)).congr fun f => by simp

end Commits

theorem commits_of_storeDevice {t : TraceState} {result result' : ScheduleResult} {deviceId : ℤ}
    (h : storeDevice lib config t result deviceId = some result') :
    Commits (· ∈ t.frameMap.value deviceId) result result' := by
  simp only [storeDevice] at h
  obtain ⟨frerType, -, h⟩ := bind_eq_some_iff.1 h
  cases h
  refine (Commits.foldl (fun frame =>
    (t.vlanMap.value deviceId).value frame.egressInterfaceId) frerType).congr fun f => ?_
  exact Library.mem_walk lib

/-- The frames met on the devices of a list are stored. -/
theorem commits_of_storeDevices {t : TraceState} {devices : List ℤ}
    {result result' : ScheduleResult}
    (h : foldlM (storeDevice lib config t) result devices = some result') :
    Commits (fun f => ∃ d ∈ devices, f ∈ t.frameMap.value d) result result' := by
  induction devices generalizing result with
  | nil =>
    obtain rfl := some.inj h
    exact (Commits.none result).congr fun f => by simp
  | cons d devices ih =>
    rw [foldlM_cons] at h
    obtain ⟨middle, hd, h⟩ := bind_eq_some_iff.1 h
    exact ((commits_of_storeDevice hd).append (ih h)).congr fun f => by simp

/-! ### The way back to the talker -/

/-- What the way back needs of the search: every frame of the stream off the
talker's device has its predecessor, and the frames of a sequence have ids of
their own. -/
structure Traceable (working : ScheduleResult) (streamId talkerId : ℤ) : Prop where
  keyed : working.Keyed
  prev : ∀ f, f.streamId = streamId → working.lookup f.key = some f → f.deviceId ≠ talkerId →
    ∃ prev, working.lookup f.prevKey = some prev
  unique : ∀ f g, f.streamId = streamId → g.streamId = streamId → f.sequenceId = g.sequenceId →
    working.lookup f.key = some f → working.lookup g.key = some g →
    f.frameId = g.frameId → f = g

/-- A frame was met on the way. -/
def TraceState.Met (t : TraceState) (frame : Frame) : Prop :=
  frame ∈ t.frameMap.value frame.deviceId

/-- The frame belongs to one sequence of the stream in the search. -/
structure Frame.InSequence (frame : Frame) (working : ScheduleResult) (streamId sequenceId : ℤ) :
    Prop where
  streamId : frame.streamId = streamId
  sequenceId : frame.sequenceId = sequenceId
  lookup : working.lookup frame.key = some frame

/-- **The invariant of the way back**: what was met is stored in the search, and
has its predecessor among the met frames unless it is on the talker's device or
one of `pending`. -/
structure TraceInv (working : ScheduleResult) (streamId talkerId sequenceId : ℤ)
    (t : TraceState) (pending : Frame → Prop) : Prop where
  device : ∀ d, ∀ f ∈ t.frameMap.value d, f.deviceId = d ∧ d ∈ t.txMap.keys
  stored : ∀ f, t.Met f → f.InSequence working streamId sequenceId
  closed : ∀ f, t.Met f → f.deviceId = talkerId ∨ pending f ∨ ∃ prev, t.Met prev ∧ prev.key =
    f.prevKey

section
variable {working : ScheduleResult} {streamId talkerId sequenceId : ℤ} {t t' : TraceState}
  {pending : Frame → Prop} {frame : Frame} {vlanId : UInt16}

theorem mem_frameMap_meet (h : f ∈ (t.meet vlanId frame).frameMap.value d) :
    f ∈ t.frameMap.value d ∨ (d = frame.deviceId ∧ f = frame) := by
  simp only [TraceState.meet, value_update] at h
  split_ifs at h with hd
  · subst hd
    exact (QSet.mem_or_eq_of_mem_insert h).imp_right fun hf => ⟨rfl, hf⟩
  · exact .inl h

theorem mem_frameMap_of_meet (h : f ∈ t.frameMap.value d) :
    f ∈ (t.meet vlanId frame).frameMap.value d := by
  simp only [TraceState.meet, value_update]
  split_ifs with hd
  · subst hd
    exact QSet.mem_insert_of_mem h
  · exact h

/-- The frame is met then, if the sets have no other one of its id. -/
theorem met_meet (h : ∀ g ∈ t.frameMap.value frame.deviceId, g.frameId = frame.frameId → g =
    frame) : (t.meet vlanId frame).Met frame := by
  simp only [TraceState.Met, TraceState.meet, value_update, if_true]
  unfold QSet.insert
  split_ifs with hc
  · obtain ⟨g, hg, he⟩ := any_eq_true.1 hc
    exact h g hg (beq_iff_eq.1 he) ▸ hg
  · exact mem_append_right _ (mem_singleton_self _)

theorem mem_txMap_meet :
    d ∈ (t.meet vlanId frame).txMap.keys ↔ frame.deviceId = d ∨ d ∈ t.txMap.keys := by
  simp only [TraceState.meet, Std.TreeMap.mem_keys, ← Std.TreeMap.contains_iff_mem,
    contains_update, Bool.or_eq_true, decide_eq_true_eq]

/-- **Meeting a frame** of the sequence, the predecessor of those that were pending. -/
theorem TraceInv.meet (h : TraceInv working streamId talkerId sequenceId t pending)
    (htrace : Traceable working streamId talkerId)
    (hframe : frame.InSequence working streamId sequenceId)
    (hpending : ∀ f, pending f → frame.key = f.prevKey) :
    TraceInv working streamId talkerId sequenceId (t.meet vlanId frame) (· = frame) ∧
      (t.meet vlanId frame).Met frame := by
  have hmet : (t.meet vlanId frame).Met frame := by
    refine met_meet fun g hg hid => ?_
    obtain ⟨hd, -⟩ := h.device _ g hg
    have hin := h.stored g (by rw [TraceState.Met, hd]; exact hg)
    exact htrace.unique g frame hin.streamId hframe.streamId
      (hin.sequenceId.trans hframe.sequenceId.symm) hin.lookup hframe.lookup hid
  have hcases : ∀ f, (t.meet vlanId frame).Met f → t.Met f ∨ f = frame := fun f hf =>
    (mem_frameMap_meet hf).imp_right fun h => h.2
  refine ⟨⟨fun d f hf => ?_, fun f hf => ?_, fun f hf => ?_⟩, hmet⟩
  · rw [mem_txMap_meet]
    rcases mem_frameMap_meet hf with hf | ⟨rfl, rfl⟩
    · exact ⟨(h.device d f hf).1, .inr (h.device d f hf).2⟩
    · exact ⟨rfl, .inl rfl⟩
  · rcases hcases f hf with hf | rfl
    · exact h.stored f hf
    · exact hframe
  · rcases hcases f hf with hf | rfl
    · rcases h.closed f hf with hd | hp | ⟨prev, hprev, hk⟩
      · exact .inl hd
      · exact .inr (.inr ⟨frame, hmet, hpending f hp⟩)
      · exact .inr (.inr ⟨prev, mem_frameMap_of_meet hprev, hk⟩)
    · exact .inr (.inl rfl)

/-- The predecessor of a frame belongs to the same sequence. -/
theorem Frame.InSequence.prev {prev : Frame} (h : frame.InSequence working streamId sequenceId)
    (hkeyed : working.Keyed) (hprev : working.lookup frame.prevKey = some prev) :
    prev.key = frame.prevKey ∧ prev.InSequence working streamId sequenceId := by
  have hkey := hkeyed _ _ hprev
  refine ⟨hkey, ?_, ?_, by rw [hkey]; exact hprev⟩
  · rw [← h.streamId]
    exact congrArg FrameKey.streamId hkey
  · rw [← h.sequenceId]
    exact congrArg FrameKey.sequenceId hkey

/-- **The way back from a frame** meets all that is behind it. -/
theorem TraceInv.run {stream : ScheduleConfigStream}
    (h : TraceInv working streamId stream.talker.deviceId sequenceId t (· = frame))
    (hmet : t.Met frame) (htrace : Traceable working streamId stream.talker.deviceId)
    (hrun : Loop.run (traceBody working stream) fuel (frame, t) = some t') :
    TraceInv working streamId stream.talker.deviceId sequenceId t' (fun _ => False) ∧
      ∀ f, t.Met f → t'.Met f := by
  have hvis : ∀ s, Loop.Visits (traceBody working stream) (frame, t) s →
      TraceInv working streamId stream.talker.deviceId sequenceId s.2 (· = s.1) ∧ s.2.Met s.1 ∧
        ∀ f, t.Met f → s.2.Met f := by
    intro s hv
    refine hv.rule (I := fun s =>
      TraceInv working streamId stream.talker.deviceId sequenceId s.2 (· = s.1) ∧ s.2.Met s.1 ∧
        ∀ f, t.Met f → s.2.Met f) ⟨h, hmet, fun _ => id⟩ ?_
    rintro ⟨f, t₁⟩ u - ⟨h₁, hmet₁, hkept⟩ hb
    simp only [traceBody] at hb
    split_ifs at hb with hd
    obtain rfl := Iter.next.inj hb
    have hin := h₁.stored f hmet₁
    obtain ⟨prev, hprev⟩ := htrace.prev f hin.streamId hin.lookup hd
    have hget : working.getFrame f.prevKey = prev := by rw [ScheduleResult.getFrame, hprev]; rfl
    obtain ⟨hkey, hin'⟩ := hin.prev htrace.keyed hprev
    rw [hget]
    obtain ⟨h₂, hmet₂⟩ := h₁.meet htrace hin' fun g hg => by rw [hg, hkey]
    exact ⟨h₂, hmet₂, fun g hg => mem_frameMap_of_meet (hkept g hg)⟩
  obtain ⟨⟨f, t₁⟩, hv, hb⟩ := Loop.exists_of_run hrun
  obtain ⟨h₁, -, hkept⟩ := hvis _ hv
  simp only [traceBody] at hb
  split_ifs at hb with hd
  obtain rfl := Iter.done.inj hb
  refine ⟨⟨h₁.device, h₁.stored, fun g hg => ?_⟩, hkept⟩
  rcases h₁.closed g hg with hg | rfl | hg
  · exact .inl hg
  · exact .inl (not_not.1 hd)
  · exact .inr (.inr hg)

/-- The frame came in through the interface of the listener. -/
def Frame.Enters (frame : Frame) (listener : ScheduleConfigInterface) : Prop :=
  frame.ingressInterfaceId = listener.interfaceId

/-- **The receptions of a sequence** are followed back, if there are any. -/
theorem TraceInv.traceFrames {stream : ScheduleConfigStream} {listener : ScheduleConfigInterface}
    {frames : List Frame}
    (h : TraceInv working streamId stream.talker.deviceId sequenceId t (fun _ => False))
    (htrace : Traceable working streamId stream.talker.deviceId)
    (hframes : ∀ f ∈ frames, f.InSequence working streamId sequenceId)
    (hrun : traceFrames fuel working stream splitVlanId listener frames t = some t') :
    TraceInv working streamId stream.talker.deviceId sequenceId t' (fun _ => False) ∧
      (∀ f, t.Met f → t'.Met f) ∧
      (∀ f ∈ frames, f.Enters listener → ∃ g ∈ frames, g.Enters listener ∧ t'.Met g) ∧
      ∀ f, t'.Met f → t.Met f ∨ ∃ g ∈ frames, g.Enters listener ∧ t'.Met g := by
  induction frames generalizing t with
  | nil =>
    cases hrun
    exact ⟨h, fun _ hf => hf, fun f hf => absurd hf not_mem_nil, fun _ hf => .inl hf⟩
  | cons frame frames ih =>
    have hrest : ∀ f ∈ frames, f.InSequence working streamId sequenceId := fun f hf =>
      hframes f (mem_cons_of_mem _ hf)
    rw [Algorithm.traceFrames] at hrun
    by_cases hingress : frame.ingressInterfaceId ≠ listener.interfaceId
    · rw [if_pos hingress] at hrun
      obtain ⟨hinv, hkept, hrecvd, hmet⟩ := ih h hrest hrun
      refine ⟨hinv, hkept, fun f hf hat => ?_, fun f hf => ?_⟩
      · rcases mem_cons.1 hf with rfl | hf
        · exact absurd hat hingress
        · obtain ⟨g, hg, hgat⟩ := hrecvd f hf hat
          exact ⟨g, mem_cons_of_mem _ hg, hgat⟩
      · rcases hmet f hf with hf | ⟨g, hg, hgat⟩
        · exact .inl hf
        · exact .inr ⟨g, mem_cons_of_mem _ hg, hgat⟩
    · rw [if_neg hingress] at hrun
      have hat : frame.Enters listener := not_not.1 hingress
      obtain ⟨t₁, hback, hrun⟩ := bind_eq_some_iff.1 hrun
      obtain ⟨hinv₁, hmet₁⟩ := h.meet htrace
        (hframes frame mem_cons_self) fun f hf => hf.elim
      obtain ⟨hinv₂, hkept₂⟩ := hinv₁.run hmet₁ htrace hback
      -- whatever follows, the first reception has been met
      suffices hsuffices : TraceInv working streamId stream.talker.deviceId sequenceId t'
          (fun _ => False) ∧ ∀ f, t₁.Met f → t'.Met f by
        obtain ⟨hinv, hkept⟩ := hsuffices
        have hmet' : t'.Met frame := hkept _ (hkept₂ _ hmet₁)
        exact ⟨hinv, fun f hf => hkept f (hkept₂ f (mem_frameMap_of_meet hf)),
          fun _ _ _ => ⟨frame, mem_cons_self, hat, hmet'⟩,
          fun _ _ => .inr ⟨frame, mem_cons_self, hat, hmet'⟩⟩
      by_cases hcb : (!stream.cbEnable) = true
      · rw [if_pos hcb] at hrun
        cases hrun
        exact ⟨hinv₂, fun _ => id⟩
      · rw [if_neg hcb] at hrun
        obtain ⟨hinv, hkept, -, -⟩ := ih
          (t := { t₁ with vlanId := if t₁.vlanId ≠ stream.vlanId then stream.vlanId else splitVlanId })
          ⟨hinv₂.device, hinv₂.stored, hinv₂.closed⟩ hrest hrun
        exact ⟨hinv, hkept⟩

end

/-! ### All listeners -/

/-- Frames of the stream in the search, with all that is behind them. -/
structure Closed (working : ScheduleResult) (streamId talkerId : ℤ) (frames : Frame → Prop) :
    Prop where
  stored : ∀ f, frames f → f.streamId = streamId ∧ working.lookup f.key = some f
  prev : ∀ f, frames f → f.deviceId = talkerId ∨ ∃ prev, frames prev ∧ prev.key = f.prevKey

/-- The frames collected for some sequences of a listener: a reception of each
sequence that has one, and nothing where there is none. -/
structure Collects (listener : ScheduleConfigInterface) (sequences : List ScheduleResultSequence)
    (frames : Frame → Prop) : Prop where
  received : ∀ sequence ∈ sequences, ∀ f ∈ QMap.vals sequence, f.Enters listener →
    ∃ g ∈ QMap.vals sequence, g.Enters listener ∧ frames g
  reception : ∀ f, frames f →
    ∃ sequence ∈ sequences, ∃ g ∈ QMap.vals sequence, g.Enters listener ∧ frames g

/-- The frame is received at the listener. -/
structure Frame.ReceivedAt (frame : Frame) (listener : ScheduleConfigInterface) : Prop where
  device : frame.deviceId = listener.deviceId
  egress : frame.egressInterfaceId = listener.interfaceId
  enters : frame.Enters listener

/-- **What is stored for a stream.** -/
structure Committed (stream : ScheduleStream) (configStream : ScheduleConfigStream)
    (listeners : List ScheduleConfigInterface) (working result result' : ScheduleResult)
    (frames : Frame → Prop) : Prop
    extends Closed working stream.streamId configStream.talker.deviceId frames where
  commits : Commits frames result result'
  /-- A sequence that the search received at a listener is received there. -/
  received : ∀ listener ∈ listeners, ∀ f, f.ReceivedAt listener →
    f.streamId = stream.streamId → f.queueId = stream.queueId → working.lookup f.key = some f →
    ∃ g, frames g ∧ g.ReceivedAt listener ∧ g.sequenceId = f.sequenceId
  /-- Nothing is stored without a reception. -/
  reception : ∀ f, frames f → ∃ listener ∈ listeners, ∃ g, frames g ∧ g.ReceivedAt listener
  exist : ∀ listener ∈ listeners, result'.isStreamExist listener.deviceId listener.interfaceId
    stream.queueId stream.streamId = true

section
variable {working : ScheduleResult} {streamId talkerId : ℤ} {frames frames' : Frame → Prop}
  {listener : ScheduleConfigInterface}

theorem Closed.none : Closed working streamId talkerId fun _ => False :=
  ⟨fun _ h => h.elim, fun _ h => h.elim⟩

theorem Closed.or (h : Closed working streamId talkerId frames)
    (h' : Closed working streamId talkerId frames') :
    Closed working streamId talkerId fun f => frames f ∨ frames' f where
  stored f hf := hf.elim (h.stored f) (h'.stored f)
  prev f hf := by
    rcases hf with hf | hf
    · exact (h.prev f hf).imp_right fun ⟨prev, hprev, hk⟩ => ⟨prev, .inl hprev, hk⟩
    · exact (h'.prev f hf).imp_right fun ⟨prev, hprev, hk⟩ => ⟨prev, .inr hprev, hk⟩

theorem Collects.cons {sequences : List ScheduleResultSequence}
    (h : Collects listener [sequence] frames) (h' : Collects listener sequences frames') :
    Collects listener (sequence :: sequences) fun f => frames f ∨ frames' f where
  received s hs f hf hat := by
    rcases mem_cons.1 hs with rfl | hs
    · obtain ⟨g, hg, hgat, hgf⟩ := h.received s (mem_singleton_self s) f hf hat
      exact ⟨g, hg, hgat, .inl hgf⟩
    · obtain ⟨g, hg, hgat, hgf⟩ := h'.received s hs f hf hat
      exact ⟨g, hg, hgat, .inr hgf⟩
  reception f hf := by
    rcases hf with hf | hf
    · obtain ⟨s, hs, g, hg, hgat, hgf⟩ := h.reception f hf
      obtain rfl := mem_singleton.1 hs
      exact ⟨s, mem_cons_self, g, hg, hgat, .inl hgf⟩
    · obtain ⟨s, hs, g, hg, hgat, hgf⟩ := h'.reception f hf
      exact ⟨s, mem_cons_of_mem _ hs, g, hg, hgat, .inr hgf⟩

theorem exists_of_generateSequence {stream : ScheduleConfigStream} {sequenceId : ℤ}
    {acc acc' : QMap ℤ (QMap ℤ UInt16) × ScheduleResult}
    (htrace : Traceable working streamId stream.talker.deviceId)
    (hseq : ∀ f ∈ vals sequence, f.InSequence working streamId sequenceId)
    (h : generateSequence lib fuel config stream splitVlanId working listener acc sequence =
      some acc') : ∃ frames, Commits frames acc.2 acc'.2 ∧
      Closed working streamId stream.talker.deviceId frames ∧
      Collects listener [sequence] frames := by
  simp only [generateSequence] at h
  obtain ⟨t, ht, h⟩ := bind_eq_some_iff.1 h
  obtain ⟨result, hstore, h⟩ := bind_eq_some_iff.1 h
  cases h
  have hempty : ∀ d f, f ∉ (∅ : QMap ℤ (QSet Frame)).value d := by simp
  have hinit : TraceInv working streamId stream.talker.deviceId sequenceId
      { vlanId := stream.vlanId, vlanMap := acc.1 } (fun _ => False) :=
    ⟨fun d f hf => absurd hf (hempty d f), fun f hf => absurd hf (hempty _ f),
      fun f hf => absurd hf (hempty _ f)⟩
  obtain ⟨hinv, -, hrecvd, hmet⟩ := hinit.traceFrames htrace hseq ht
  refine ⟨t.Met, (commits_of_storeDevices hstore).congr fun f => ⟨?_, fun hf => ?_⟩, ⟨?_, ?_⟩, ?_⟩
  · rintro ⟨d, -, hf⟩
    rw [TraceState.Met, (hinv.device d f hf).1]
    exact hf
  · exact ⟨f.deviceId, (hinv.device _ f hf).2, hf⟩
  · exact fun f hf => ⟨(hinv.stored f hf).streamId, (hinv.stored f hf).lookup⟩
  · intro f hf
    rcases hinv.closed f hf with hd | hp | hprev
    · exact .inl hd
    · exact hp.elim
    · exact .inr hprev
  · refine ⟨fun s hs => ?_, fun f hf => ?_⟩
    · obtain rfl := mem_singleton.1 hs
      exact hrecvd
    · rcases hmet f hf with hf | hg
      · exact absurd hf (hempty _ f)
      · exact ⟨sequence, mem_singleton_self _, hg⟩

theorem exists_of_generateSequences {stream : ScheduleConfigStream}
    {acc acc' : QMap ℤ (QMap ℤ UInt16) × ScheduleResult} {sequences : List ScheduleResultSequence}
    (htrace : Traceable working streamId stream.talker.deviceId)
    (hseqs : ∀ sequence ∈ sequences, ∃ sequenceId, ∀ f ∈ vals sequence,
      f.InSequence working streamId sequenceId)
    (h : foldlM
      (generateSequence lib fuel config stream splitVlanId working listener) acc sequences =
      some acc') : ∃ frames, Commits frames acc.2 acc'.2 ∧
      Closed working streamId stream.talker.deviceId frames ∧
      Collects listener sequences frames := by
  induction sequences generalizing acc with
  | nil =>
    cases h
    exact ⟨_, Commits.none _, Closed.none, fun s hs => absurd hs not_mem_nil,
      fun _ hf => hf.elim⟩
  | cons sequence sequences ih =>
    rw [foldlM_cons] at h
    obtain ⟨middle, hfirst, h⟩ := bind_eq_some_iff.1 h
    obtain ⟨sequenceId, hseq⟩ := hseqs sequence mem_cons_self
    obtain ⟨frames, hcommits, hclos, hcollects⟩ :=
      exists_of_generateSequence htrace hseq hfirst
    obtain ⟨frames', hcommits', hclos', hcollects'⟩ :=
      ih (fun s hs => hseqs s (mem_cons_of_mem _ hs)) h
    exact ⟨_, hcommits.append hcommits', hclos.or hclos', hcollects.cons hcollects'⟩

/-- What the search stored for the stream at the place of a listener. -/
theorem mem_vals_getStream {i : ℤ} {q : UInt8} (hkeyed : working.Keyed)
    (h : sequence ∈ (working.getStream d i q streamId).vals) :
    ∃ sequenceId, ∀ f ∈ vals sequence, f.InSequence working streamId sequenceId ∧
      f.deviceId = d ∧ f.egressInterfaceId = i := by
  obtain ⟨n, hn⟩ := mem_vals.1 h
  refine ⟨n, fun f hf => ?_⟩
  obtain ⟨k, hk⟩ := mem_vals.1 hf
  have hlookup : working.lookup ⟨d, i, q, streamId, n, k⟩ = some f := by
    rw [ScheduleResult.lookup, ScheduleResult.getSequence, value_of_getElem? hn]
    exact hk
  have hkey := hkeyed _ _ hlookup
  refine ⟨⟨congrArg FrameKey.streamId hkey, congrArg FrameKey.sequenceId hkey, ?_⟩,
    congrArg FrameKey.deviceId hkey, congrArg FrameKey.interfaceId hkey⟩
  rw [hkey]
  exact hlookup

theorem mem_vals_of_lookup (h : working.lookup f.key = some f) :
    ∃ sequence ∈ (working.getStream f.deviceId f.egressInterfaceId f.queueId f.streamId).vals,
      f ∈ vals sequence ∧ ∀ g ∈ vals sequence,
        ∃ k, working.lookup { f.key with frameId := k } = some g := by
  have hseq := (ScheduleResult.getElem?_of_lookup h).2.2.2
  exact ⟨_, mem_vals.2 ⟨_, hseq⟩, mem_vals.2 ⟨_, h⟩, fun g hg => mem_vals.1 hg⟩

theorem exists_of_generateListeners {stream : ScheduleStream}
    {configStream : ScheduleConfigStream} {listeners : List ScheduleConfigInterface}
    {vlanMap : QMap ℤ (QMap ℤ UInt16)} {result result' : ScheduleResult}
    (htrace : Traceable working stream.streamId configStream.talker.deviceId)
    (h : generateListeners lib fuel config configStream stream.queueId stream.streamId splitVlanId
      working listeners vlanMap result = some (.success, result')) :
    ∃ frames, Committed stream configStream listeners working result result' frames := by
  induction listeners generalizing vlanMap result with
  | nil =>
    obtain ⟨-, rfl⟩ := Prod.mk.inj (some.inj h)
    exact ⟨_, Closed.none, Commits.none _, by simp, fun _ hf => hf.elim, by simp⟩
  | cons listener listeners ih =>
    simp only [generateListeners] at h
    obtain ⟨⟨vlanMap', middle⟩, hfirst, h⟩ := bind_eq_some_iff.1 h
    dsimp only at h
    split_ifs at h with hexist
    · cases h
    · have hseqs : ∀ sequence ∈ vals (working.getStream listener.deviceId
          listener.interfaceId stream.queueId stream.streamId), ∃ n, ∀ f ∈ vals sequence,
          f.InSequence working stream.streamId n ∧ f.deviceId = listener.deviceId ∧
            f.egressInterfaceId = listener.interfaceId := fun _ hs =>
        mem_vals_getStream htrace.keyed hs
      obtain ⟨frames, hcommits, hclos, hcollects⟩ := exists_of_generateSequences htrace
        (fun s hs => (hseqs s hs).imp fun n hn f hf => (hn f hf).1) hfirst
      obtain ⟨frames', hcommitted⟩ := ih h
      have hexist' : middle.isStreamExist listener.deviceId listener.interfaceId stream.queueId
          stream.streamId = true := by simpa using hexist
      refine ⟨_, hclos.or hcommitted.toClosed, hcommits.append hcommitted.commits,
        fun l hl f hat hs hq hf => ?_, fun f hf => ?_, fun l hl => ?_⟩
      · rcases mem_cons.1 hl with rfl | hl
        · obtain ⟨sequence, hseq, hmem, hsame⟩ := mem_vals_of_lookup hf
          rw [hat.device, hat.egress, hq, hs] at hseq
          obtain ⟨g, hg, hgat, hgf⟩ := hcollects.received sequence hseq f hmem hat.enters
          obtain ⟨n, hn⟩ := hseqs sequence hseq
          obtain ⟨hin, hd, hi⟩ := hn g hg
          exact ⟨g, .inl hgf, ⟨hd, hi, hgat⟩, hin.sequenceId.trans (hn f hmem).1.sequenceId.symm⟩
        · obtain ⟨g, hgf, hgat⟩ := hcommitted.received l hl f hat hs hq hf
          exact ⟨g, .inr hgf, hgat⟩
      · rcases hf with hf | hf
        · obtain ⟨sequence, hseq, g, hg, hgat, hgf⟩ := hcollects.reception f hf
          obtain ⟨n, hn⟩ := hseqs sequence hseq
          obtain ⟨-, hd, hi⟩ := hn g hg
          exact ⟨listener, mem_cons_self, g, .inl hgf, hd, hi, hgat⟩
        · obtain ⟨l, hl, g, hgf, hgat⟩ := hcommitted.reception f hf
          exact ⟨l, mem_cons_of_mem _ hl, g, .inr hgf, hgat⟩
      · rcases mem_cons.1 hl with rfl | hl
        · rw [hcommitted.commits.streams]
          exact .inl hexist'
        · exact hcommitted.exist l hl

/-- **`GenerateScheduleStreamRouting`** stores the paths of the receptions. -/
theorem committed_of_generateScheduleStreamRouting {config' : ScheduleConfig}
    {stream : ScheduleStream} {result result' : ScheduleResult} {status : Status}
    (htrace : Traceable working stream.streamId
      (config.getScheduleConfigStream stream.streamId).talker.deviceId)
    (h : generateScheduleStreamRouting lib fuel config stream result working = some (status,
      config', result')) :
    config.Extends config' ∧ (status = .success → ∃ frames,
      Committed stream (config.getScheduleConfigStream stream.streamId)
        (config.getScheduleConfigStream stream.streamId).listeners working result result' frames) := by
  simp only [generateScheduleStreamRouting] at h
  obtain ⟨⟨status₁, splitVlanId, vlan⟩, -, h⟩ := bind_eq_some_iff.1 h
  dsimp only at h
  split_ifs at h with hst
  · have h := some.inj h
    rw [Prod.mk.injEq, Prod.mk.injEq] at h
    obtain ⟨rfl, rfl, -⟩ := h
    refine ⟨config.extends_setVLAN vlan, fun e => ?_⟩
    rw [e, Status.isSuccess_iff.2 rfl] at hst
    cases hst
  · obtain ⟨⟨status₂, result₂⟩, hlists, h⟩ := bind_eq_some_iff.1 h
    have h := some.inj h
    rw [Prod.mk.injEq, Prod.mk.injEq] at h
    obtain ⟨rfl, rfl, rfl⟩ := h
    refine ⟨config.extends_setVLAN vlan, fun e => ?_⟩
    subst e
    obtain ⟨frames, hcommitted⟩ := exists_of_generateListeners htrace hlists
    refine ⟨frames, hcommitted.toClosed, hcommitted.commits,
      fun l hl => hcommitted.received l ((Library.mem_walk lib).2 hl), fun f hf => ?_,
      fun l hl => hcommitted.exist l ((Library.mem_walk lib).2 hl)⟩
    obtain ⟨l, hl, g, hg⟩ := hcommitted.reception f hf
    exact ⟨l, (Library.mem_walk lib).1 hl, g, hg⟩

end

end Algorithm
end Sebastian
