/-
# The length of the gate control lists

A device holds a gate control list of a certain length.  The list of an interface
has up to two entries for each of its frames and three for the end of the cycle
(`length_gateControlsOf_le`).  `CheckGateControlListLength` guards that number, but
it counts the frames of one queue, before the new one is stored, and only for
streams with TSN; so lists come out that no device of the project can hold
(`not_gateListsFit_of_doAdvancedSchedule`).  In a run where the same number, taken
over all queues of the interface and with the new frame, stays within the length,
every list fits (`gateListsFit_of_doAdvancedSchedule`).
-/

import Sebastian.Algorithm.Report
import Sebastian.Algorithm.States

namespace Sebastian
namespace Algorithm

open Sample List

variable {lib : Library}

/-- Every gate control list has at most the length its device can hold. -/
def GateListsFit (project project' : Project) : Prop :=
  ∀ gclResult ∈ project'.computedResult.gclResults, ∀ control ∈ gclResult.interfaceGateControls,
    ∀ device ∈ project.devices, device.id = gclResult.deviceId →
      control.gateControls.length ≤ device.deviceProperty.gateControlListLength.toNat

/-! ### Counting the frames of an interface -/

/-- The frames that are stored on an interface. -/
def ScheduleResult.numberOfFrames (result : ScheduleResult) (deviceId interfaceId : ℤ) : ℕ :=
  (framesOfInterface (result.getInterface deviceId interfaceId)).length

section
variable {result result' : ScheduleResult} {d i : ℤ}

/-- **A count by keys**: no more frames than keys that they are stored at. -/
theorem ScheduleResult.Keyed.numberOfFrames_le (h : result.Keyed) (keys : List FrameKey)
    (hkeys : ∀ key f, result.lookup key = some f → key.deviceId = d → key.interfaceId = i →
      key ∈ keys) : result.numberOfFrames d i ≤ keys.length := by
  have hnodup : ((ScheduleResult.framesOfInterface
    (result.getInterface d i)).map Frame.key).Nodup :=
    pairwise_map.2 (h.pairwise_framesOfInterface d i)
  have hsubset : (ScheduleResult.framesOfInterface (result.getInterface d i)).map Frame.key ⊆
      keys := by
    intro key hkey
    obtain ⟨f, hf, rfl⟩ := mem_map.1 hkey
    obtain ⟨q, s, n, k, hget⟩ := ScheduleResult.mem_framesOfInterface.1 hf
    rw [h _ f hget]
    exact hkeys _ f hget rfl rfl
  have hle := (hnodup.subperm hsubset).length_le
  rw [length_map] at hle
  exact hle

theorem ScheduleResult.Keyed.mem_map_key (h : result.Keyed) {key : FrameKey} {f : Frame}
    (hf : result.lookup key = some f) (hd : key.deviceId = d) (hi : key.interfaceId = i) :
    key ∈ (framesOfInterface (result.getInterface d i)).map Frame.key := by
  subst hd hi
  exact mem_map.2 ⟨f, mem_framesOfInterface.2 ⟨_, _, _, _, hf⟩, h key f hf⟩

/-- A schedule that holds a part of another one has no more frames. -/
theorem ScheduleResult.Keyed.numberOfFrames_mono (h : result.Keyed) (h' : result'.Keyed)
    (hsub : ∀ key f, result.lookup key = some f → ∃ g, result'.lookup key = some g) (d i : ℤ) :
    result.numberOfFrames d i ≤ result'.numberOfFrames d i := by
  have hle := h.numberOfFrames_le ((framesOfInterface (result'.getInterface d i)).map Frame.key)
    fun key f hf hd hi => by
      obtain ⟨g, hg⟩ := hsub key f hf
      exact h'.mem_map_key hg hd hi
  rwa [length_map] at hle

theorem ScheduleResult.Keyed.numberOfFrames_store (h : result.Keyed) (h' : result'.Keyed)
    {frame : Frame}
    (hget : ∀ key, result'.lookup key = (result.setScheduleResult frame).lookup key) (d i : ℤ) :
    result'.numberOfFrames d i ≤ result.numberOfFrames d i +
      if frame.deviceId = d ∧ frame.egressInterfaceId = i then 1 else 0 := by
  have hcases : ∀ key f, result'.lookup key = some f → key = frame.key ∨
      ∃ g, result.lookup key = some g := by
    intro key f hf
    rw [hget, lookup_setScheduleResult] at hf
    split_ifs at hf with hk
    · exact .inl hk.symm
    · exact .inr ⟨f, hf⟩
  split_ifs with hplace
  · have hle := h'.numberOfFrames_le (d := d) (i := i)
      (frame.key :: (framesOfInterface (result.getInterface d i)).map Frame.key) ?_
    · simpa [numberOfFrames] using hle
    · intro key f hf hd hi
      rcases hcases key f hf with rfl | ⟨g, hg⟩
      · exact mem_cons_self
      · exact mem_cons_of_mem _ (h.mem_map_key hg hd hi)
  · have hle := h'.numberOfFrames_le (d := d) (i := i)
      ((framesOfInterface (result.getInterface d i)).map Frame.key) ?_
    · simpa [numberOfFrames] using hle
    · intro key f hf hd hi
      rcases hcases key f hf with rfl | ⟨g, hg⟩
      · exact absurd ⟨hd, hi⟩ hplace
      · exact h.mem_map_key hg hd hi

end

/-! ### What fits -/

/-- The list of an interface without frames is not made; any other one fits. -/
def FitsGateLists (config : ScheduleConfig) (result : ScheduleResult) : Prop :=
  ∀ d i, (config.getScheduleConfigDevice d).tsnEnable = true →
    result.numberOfFrames d i = 0 ∨
      2 * result.numberOfFrames d i + 3 ≤
        (config.getScheduleConfigDevice d).gateControlListLength.toNat

/-- With this frame, the gate control list of its interface is not too long. -/
def Frame.FitsGateList (frame : Frame) (config : ScheduleConfig) (result : ScheduleResult) : Prop :=
  (config.getScheduleConfigDevice frame.deviceId).tsnEnable = true →
    2 * (result.numberOfFrames frame.deviceId frame.egressInterfaceId + 1) + 3 ≤
      (config.getScheduleConfigDevice frame.deviceId).gateControlListLength.toNat

instance (frame : Frame) (config : ScheduleConfig) (result : ScheduleResult) :
    Decidable (frame.FitsGateList config result) :=
  inferInstanceAs (Decidable ((config.getScheduleConfigDevice frame.deviceId).tsnEnable = true →
    2 * (result.numberOfFrames frame.deviceId frame.egressInterfaceId + 1) + 3 ≤
      (config.getScheduleConfigDevice frame.deviceId).gateControlListLength.toNat))

/-- The next frame of the search, received or placed, fits the gate control list of
its interface, over all queues. -/
def FitsNext (stream : ScheduleStream) (s : RoutingState lib) : Prop :=
  (∀ frame, Receives stream s frame → frame.FitsGateList s.config s.result) ∧
    ∀ frame result, Places stream s frame result → frame.FitsGateList s.config s.result

instance (stream : ScheduleStream) (s : RoutingState lib) : Decidable (FitsNext stream s) := by
  unfold FitsNext
  infer_instance

section
variable {config config' : ScheduleConfig} {result result' : ScheduleResult} {frame : Frame}

theorem Frame.FitsGateList.of_extends (hextends : config.Extends config')
    (h : frame.FitsGateList config' result) : frame.FitsGateList config result := by
  unfold Frame.FitsGateList at h ⊢
  rw [hextends.device] at h
  exact h

theorem FitsGateLists.mono (h : FitsGateLists config result') (hkeyed : result.Keyed)
    (hkeyed' : result'.Keyed)
    (hsub : ∀ key f, result.lookup key = some f → ∃ g, result'.lookup key = some g) :
    FitsGateLists config result := by
  intro d i htsn
  have hle := hkeyed.numberOfFrames_mono hkeyed' hsub d i
  have := h d i htsn
  omega

/-- **A frame that fits** leaves lists that fit. -/
theorem FitsGateLists.store (h : FitsGateLists config result) (hkeyed : result.Keyed)
    (hkeyed' : result'.Keyed) (hframe : frame.FitsGateList config result)
    (hget : ∀ key, result'.lookup key = (result.setScheduleResult frame).lookup key) :
    FitsGateLists config result' := by
  intro d i htsn
  have hle := hkeyed.numberOfFrames_store hkeyed' hget d i
  by_cases hplace : frame.deviceId = d ∧ frame.egressInterfaceId = i
  · rw [if_pos hplace] at hle
    obtain ⟨rfl, rfl⟩ := hplace
    have := hframe htsn
    omega
  · rw [if_neg hplace] at hle
    have := h d i htsn
    omega

/-- **The schedule of a run** whose frames fit. -/
theorem fitsGateLists_of_computeSchedule {fuel : ℕ} {status : Status}
    (hfits : ∀ stream (s : RoutingState lib), Searches fuel config stream s → FitsNext stream s)
    (h : computeSchedule lib fuel config = some (status, config', result)) :
    FitsGateLists config result := by
  have hempty : FitsGateLists config ∅ := fun d i _ => by
    have hle := ScheduleResult.Keyed.empty.numberOfFrames_le (d := d) (i := i) []
      fun key f hf => by simp at hf
    exact .inl (Nat.le_zero.1 hle)
  refine computeSchedule_rule hempty (fun r r' hr hr' hsub hfit => ?_)
    (fun stream s s' hs hfit hround => ?_) h
  · exact hfit.mono hr hr' fun key f hf => (hsub key f hf).imp fun _ hg => hg.1
  · obtain ⟨start, hinv⟩ := hs.searchInv
    have hkeyed' := (hinv.round hround).keyed
    obtain ⟨hrecv, hplace⟩ := hfits stream s hs
    cases hround with
    | receive frame hreceives _ _ _ hres =>
      exact hfit.store hinv.keyed hkeyed'
        ((hrecv frame hreceives).of_extends hinv.extends_config)
        fun key => by rw [hres]
    | drop frame _ _ _ hget =>
      exact hfit.mono hkeyed' hinv.keyed fun key f hf => ⟨f, (hget key).symm.trans hf⟩
    | send frame placed r totalDelay children hplaces hplaced _ _ _ hget =>
      have heq := considerLinkIsolation_eq lib r stream.cycleTime s.config.reserveTime frame
      rw [← hplaced] at heq
      have hframe : placed.FitsGateList config s.result := by
        rw [heq]
        exact (hplace frame r hplaces).of_extends hinv.extends_config
      exact hfit.store hinv.keyed hkeyed' hframe hget

end

/-! ### The lists that are emitted -/

section
variable {config : ScheduleConfig} {result : ScheduleResult} {gclResults : List GclResult}

/-- An emitted list belongs to an interface with frames, of a device with TSN. -/
def Emits (lib : Library) (config : ScheduleConfig) (result : ScheduleResult)
    (gclResult : GclResult) : Prop :=
  (config.getScheduleConfigDevice gclResult.deviceId).tsnEnable = true ∧
    ∀ control ∈ gclResult.interfaceGateControls, ∃ i,
      ScheduleResult.framesOfInterface (result.getInterface gclResult.deviceId i) ≠ [] ∧
        control.gateControls = gateControlsOf lib config.cycleTime config.reserveTime
          (config.getScheduleConfigDevice gclResult.deviceId).numberOfQueue.toNat
          (ScheduleResult.framesOfInterface (result.getInterface gclResult.deviceId i))

/-- **What `GenerateGCLResult` emits.** -/
theorem emits_of_generateGCLResult (h : generateGCLResult lib config result = some gclResults) :
    ∀ gclResult ∈ gclResults, Emits lib config result gclResult := by
  refine OptionRule.foldlM_rule
    (I := fun (l : List GclResult) => ∀ gclResult ∈ l, Emits lib config result gclResult) h
    (fun _ hg => absurd hg not_mem_nil) fun l l' d _ hl hdev => ?_
  simp only [gclOfDevice] at hdev
  split_ifs at hdev with hprepared htsn htsn
  · cases hdev
  · cases hdev
  · cases hdev
    exact hl
  · obtain ⟨controls, hcontrols, hdev⟩ := Option.bind_eq_some_iff.1 hdev
    cases hdev
    intro gclResult hmem
    rcases mem_append.1 hmem with hmem | hmem
    · exact hl gclResult hmem
    · obtain rfl := mem_singleton.1 hmem
      refine ⟨by simpa using htsn, ?_⟩
      refine OptionRule.foldlM_rule (I := fun (cs : List InterfaceGateControls) => ∀ control ∈ cs,
        ∃ i, ScheduleResult.framesOfInterface (result.getInterface d i) ≠ [] ∧
          control.gateControls = gateControlsOf lib config.cycleTime config.reserveTime
            (config.getScheduleConfigDevice d).numberOfQueue.toNat
            (ScheduleResult.framesOfInterface (result.getInterface d i))) hcontrols
        (fun _ hc => absurd hc not_mem_nil) fun cs cs' i _ hcs hintf => ?_
      simp only [gclOfInterface] at hintf
      split_ifs at hintf with hempty
      · cases hintf
        exact hcs
      · cases hintf
        intro control hmem
        rcases mem_append.1 hmem with hmem | hmem
        · exact hcs control hmem
        · obtain rfl := mem_singleton.1 hmem
          exact ⟨i, fun e => hempty (isEmpty_iff.2 e), rfl⟩

/-- An emitted list is as long as the count allows. -/
theorem length_le_of_emits {gclResult : GclResult} {control : InterfaceGateControls}
    (h : Emits lib config result gclResult) (hfit : FitsGateLists config result)
    (hcontrol : control ∈ gclResult.interfaceGateControls) : control.gateControls.length ≤
      (config.getScheduleConfigDevice gclResult.deviceId).gateControlListLength.toNat := by
  obtain ⟨htsn, hcontrols⟩ := h
  obtain ⟨i, hne, hlist⟩ := hcontrols control hcontrol
  have hlen := length_gateControlsOf_le lib config.cycleTime config.reserveTime
    (config.getScheduleConfigDevice gclResult.deviceId).numberOfQueue.toNat
    (ScheduleResult.framesOfInterface (result.getInterface gclResult.deviceId i))
  have hpos := length_pos_iff.2 hne
  have hcount := hfit gclResult.deviceId i htsn
  unfold ScheduleResult.numberOfFrames at hcount
  rw [hlist]
  omega

end

/-! ### Runs -/

/-- **Every gate control list fits its device** in a run whose frames fit, counted over
all queues of their interface. -/
theorem gateListsFit_of_doAdvancedSchedule {fuel : ℕ} {project project' : Project}
    {config : ScheduleConfig}
    (hprepare : ScheduleConfig.prepareScheduleConfig fuel project = .ok config)
    (hdevices : QSet.Distinct project.devices)
    (hfits : ∀ stream (s : RoutingState lib), Searches fuel config stream s → FitsNext stream s)
    (h : doAdvancedSchedule lib fuel project = some (.success, project')) :
    GateListsFit project project' := by
  obtain ⟨config', result, computedResult, hcomp, hgenerate, rfl⟩ :=
    exists_of_doAdvancedSchedule hprepare h
  have hinv := scheduleInv_of_computeSchedule hcomp
  have hextends := extends_of_computeSchedule hcomp
  obtain ⟨result', hsame, hgcl⟩ := exists_of_generateScheduleResult hinv hextends hgenerate
  have hfit : FitsGateLists config result' := by
    refine (fitsGateLists_of_computeSchedule hfits hcomp).mono (fun key f hf => ?_) hinv.keyed
      fun key f hf => ⟨f, (hsame key).symm.trans hf⟩
    exact hinv.keyed key f ((hsame key).symm.trans hf)
  have hfit' : FitsGateLists config' result' := fun d i => by
    rw [hextends.device d]
    exact hfit d i
  intro gclResult hmem control hcontrol device hdev hid
  have hle := length_le_of_emits (emits_of_generateGCLResult hgcl gclResult hmem) hfit' hcontrol
  have hhas := ScheduleConfig.hasDevice_of_prepareScheduleConfig hprepare hdevices device hdev
  rw [hextends.device, ← hid, hhas] at hle
  exact hle

/-- One stream on devices with lists of a hundred entries. -/
def oneStream : Project := line 1000 [application 1 6 46 0 1000] [stream 1 1 [2]]

theorem gateListsFit_of_doAdvancedSchedule_oneStream :
    ∃ project', doAdvancedSchedule .reference 100 oneStream = some (.success, project') ∧
      GateListsFit oneStream project' := by
  obtain ⟨config, config', result, hprep, hcomp, hcheck⟩ :=
    exists_of_scheduleOf oneStream (fun config _ =>
      decide (∀ p ∈ statesOf .reference 100 config, FitsNext p.1 p.2)) (by decide +kernel)
  have hsucc : ((doAdvancedSchedule .reference 100 oneStream).any (·.1 = .success)) = true := by
    decide +kernel
  obtain ⟨⟨status, project'⟩, h, hst⟩ := (Option.any_eq_true _ _).1 hsucc
  obtain rfl : status = .success := of_decide_eq_true hst
  exact ⟨project', h, gateListsFit_of_doAdvancedSchedule hprep
    (by unfold QSet.Distinct; decide +kernel)
    (forall_searches hcomp (of_decide_eq_true hcheck)) h⟩

/-- The same network with lists of three entries, and a stream that is not sent at the
start of the cycle. -/
def shortList : Project :=
  let project := line 1000 [application 1 6 46 100 1000] [stream 1 1 [2]]
  { project with
    devices := project.devices.map fun device =>
      { device with deviceProperty := { device.deviceProperty with gateControlListLength := 3 } } }

/-- The guard finds room for three entries, and the list has five. -/
theorem not_gateListsFit_of_doAdvancedSchedule :
    ∃ project', doAdvancedSchedule .reference 100 shortList = some (.success, project') ∧
      ¬GateListsFit shortList project' := by
  have hcheck : ((doAdvancedSchedule .reference 100 shortList).any fun x =>
      x.1 = .success && x.2.computedResult.gclResults.any fun gclResult =>
        gclResult.interfaceGateControls.any fun control =>
          shortList.devices.any fun device => device.id = gclResult.deviceId &&
            device.deviceProperty.gateControlListLength.toNat < control.gateControls.length) =
      true := by
    decide +kernel
  obtain ⟨⟨status, project'⟩, h, hcheck⟩ := (Option.any_eq_true _ _).1 hcheck
  obtain ⟨hst, hcheck⟩ := Bool.and_eq_true_iff.1 hcheck
  obtain rfl : status = .success := of_decide_eq_true hst
  obtain ⟨gclResult, hgcl, hcheck⟩ := any_eq_true.1 hcheck
  obtain ⟨control, hcontrol, hcheck⟩ := any_eq_true.1 hcheck
  obtain ⟨device, hdev, hcheck⟩ := any_eq_true.1 hcheck
  obtain ⟨hid, hlt⟩ := Bool.and_eq_true_iff.1 hcheck
  refine ⟨project', h, fun hfit => ?_⟩
  have hle := hfit gclResult hgcl control hcontrol device hdev (of_decide_eq_true hid)
  exact absurd hle (not_le.2 (of_decide_eq_true hlt))

end Algorithm
end Sebastian
