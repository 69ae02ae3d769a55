/-
# The two ids of a device

`sebastian/topomanager/device_id_mapper.go`: a map from the device ids of the
core to those of the field agent, and one back.  A delete takes its pair out of
both maps.  `AddDeviceMapping` writes into both and takes nothing out, so that
a pair which gives one of its ids a new partner leaves half of the old pair.

`Paired` is what the two maps are for, and it survives exactly the additions
that give no id a new partner (`paired_iff`).
-/

import Mathlib.Data.Int.Notation
import Sebastian.Lib.GoMap
import Sebastian.Lib.Run

namespace Sebastian
namespace Topomanager

open List Option

variable {mapper' : DeviceIdMapper} {operation : Operation}

/-- The id maps of `ActDeviceManager`. -/
structure DeviceIdMapper where
  actDeviceIdToMafDeviceId : GoMap ℤ String := .empty
  mafDeviceIdToActDeviceId : GoMap String ℤ := .empty

namespace DeviceIdMapper

/-! ### The operations -/

/-- `AddDeviceMapping` -/
def addDeviceMapping (mapper : DeviceIdMapper) (actDeviceId : ℤ) (mafDeviceId : String) :
    DeviceIdMapper where
  actDeviceIdToMafDeviceId := mapper.actDeviceIdToMafDeviceId.set actDeviceId mafDeviceId
  mafDeviceIdToActDeviceId := mapper.mafDeviceIdToActDeviceId.set mafDeviceId actDeviceId

/-- `GetMAFDeviceID` -/
def getMafDeviceId (mapper : DeviceIdMapper) (actDeviceId : ℤ) : Option String :=
  mapper.actDeviceIdToMafDeviceId actDeviceId

/-- `GetActDeviceID` -/
def getActDeviceId (mapper : DeviceIdMapper) (mafDeviceId : String) : Option ℤ :=
  mapper.mafDeviceIdToActDeviceId mafDeviceId

/-- `DeleteDeviceMappingByActDeviceID` -/
def deleteDeviceMappingByActDeviceId (mapper : DeviceIdMapper) (actDeviceId : ℤ) :
    DeviceIdMapper where
  actDeviceIdToMafDeviceId := mapper.actDeviceIdToMafDeviceId.delete actDeviceId
  mafDeviceIdToActDeviceId :=
    match mapper.actDeviceIdToMafDeviceId actDeviceId with
    | some mafDeviceId => mapper.mafDeviceIdToActDeviceId.delete mafDeviceId
    | none => mapper.mafDeviceIdToActDeviceId

/-- `DeleteDeviceMappingByMAFDeviceID` -/
def deleteDeviceMappingByMafDeviceId (mapper : DeviceIdMapper) (mafDeviceId : String) :
    DeviceIdMapper where
  actDeviceIdToMafDeviceId :=
    match mapper.mafDeviceIdToActDeviceId mafDeviceId with
    | some actDeviceId => mapper.actDeviceIdToMafDeviceId.delete actDeviceId
    | none => mapper.actDeviceIdToMafDeviceId
  mafDeviceIdToActDeviceId := mapper.mafDeviceIdToActDeviceId.delete mafDeviceId

/-- A call that changes the maps. -/
inductive Operation where
  | addDeviceMapping (actDeviceId : ℤ) (mafDeviceId : String)
  | deleteDeviceMappingByActDeviceId (actDeviceId : ℤ)
  | deleteDeviceMappingByMafDeviceId (mafDeviceId : String)
  | clearDeviceMappings

/-- What a call does. -/
def apply (mapper : DeviceIdMapper) : Operation → DeviceIdMapper
  | .addDeviceMapping a m => mapper.addDeviceMapping a m
  | .deleteDeviceMappingByActDeviceId a => mapper.deleteDeviceMappingByActDeviceId a
  | .deleteDeviceMappingByMafDeviceId m => mapper.deleteDeviceMappingByMafDeviceId m
  | .clearDeviceMappings => {}

/-- The steps of a run. -/
def Step (mapper : DeviceIdMapper) (operation : Operation) (mapper' : DeviceIdMapper) : Prop :=
  mapper' = mapper.apply operation

/-! ### A bijection -/

/-- The maps are inverse to each other. -/
def Inverse (mapper : DeviceIdMapper) : Prop :=
  ∀ a m, mapper.getMafDeviceId a = some m ↔ mapper.getActDeviceId m = some a

/-- The pair is in both maps. -/
def HasPair (mapper : DeviceIdMapper) (a : ℤ) (m : String) : Prop :=
  mapper.getMafDeviceId a = some m ∧ mapper.getActDeviceId m = some a

/-- The call deletes one of the ids, or gives it a partner. -/
def Operation.Touches (a : ℤ) (m : String) : Operation → Prop
  | .addDeviceMapping a' m' => a' = a ∨ m' = m
  | .deleteDeviceMappingByActDeviceId a' => a' = a
  | .deleteDeviceMappingByMafDeviceId m' => m' = m
  | .clearDeviceMappings => True

/-- Of the pairs in the maps exactly this one is gone. -/
def Removed (mapper mapper' : DeviceIdMapper) (a : ℤ) (m : String) : Prop :=
  mapper.HasPair a m ∧ ∀ a' m',
    (mapper'.getMafDeviceId a' = some m' ↔
      mapper.getMafDeviceId a' = some m' ∧ ¬(a' = a ∧ m' = m)) ∧
    (mapper'.getActDeviceId m' = some a' ↔
      mapper.getActDeviceId m' = some a' ∧ ¬(a' = a ∧ m' = m))

/-- A delete of an id that has a partner removes this pair. -/
def RemovesPair (mapper : DeviceIdMapper) (operation : Operation) (mapper' : DeviceIdMapper) :
    Prop :=
  match operation with
  | .deleteDeviceMappingByActDeviceId a =>
    ∀ m, mapper.getMafDeviceId a = some m → mapper.Removed mapper' a m
  | .deleteDeviceMappingByMafDeviceId m =>
    ∀ a, mapper.getActDeviceId m = some a → mapper.Removed mapper' a m
  | _ => True

/-- **What the maps are for**, in a run: they are inverse to each other in every state, a
pair that was added stays while neither of its ids is touched, and a delete removes one
pair. -/
structure Paired (mapper : DeviceIdMapper) (run : List (Operation × DeviceIdMapper)) : Prop where
  inverse : ∀ state ∈ statesOfRun mapper run, state.Inverse
  stays : ∀ before a m added after rest,
    run = before ++ (.addDeviceMapping a m, added) :: (after ++ rest) →
      (∀ x ∈ after, ¬Operation.Touches a m x.1) →
        ∀ state ∈ statesOfRun added after, state.HasPair a m
  removes : Along RemovesPair mapper run

/-- **The addition gives no id a new partner.** -/
def KeepsPartners (mapper : DeviceIdMapper) (operation : Operation) (_ : DeviceIdMapper) : Prop :=
  match operation with
  | .addDeviceMapping a m =>
    (∀ m', mapper.getMafDeviceId a = some m' → m' = m) ∧
      ∀ a', mapper.getActDeviceId m = some a' → a' = a
  | _ => True

variable {mapper : DeviceIdMapper} {a a' : ℤ} {m m' : String}

/-! ### What the operations do to the pairs -/

theorem getMafDeviceId_addDeviceMapping :
    (mapper.addDeviceMapping a m).getMafDeviceId a' =
      if a' = a then some m else mapper.getMafDeviceId a' := rfl

theorem getActDeviceId_addDeviceMapping :
    (mapper.addDeviceMapping a m).getActDeviceId m' =
      if m' = m then some a else mapper.getActDeviceId m' := rfl

theorem hasPair_addDeviceMapping : (mapper.addDeviceMapping a m).HasPair a m :=
  ⟨if_pos rfl, if_pos rfl⟩

theorem removed_deleteDeviceMappingByActDeviceId (h : mapper.Inverse)
    (hm : mapper.getMafDeviceId a = some m) :
    mapper.Removed (mapper.deleteDeviceMappingByActDeviceId a) a m := by
  refine ⟨⟨hm, (h a m).1 hm⟩, fun a' m' => ?_⟩
  have hm' : mapper.actDeviceIdToMafDeviceId a = some m := hm
  have hact : (mapper.deleteDeviceMappingByActDeviceId a).getActDeviceId m' =
      if m' = m then none else mapper.getActDeviceId m' := by
    unfold deleteDeviceMappingByActDeviceId
    rw [hm']
    rfl
  have hmaf : (mapper.deleteDeviceMappingByActDeviceId a).getMafDeviceId a' =
      if a' = a then none else mapper.getMafDeviceId a' := rfl
  rw [hact, hmaf]
  constructor
  · split_ifs with ha
    · subst ha
      refine iff_of_false nofun ?_
      rintro ⟨hfound, hne⟩
      rw [hm] at hfound
      exact hne ⟨rfl, (some.inj hfound).symm⟩
    · exact ⟨fun hf => ⟨hf, fun e => ha e.1⟩, And.left⟩
  · split_ifs with hmm
    · subst hmm
      refine iff_of_false nofun ?_
      rintro ⟨hfound, hne⟩
      rw [(h a m').1 hm] at hfound
      exact hne ⟨(some.inj hfound).symm, rfl⟩
    · exact ⟨fun hf => ⟨hf, fun e => hmm e.2⟩, And.left⟩

/-- The two deletes are the same, read from the other side. -/
theorem removed_deleteDeviceMappingByMafDeviceId (h : mapper.Inverse)
    (ha : mapper.getActDeviceId m = some a) :
    mapper.Removed (mapper.deleteDeviceMappingByMafDeviceId m) a m := by
  have hm : mapper.getMafDeviceId a = some m := (h a m).2 ha
  have hsame : mapper.deleteDeviceMappingByMafDeviceId m =
      mapper.deleteDeviceMappingByActDeviceId a := by
    have ha' : mapper.mafDeviceIdToActDeviceId m = some a := ha
    have hm' : mapper.actDeviceIdToMafDeviceId a = some m := hm
    unfold deleteDeviceMappingByMafDeviceId deleteDeviceMappingByActDeviceId
    rw [ha', hm']
  rw [hsame]
  exact removed_deleteDeviceMappingByActDeviceId h hm

theorem Removed.inverse (h : mapper.Inverse) (hremd : mapper.Removed mapper' a m) :
    mapper'.Inverse := by
  intro a' m'
  rw [(hremd.2 a' m').1, (hremd.2 a' m').2, h a' m']

/-- An id without a partner is deleted from maps that do not have it. -/
theorem deleteDeviceMappingByActDeviceId_of_none (h : mapper.getMafDeviceId a = none) :
    mapper.deleteDeviceMappingByActDeviceId a = mapper := by
  have h' : mapper.actDeviceIdToMafDeviceId a = none := h
  have hdel : mapper.actDeviceIdToMafDeviceId.delete a = mapper.actDeviceIdToMafDeviceId := by
    funext a'
    rw [GoMap.delete_apply]
    split_ifs with ha
    · rw [ha, h']
    · rfl
  unfold deleteDeviceMappingByActDeviceId
  rw [h', hdel]

theorem deleteDeviceMappingByMafDeviceId_of_none (h : mapper.getActDeviceId m = none) :
    mapper.deleteDeviceMappingByMafDeviceId m = mapper := by
  have h' : mapper.mafDeviceIdToActDeviceId m = none := h
  have hdel : mapper.mafDeviceIdToActDeviceId.delete m = mapper.mafDeviceIdToActDeviceId := by
    funext m'
    rw [GoMap.delete_apply]
    split_ifs with hm
    · rw [hm, h']
    · rfl
  unfold deleteDeviceMappingByMafDeviceId
  rw [h', hdel]

theorem HasPair.of_removed (h : mapper.HasPair a m) (hremd : mapper.Removed mapper' a' m')
    (hne : ¬(a = a' ∧ m = m')) : mapper'.HasPair a m :=
  ⟨((hremd.2 a m).1).2 ⟨h.1, hne⟩, ((hremd.2 a m).2).2 ⟨h.2, hne⟩⟩

/-! ### Every operation -/

/-- **What every operation keeps.** -/
theorem Inverse.apply (h : mapper.Inverse) (hkeeps : mapper.KeepsPartners operation mapper') :
    (mapper.apply operation).Inverse := by
  cases operation with
  | addDeviceMapping a m =>
    intro a' m'
    show (mapper.addDeviceMapping a m).getMafDeviceId a' = _ ↔
      (mapper.addDeviceMapping a m).getActDeviceId m' = _
    rw [getMafDeviceId_addDeviceMapping, getActDeviceId_addDeviceMapping]
    obtain ⟨hmaf, hact⟩ := hkeeps
    split_ifs with ha hm hm
    · exact iff_of_true (by rw [hm]) (by rw [ha])
    · refine iff_of_false (fun e => hm (some.inj e).symm) fun hfound => ?_
      rw [ha] at hfound
      exact hm (hmaf m' ((h a m').2 hfound))
    · refine iff_of_false (fun hfound => ?_) fun e => ha (some.inj e).symm
      rw [hm] at hfound
      exact ha (hact a' ((h a' m).1 hfound))
    · exact h a' m'
  | deleteDeviceMappingByActDeviceId a =>
    show (mapper.deleteDeviceMappingByActDeviceId a).Inverse
    cases hm : mapper.getMafDeviceId a with
    | none => rwa [deleteDeviceMappingByActDeviceId_of_none hm]
    | some m => exact (removed_deleteDeviceMappingByActDeviceId h hm).inverse h
  | deleteDeviceMappingByMafDeviceId m =>
    show (mapper.deleteDeviceMappingByMafDeviceId m).Inverse
    cases ha : mapper.getActDeviceId m with
    | none => rwa [deleteDeviceMappingByMafDeviceId_of_none ha]
    | some a => exact (removed_deleteDeviceMappingByMafDeviceId h ha).inverse h
  | clearDeviceMappings => exact fun a m => iff_of_false nofun nofun

/-- **A new partner leaves half of the old pair.** -/
theorem keepsPartners_of_inverse (h : mapper.Inverse) (hafter : (mapper.apply operation).Inverse) :
    mapper.KeepsPartners operation (mapper.apply operation) := by
  cases operation with
  | addDeviceMapping a m =>
    have hafter : (mapper.addDeviceMapping a m).Inverse := hafter
    refine ⟨fun m' hm' => ?_, fun a' ha' => ?_⟩
    · by_contra hne
      have hleft : (mapper.addDeviceMapping a m).getActDeviceId m' = some a := by
        rw [getActDeviceId_addDeviceMapping, if_neg hne]
        exact (h a m').1 hm'
      have hright := (hafter a m').2 hleft
      rw [getMafDeviceId_addDeviceMapping, if_pos rfl] at hright
      exact hne (some.inj hright).symm
    · by_contra hne
      have hleft : (mapper.addDeviceMapping a m).getMafDeviceId a' = some m := by
        rw [getMafDeviceId_addDeviceMapping, if_neg hne]
        exact (h a' m).2 ha'
      have hright := (hafter a' m).1 hleft
      rw [getActDeviceId_addDeviceMapping, if_pos rfl] at hright
      exact hne (some.inj hright).symm
  | deleteDeviceMappingByActDeviceId => trivial
  | deleteDeviceMappingByMafDeviceId => trivial
  | clearDeviceMappings => trivial

/-- A pair stays when a call touches neither of its ids. -/
theorem HasPair.apply (h : mapper.HasPair a m) (hinverse : mapper.Inverse)
    (huntouched : ¬Operation.Touches a m operation) : (mapper.apply operation).HasPair a m := by
  cases operation with
  | addDeviceMapping a' m' =>
    have hne : a' ≠ a ∧ m' ≠ m := not_or.1 huntouched
    show (mapper.addDeviceMapping a' m').HasPair a m
    refine ⟨?_, ?_⟩
    · rw [getMafDeviceId_addDeviceMapping, if_neg hne.1.symm]
      exact h.1
    · rw [getActDeviceId_addDeviceMapping, if_neg hne.2.symm]
      exact h.2
  | deleteDeviceMappingByActDeviceId a' =>
    show (mapper.deleteDeviceMappingByActDeviceId a').HasPair a m
    cases hm : mapper.getMafDeviceId a' with
    | none => rwa [deleteDeviceMappingByActDeviceId_of_none hm]
    | some m' =>
      exact h.of_removed (removed_deleteDeviceMappingByActDeviceId hinverse hm)
        fun e => huntouched e.1.symm
  | deleteDeviceMappingByMafDeviceId m' =>
    show (mapper.deleteDeviceMappingByMafDeviceId m').HasPair a m
    cases ha : mapper.getActDeviceId m' with
    | none => rwa [deleteDeviceMappingByMafDeviceId_of_none ha]
    | some a' =>
      exact h.of_removed (removed_deleteDeviceMappingByMafDeviceId hinverse ha)
        fun e => huntouched e.2.symm
  | clearDeviceMappings => exact absurd trivial huntouched

theorem Inverse.removesPair (h : mapper.Inverse) (operation : Operation) :
    mapper.RemovesPair operation (mapper.apply operation) := by
  cases operation with
  | addDeviceMapping => trivial
  | deleteDeviceMappingByActDeviceId a =>
    exact fun m hm => removed_deleteDeviceMappingByActDeviceId h hm
  | deleteDeviceMappingByMafDeviceId m =>
    exact fun a ha => removed_deleteDeviceMappingByMafDeviceId h ha
  | clearDeviceMappings => trivial

/-! ### Runs -/

/-- Along calls that touch neither of its ids a pair stays. -/
theorem HasPair.of_untouched {after rest : List (Operation × DeviceIdMapper)}
    (h : mapper.HasPair a m) (hrun : Along Step mapper (after ++ rest))
    (hinverse : ∀ state ∈ statesOfRun mapper after, state.Inverse)
    (huntouched : ∀ x ∈ after, ¬Operation.Touches a m x.1) :
    ∀ state ∈ statesOfRun mapper after, state.HasPair a m := by
  induction after generalizing mapper with
  | nil =>
    intro state hstate
    rwa [mem_singleton.1 hstate]
  | cons x after ih =>
    obtain ⟨operation, next⟩ := x
    obtain ⟨rfl, hrest⟩ := hrun
    intro state hstate
    rcases mem_cons.1 hstate with rfl | hstate
    · exact h
    · exact ih (h.apply (hinverse _ mem_cons_self) (huntouched _ mem_cons_self)) hrest
        (fun state hstate => hinverse state (mem_cons_of_mem _ hstate))
        (fun y hy => huntouched y (mem_cons_of_mem _ hy)) state hstate

/-- In a run through inverse maps pairs stay and deletes remove one pair. -/
theorem paired_of_inverse {run : List (Operation × DeviceIdMapper)} (h : Along Step mapper run)
    (hinverse : ∀ state ∈ statesOfRun mapper run, state.Inverse) : Paired mapper run where
  inverse := hinverse
  stays := by
    rintro before a m added after rest rfl huntouched
    obtain ⟨mapper', -, rfl, hrest⟩ := h.split
    refine hasPair_addDeviceMapping.of_untouched hrest (fun state hstate => ?_) huntouched
    refine hinverse state ?_
    simp only [statesOfRun, map_append, map_cons, mem_cons, mem_append]
      at hstate ⊢
    rcases hstate with rfl | hstate
    · exact .inr (.inr (.inl rfl))
    · exact .inr (.inr (.inr (.inl hstate)))
  removes := by
    refine h.mono_states hinverse ?_
    rintro mapper operation _ hI rfl
    exact hI.removesPair operation

/-- **When the maps pair the ids.**  A run from the empty maps pairs them exactly when no
addition in it gives an id a new partner. -/
theorem paired_iff {run : List (Operation × DeviceIdMapper)} (h : Along Step {} run) :
    Paired {} run ↔ Along KeepsPartners {} run := by
  have hinverse : (∀ state ∈ statesOfRun {} run, state.Inverse) ↔ Along KeepsPartners {} run := by
    refine h.iff_along (I := Inverse) (fun a m => iff_of_false nofun nofun) (fun _ hI => hI) ?_ ?_
    · rintro mapper operation _ rfl hI hkeeps
      exact hI.apply hkeeps
    · rintro mapper operation _ rfl hI hafter
      exact keepsPartners_of_inverse hI hafter
  exact ⟨fun hpaired => hinverse.1 hpaired.inverse,
    fun hkeeps => paired_of_inverse h (hinverse.2 hkeeps)⟩

/-! ### A device that returns with a new id -/

/-- A device id of the core gets a second id of the agent. -/
def returnedDevice : List (Operation × DeviceIdMapper) :=
  runOf apply {} [.addDeviceMapping 1 "a", .addDeviceMapping 1 "b"]

theorem along_returnedDevice : Along Step {} returnedDevice := ⟨rfl, rfl, trivial⟩

theorem paired_iff_returnedDevice :
    Along Step {} returnedDevice ∧ (Paired {} returnedDevice ↔
      Along KeepsPartners {} returnedDevice) :=
  ⟨along_returnedDevice, paired_iff along_returnedDevice⟩

/-- The first id of the agent still leads to the device, which has the second one. -/
theorem not_paired : ∃ run, Along Step {} run ∧ ¬Paired {} run := by
  refine ⟨returnedDevice, along_returnedDevice, fun h => ?_⟩
  have hlast := h.inverse _ (mem_cons_of_mem _ (mem_cons_of_mem _ mem_cons_self))
  exact absurd ((hlast 1 "a").2 (by decide)) (by decide)

end DeviceIdMapper
end Topomanager
end Sebastian
