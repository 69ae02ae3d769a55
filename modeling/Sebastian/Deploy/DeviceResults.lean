/-
# One result for every device

A deployment that comes to its completed response sends one result for each requested
device that was not found, when it checks them, and one for each device of the upload
sequence (`exists_of_completed`).  So every requested device has its result, and is uploaded
if it was found, exactly when the sequence holds all that was found.

`sortDevicesByIp` keeps them all.  `sortDevicesByDistance` keeps those that the device
manager lists in a path, and one of those with the same id of the device manager
(`forall_mem_deploySequence_iff`); what it drops is neither uploaded nor reported.
-/

import Sebastian.Deploy.Deployer
import Sebastian.Lib.Loop
import Mathlib.Data.List.GetD

namespace Sebastian
namespace Deploy

open GoFunc Std.TreeMap List

variable {d : ℕ} {merged : List String} {node : String} {loop : MapLoop} {ids : List ℤ}
  {succeeded : Bool}

/-! ### The order of the uploads -/

section
variable {env : Environment} {devices : List Device} {mapping : QMap ℤ String}
  {paths : List (List String)} {sequence : List ℤ} {id : ℤ} {maf : String}

theorem mem_mergeNode {path : List String} : node ∈ mergeNode d merged path ↔
      node ∈ merged ∨ d + 1 ≤ path.length ∧ path.getD (path.length - 1 - d) "" = node := by
  unfold mergeNode
  split_ifs with hd
  · dsimp only
    split_ifs with hmem
    · constructor
      · exact .inl
      · rintro (h | ⟨-, rfl⟩)
        · exact h
        · exact hmem
    · rw [mem_append, mem_singleton]
      exact or_congr_right ⟨fun h => ⟨hd, h.symm⟩, fun h => h.2.symm⟩
  · constructor
    · exact .inl
    · rintro (h | ⟨h, -⟩)
      · exact h
      · exact absurd h hd

theorem nodup_mergeNode {path : List String} (h : merged.Nodup) :
    (mergeNode d merged path).Nodup := by
  unfold mergeNode
  split_ifs
  · dsimp only
    split_ifs with hmem
    · exact h
    · exact nodup_append.2 ⟨h, nodup_singleton _, fun a ha b hb hab =>
        hmem (mem_singleton.1 hb ▸ hab ▸ ha)⟩
  · exact h

theorem mem_foldl_mergeNode : node ∈ paths.foldl (mergeNode d) merged ↔ node ∈ merged ∨
      ∃ path ∈ paths, d + 1 ≤ path.length ∧ path.getD (path.length - 1 - d) "" = node := by
  induction paths generalizing merged with
  | nil => simp
  | cons path paths ih =>
    rw [foldl_cons, ih, mem_mergeNode, or_assoc]
    refine or_congr_right ⟨?_, ?_⟩
    · rintro (h | ⟨p, hp, h⟩)
      · exact ⟨path, mem_cons_self, h⟩
      · exact ⟨p, mem_cons_of_mem _ hp, h⟩
    · rintro ⟨p, hp, h⟩
      rcases mem_cons.1 hp with rfl | hp
      · exact .inl h
      · exact .inr ⟨p, hp, h⟩

theorem mem_foldl_layers {layers : List ℕ} :
    node ∈ layers.foldl (fun merged d => paths.foldl (mergeNode d) merged) merged ↔
      node ∈ merged ∨ ∃ d ∈ layers, ∃ path ∈ paths, d + 1 ≤ path.length ∧
        path.getD (path.length - 1 - d) "" = node := by
  induction layers generalizing merged with
  | nil => simp
  | cons d layers ih =>
    rw [foldl_cons, ih, mem_foldl_mergeNode, or_assoc]
    refine or_congr_right ⟨?_, ?_⟩
    · rintro (h | ⟨d', hd', h⟩)
      · exact ⟨d, mem_cons_self, h⟩
      · exact ⟨d', mem_cons_of_mem _ hd', h⟩
    · rintro ⟨d', hd', h⟩
      rcases mem_cons.1 hd' with rfl | hd'
      · exact .inl h
      · exact .inr ⟨d', hd', h⟩

/-- **The merged layers** are the nodes of the paths. -/
theorem mem_layerMergeFarToNear :
    node ∈ layerMergeFarToNear paths ↔ ∃ path ∈ paths, node ∈ path := by
  unfold layerMergeFarToNear
  dsimp only
  rw [mem_foldl_layers, or_iff_right not_mem_nil]
  constructor
  · rintro ⟨d, -, path, hpath, hd, rfl⟩
    refine ⟨path, hpath, ?_⟩
    rw [getD_eq_getElem _ _ (show path.length - 1 - d < path.length by omega)]
    exact getElem_mem _
  · rintro ⟨path, hpath, hnode⟩
    obtain ⟨i, hi, rfl⟩ := mem_iff_getElem.1 hnode
    have hdepth : path.length - 1 ≤
        paths.foldl (fun maxDepth (path : List String) => max maxDepth (path.length - 1)) 0 := by
      refine Loop.foldl_reaches (I := fun _ => True) hpath trivial (fun _ _ _ _ => trivial)
        (fun _ _ => Nat.le_max_right _ _) fun _ hb _ _ => hb.trans (Nat.le_max_left _ _)
    refine ⟨path.length - 1 - i, ?_, path, hpath, by omega, ?_⟩
    · rw [mem_reverse, mem_range]
      omega
    · rw [show path.length - 1 - (path.length - 1 - i) = i by omega]
      exact getD_eq_getElem _ _ hi

theorem nodup_layerMergeFarToNear (paths : List (List String)) :
    (layerMergeFarToNear paths).Nodup := by
  unfold layerMergeFarToNear
  refine Loop.foldl_rule (I := fun _ (merged : List String) => merged.Nodup) nodup_nil ?_
  intro _ d _ _ hmerged
  refine Loop.foldl_rule (I := fun _ (merged : List String) => merged.Nodup) hmerged ?_
  exact fun _ _ _ _ h => nodup_mergeNode h

theorem mem_walk : (id, maf) ∈ env.walk loop mapping.toList ↔ mapping[id]? = some maf := by
  rw [(env.walk_perm loop _).mem_iff, mem_toList_iff_getElem?_eq_some]

theorem nodup_map_walk : ((env.walk loop mapping.toList).map (·.1)).Nodup := by
  rw [((env.walk_perm loop _).map _).nodup_iff, show mapping.toList.map (·.1) = mapping.keys from
    map_fst_toList_eq_keys]
  exact nodup_keys

theorem mem_map_walk :
    id ∈ (env.walk loop mapping.toList).map (·.1) ↔ ∃ maf, mapping[id]? = some maf := by
  rw [mem_map]
  constructor
  · rintro ⟨⟨id', maf⟩, hmem, rfl⟩
    exact ⟨maf, mem_walk.1 hmem⟩
  · rintro ⟨maf, hmaf⟩
    exact ⟨(id, maf), mem_walk.2 hmaf, rfl⟩

/-- What the reverse lookup finds is mapped to this id. -/
theorem valToKey_eq (h : (valToKey env mapping)[maf]? = some id) : mapping[id]? = some maf := by
  unfold valToKey at h
  revert h
  refine Loop.foldl_rule (I := fun passed (m : QMap String ℤ) =>
    (∀ entry ∈ passed, mapping[entry.1]? = some entry.2) →
      m[maf]? = some id → mapping[id]? = some maf) (by simp) ?_
    fun entry hentry => mem_walk.1 hentry
  intro passed entry rest _ hI hpassed hid
  rw [Std.TreeMap.getElem?_insert] at hid
  split_ifs at hid with heq
  · rw [Std.LawfulEqCmp.compare_eq_iff_eq] at heq
    cases hid
    rw [← heq]
    exact hpassed entry (mem_append_right _ mem_cons_self)
  · exact hI (fun e he => hpassed e (mem_append_left _ he)) hid

/-- It finds something for everything that was found. -/
theorem exists_valToKey (h : mapping[id]? = some maf) :
    ∃ id', (valToKey env mapping)[maf]? = some id' := by
  unfold valToKey
  refine Loop.foldl_reaches (I := fun _ => True)
    (Q := fun m : QMap String ℤ => ∃ id', m[maf]? = some id') (mem_walk.2 h) trivial
    (fun _ _ _ _ => trivial) (fun m _ => ⟨id, by simp⟩) fun m hm entry _ => ?_
  rw [Std.TreeMap.getElem?_insert]
  split_ifs
  · exact ⟨_, rfl⟩
  · exact hm

/-- The device manager lists this device. -/
def Listed (paths : List (List String)) (maf : String) : Prop := ∃ path ∈ paths, maf ∈ path

/-- All that was found is listed, each device under an id of its own. -/
structure AllListed (mapping : QMap ℤ String) (paths : List (List String)) : Prop where
  listed : ∀ (id : ℤ) (maf : String), mapping[id]? = some maf → Listed paths maf
  distinct : ∀ (id id' : ℤ) (maf : String),
    mapping[id]? = some maf → mapping[id']? = some maf → id = id'

/-- **The sort loses nothing**: it fails, or it lists nothing that was found, or all of it. -/
def SortKeepsAll (env : Environment) (mapping : QMap ℤ String) : Prop :=
  ∀ paths, sortResultOf env mapping = .ok paths →
    (∃ (id : ℤ) (maf : String), mapping[id]? = some maf ∧ Listed paths maf) →
      AllListed mapping paths

/-- The ids in the order of the paths. -/
def byDistance (env : Environment) (mapping : QMap ℤ String) (paths : List (List String)) :
    List ℤ :=
  (layerMergeFarToNear paths).filterMap fun node => (valToKey env mapping)[node]?

theorem mem_byDistance : id ∈ byDistance env mapping paths ↔
      ∃ maf, Listed paths maf ∧ (valToKey env mapping)[maf]? = some id := by
  simp only [byDistance, mem_filterMap, mem_layerMergeFarToNear, Listed]

theorem nodup_byDistance : (byDistance env mapping paths).Nodup := by
  refine (nodup_layerMergeFarToNear paths).filterMap fun maf maf' id hmaf hmaf' => ?_
  exact Option.some.inj ((valToKey_eq hmaf).symm.trans (valToKey_eq hmaf'))

/-- **What the sort by distance keeps**: all that was found, exactly when it is all listed. -/
theorem forall_mem_byDistance_iff :
    (∀ (id : ℤ) (maf : String), mapping[id]? = some maf → id ∈ byDistance env mapping paths) ↔
      AllListed mapping paths := by
  constructor
  · intro hall
    have hkey : ∀ (id : ℤ) (maf : String), mapping[id]? = some maf →
        Listed paths maf ∧ (valToKey env mapping)[maf]? = some id := by
      intro id maf hid
      obtain ⟨maf', hlisted, hval⟩ := mem_byDistance.1 (hall id maf hid)
      obtain rfl := Option.some.inj (hid.symm.trans (valToKey_eq hval))
      exact ⟨hlisted, hval⟩
    refine ⟨fun id maf hid => (hkey id maf hid).1, fun id id' maf hid hid' => ?_⟩
    exact Option.some.inj ((hkey id maf hid).2.symm.trans (hkey id' maf hid').2)
  · intro hall id maf hid
    obtain ⟨id', hval⟩ := exists_valToKey hid
    obtain rfl := hall.distinct id id' maf hid (valToKey_eq hval)
    exact mem_byDistance.2 ⟨maf, hall.listed id maf hid, hval⟩

theorem perm_sortDevicesByIp (h : sortDevicesByIp env devices mapping = .ok sequence) :
    sequence.Perm ((env.walk .sortByIp mapping.toList).map (·.1)) := by
  have hpairs : ∀ (entries : List (ℤ × String)) (pairs : List (ℤ × String)),
      entries.mapM (fun entry => (do
        let device ← getProjectDeviceById devices entry.1
        return (entry.1, device.ipAddress) : Except String (ℤ × String))) = .ok pairs →
      pairs.map (·.1) = entries.map (·.1) := by
    intro entries
    induction entries with
    | nil =>
      intro pairs h
      rw [mapM_nil] at h
      cases h
      rfl
    | cons entry entries ih =>
      intro pairs h
      rw [mapM_cons] at h
      cases hdev : getProjectDeviceById devices entry.1 with
      | error message =>
        rw [hdev] at h
        cases h
      | ok device =>
        cases hrest : entries.mapM (fun entry => (do
            let device ← getProjectDeviceById devices entry.1
            return (entry.1, device.ipAddress) : Except String (ℤ × String))) with
        | error message =>
          rw [hdev, hrest] at h
          cases h
        | ok rest =>
          rw [hdev, hrest] at h
          cases h
          rw [map_cons, map_cons, ih rest hrest]
  unfold sortDevicesByIp at h
  cases hmap : (env.walk .sortByIp mapping.toList).mapM (fun entry => (do
      let device ← getProjectDeviceById devices entry.1
      return (entry.1, device.ipAddress) : Except String (ℤ × String))) with
  | error message =>
    rw [hmap] at h
    cases h
  | ok pairs =>
    rw [hmap] at h
    cases h
    exact hpairs _ pairs hmap ▸ (env.sortSlice_perm pairs).map _

/-- **The upload sequence**: ids that were found, each once, and all of them exactly when the
sort loses nothing. -/
theorem deploySequence_spec (hmanager : env.getDMManager = .ok ())
    (h : deploySequence env devices mapping = .ok sequence) :
    sequence.Nodup ∧ (∀ id ∈ sequence, ∃ maf, mapping[id]? = some maf) ∧
      ((∀ (id : ℤ) (maf : String), mapping[id]? = some maf → id ∈ sequence) ↔
        SortKeepsAll env mapping) := by
  have hbyIp : sortDevicesByIp env devices mapping = .ok sequence →
      sequence.Nodup ∧ (∀ id ∈ sequence, ∃ maf, mapping[id]? = some maf) ∧
        ∀ (id : ℤ) (maf : String), mapping[id]? = some maf → id ∈ sequence := by
    intro hip
    have hperm := perm_sortDevicesByIp hip
    refine ⟨hperm.nodup_iff.2 nodup_map_walk, fun id hid => ?_, fun id maf hid => ?_⟩
    · exact mem_map_walk.1 (hperm.mem_iff.1 hid)
    · exact hperm.mem_iff.2 (mem_map_walk.2 ⟨maf, hid⟩)
  unfold deploySequence at h
  cases hsort : sortResultOf env mapping with
  | error message =>
    unfold sortDevicesByDistance at h
    rw [hmanager, hsort] at h
    obtain ⟨hnodup, hsub, hall⟩ := hbyIp h
    refine ⟨hnodup, hsub, iff_of_true hall fun paths hpaths => ?_⟩
    rw [hsort] at hpaths
    cases hpaths
  | ok paths =>
    have hkeeps : SortKeepsAll env mapping ↔
        ((∃ (id : ℤ) (maf : String), mapping[id]? = some maf ∧ Listed paths maf) →
          AllListed mapping paths) := by
      constructor
      · exact fun hk => hk paths hsort
      · intro hk paths' hpaths'
        rw [hsort] at hpaths'
        cases hpaths'
        exact hk
    have hdist : sortDevicesByDistance env mapping = .ok (byDistance env mapping paths) := by
      unfold sortDevicesByDistance
      rw [hmanager, hsort]
      rfl
    rw [hdist] at h
    cases hby : byDistance env mapping paths with
    | nil =>
      rw [hby] at h
      obtain ⟨hnodup, hsub, hall⟩ := hbyIp h
      refine ⟨hnodup, hsub, iff_of_true hall (hkeeps.2 ?_)⟩
      rintro ⟨id, maf, hid, hlisted⟩
      -- a device that was found and is listed would be in the sequence by distance
      obtain ⟨id', hval⟩ := exists_valToKey hid
      have hmem : id' ∈ byDistance env mapping paths := mem_byDistance.2 ⟨maf, hlisted, hval⟩
      rw [hby] at hmem
      exact absurd hmem not_mem_nil
    | cons first rest =>
      rw [hby] at h
      obtain rfl : first :: rest = sequence := Except.ok.inj h
      rw [← hby]
      refine ⟨nodup_byDistance, fun id hid => ?_, forall_mem_byDistance_iff.trans ?_⟩
      · obtain ⟨maf, -, hval⟩ := mem_byDistance.1 hid
        exact ⟨maf, valToKey_eq hval⟩
      · rw [hkeeps]
        refine ⟨fun hall _ => hall, fun hall => hall ?_⟩
        have hfirst : first ∈ byDistance env mapping paths := hby ▸ mem_cons_self
        obtain ⟨maf, hlisted, hval⟩ := mem_byDistance.1 hfirst
        exact ⟨first, maf, valToKey_eq hval, hlisted⟩

end

/-! ### What a deployment reports -/

/-- The device result in a response. -/
def Event.result? : Event → Option DeployDeviceResult
  | .deviceResultProgressResponse _ result => some result
  | _ => none

/-- An upload: of which device, where to, and which file. -/
def Event.upload? : Event → Option (ℤ × String × String)
  | .uploadOfflineConfig deviceId mafDeviceId fileId => some (deviceId, mafDeviceId, fileId)
  | _ => none

/-- The device results, in the order in which they are sent. -/
def Deployment.results (s : Deployment) : List DeployDeviceResult :=
  s.events.filterMap Event.result?

/-- The uploads, in the order in which they are made. -/
def Deployment.uploads (s : Deployment) : List (ℤ × String × String) :=
  s.events.filterMap Event.upload?

/-- The completed response has been sent. -/
def Deployment.Completed (s : Deployment) : Prop := Event.completedResponse ∈ s.events

/-- The events report nothing of a device, and are not the completed response. -/
def Plain (events : List Event) : Prop :=
  ∀ event ∈ events, event.result? = none ∧ event.upload? = none ∧ event ≠ .completedResponse

/-- `t` goes on from `s` with these events. -/
structure GoesOn (s t : Deployment) (events : List Event) : Prop where
  events : t.events = s.events ++ events
  reads : s.reads ≤ t.reads

/-- The events of the uploads of these devices. -/
structure Uploaded (mapping config : QMap ℤ String) (ids : List ℤ) (events : List Event) :
    Prop where
  results : (events.filterMap Event.result?).map (·.deviceId) = ids
  status : ∀ result ∈ events.filterMap Event.result?,
    result.status = "Success" ∨ result.status = "Failed"
  uploads : (events.filterMap Event.upload?).map (·.1) = ids
  own : ∀ upload ∈ events.filterMap Event.upload?,
    mapping[upload.1]? = some upload.2.1 ∧ config[upload.1]? = some upload.2.2
  notCompleted : Event.completedResponse ∉ events

section
variable {env : Environment} {request : Request} {devices : List Device}
  {mapping config : QMap ℤ String} {s t u : Deployment} {events events' : List Event}
  {α : Type} {f : α → DeployFunc Unit} {g : Unit → DeployFunc Unit} {P : Deployment → Prop}

theorem GoesOn.refl : GoesOn s s [] := ⟨(append_nil _).symm, le_rfl⟩

theorem GoesOn.trans (h : GoesOn s t events) (h' : GoesOn t u events') :
    GoesOn s u (events ++ events') :=
  ⟨by rw [h'.events, h.events, append_assoc], h.reads.trans h'.reads⟩

theorem goesOn_send (event : Event) : GoesOn s (s.send event) [event] := ⟨rfl, le_rfl⟩

theorem goesOn_readStopFlag : GoesOn s s.readStopFlag [] :=
  ⟨(append_nil _).symm, Nat.le_succ _⟩

theorem GoesOn.seenStop (h : GoesOn s t events) (hs : s.SeenStop env) : t.SeenStop env := by
  obtain ⟨n, hn, hlt⟩ := hs
  exact ⟨n, hn, hlt.trans_le h.reads⟩

theorem GoesOn.results (h : GoesOn s t events) :
    t.results = s.results ++ events.filterMap Event.result? := by
  rw [Deployment.results, h.events, filterMap_append]
  rfl

theorem GoesOn.uploads (h : GoesOn s t events) :
    t.uploads = s.uploads ++ events.filterMap Event.upload? := by
  rw [Deployment.uploads, h.events, filterMap_append]
  rfl

theorem GoesOn.completed (h : GoesOn s t events) (hs : ¬s.Completed)
    (hnot : Event.completedResponse ∉ events) : ¬t.Completed := by
  intro hmem
  rw [Deployment.Completed, h.events, mem_append] at hmem
  exact hmem.elim hs hnot

theorem Plain.results (h : Plain events) : events.filterMap Event.result? = [] :=
  filterMap_eq_nil_iff.2 fun event he => (h event he).1

theorem Plain.uploads (h : Plain events) : events.filterMap Event.upload? = [] :=
  filterMap_eq_nil_iff.2 fun event he => (h event he).2.1

theorem Plain.notCompleted (h : Plain events) : Event.completedResponse ∉ events :=
  fun hmem => (h _ hmem).2.2 rfl

theorem Plain.append (h : Plain events) (h' : Plain events') : Plain (events ++ events') :=
  fun event he => (mem_append.1 he).elim (h event) (h' event)

theorem plain_nil : Plain [] := fun _ h => absurd h not_mem_nil

theorem plain_progressResponse {progress : ℤ} : Plain [.progressResponse progress] := by
  intro event h
  obtain rfl := mem_singleton.1 h
  exact ⟨rfl, rfl, nofun⟩

theorem plain_failedResponse {statusCode : ℤ} {errMessage : String} :
    Plain [.failedResponse statusCode errMessage] := by
  intro event h
  obtain rfl := mem_singleton.1 h
  exact ⟨rfl, rfl, nofun⟩

/-! ### Rules for `Deploy` -/

/-- **What a part of `Deploy` comes to**: at its end `P` holds, and if `Deploy` has returned
before, then without the completed response. -/
def ComesTo (m : DeployFunc Unit) (s : Deployment) (P : Deployment → Prop) : Prop :=
  Meets m s (fun ending t => match ending with
    | .returned _ => P t
    | _ => ¬t.Completed) fun _ => True

theorem ComesTo.send {event : Event} (h : ComesTo (g ()) (s.send event) P) :
    ComesTo (Deploy.send event >>= g) s P :=
  meets_write_bind trivial h

/-- A step that may fail, and what is done after it. -/
theorem ComesTo.orFailed {x : Except String α} (hs : ¬s.Completed)
    (h : ∀ value, x = .ok value → ComesTo (f value) s P) :
    ComesTo (Deploy.orFailed x >>= f) s P := by
  cases x with
  | ok value => exact h value rfl
  | error message =>
    refine ⟨?_, fun _ _ => trivial⟩
    exact (goesOn_send _).completed hs plain_failedResponse.notCompleted

theorem ComesTo.orCoreFailed {x : Except CoreFailure α} (hs : ¬s.Completed)
    (h : ∀ value, x = .ok value → ComesTo (f value) s P) :
    ComesTo (Deploy.orCoreFailed x >>= f) s P := by
  cases x with
  | ok value => exact h value rfl
  | error failure =>
    refine ⟨?_, fun _ _ => trivial⟩
    exact (goesOn_send _).completed hs plain_failedResponse.notCompleted

theorem meets_stopFlag :
    Meets (stopFlag env) s (fun ending t => t = s.readStopFlag ∧
      ending = .returned (decide (s.readStopFlag.SeenStop env))) fun _ => True :=
  ⟨⟨rfl, rfl⟩, fun _ _ => trivial⟩

theorem meets_returnIfStopped :
    Meets (Deploy.returnIfStopped env) s (fun ending t => t = s.readStopFlag ∧
      (ending = .failed () ∨ ending = .returned () ∧ ¬s.readStopFlag.SeenStop env))
      fun _ => True := by
  refine meets_stopFlag.bind (fun value t ht => ?_) (fun _ _ ht => nomatch ht.2)
    fun _ ht => nomatch ht.2
  obtain ⟨rfl, hvalue⟩ := ht
  obtain rfl := Ending.returned.inj hvalue
  by_cases hseen : s.readStopFlag.SeenStop env
  · rw [if_pos (decide_eq_true hseen)]
    exact meets_fail ⟨rfl, .inl rfl⟩
  · rw [if_neg (by simpa using hseen)]
    exact meets_pure ⟨rfl, .inr ⟨rfl, hseen⟩⟩

/-- A read of `stopFlag`, and what is done if it was not set. -/
theorem ComesTo.returnIfStopped (hs : ¬s.Completed)
    (h : ¬s.readStopFlag.SeenStop env → ComesTo (g ()) s.readStopFlag P) :
    ComesTo (Deploy.returnIfStopped env >>= g) s P := by
  refine meets_returnIfStopped.bind (fun _ t ht => ?_) (fun _ t ht => ?_) fun t ht => ?_
  · obtain ⟨rfl, hfail | ⟨-, hseen⟩⟩ := ht
    · cases hfail
    · exact h hseen
  · obtain ⟨rfl, -⟩ := ht
    exact hs
  · obtain ⟨rfl, -⟩ := ht
    exact hs

/-! ### The parts of `Deploy` -/

/-- **The devices that were not found** are reported, in their order. -/
theorem meets_checkDevicesExists {progress : ℤ} :
    Meets (checkDevicesExists mapping progress ids) s (fun ending t => ending = .returned () ∧
      GoesOn s t ((ids.filter fun id => !mapping.contains id).map fun id =>
        .deviceResultProgressResponse progress (notFoundResult id))) fun _ => True := by
  induction ids generalizing s with
  | nil => exact meets_ret ⟨rfl, .refl⟩
  | cons id ids ih =>
    rw [checkDevicesExists]
    by_cases hid : (!mapping.contains id) = true
    · rw [if_pos hid, filter_cons, if_pos hid, map_cons]
      refine meets_write_bind trivial (ih.mono (fun ending t ht => ⟨ht.1, ?_⟩) fun _ h => h)
      exact (goesOn_send _).trans ht.2
    · rw [if_neg hid, filter_cons, if_neg hid]
      exact ih

theorem results_notFound {progress : ℤ} :
    (ids.map fun id => Event.deviceResultProgressResponse progress (notFoundResult id)).filterMap
      Event.result? = ids.map notFoundResult := by
  rw [filterMap_map]
  exact congrFun filterMap_eq_map ids

theorem uploads_notFound {progress : ℤ} :
    (ids.map fun id => Event.deviceResultProgressResponse progress (notFoundResult id)).filterMap
      Event.upload? = [] := by
  rw [filterMap_map]
  exact filterMap_eq_nil_iff.2 fun _ _ => rfl

theorem meets_setMAFDevicesSecret :
    Meets (setMAFDevicesSecret devices mapping ids) s (fun ending t => ∃ r events,
      ending = .returned r ∧ Plain events ∧ GoesOn s t events) fun _ => True := by
  induction ids generalizing s with
  | nil => exact meets_ret ⟨_, [], rfl, plain_nil, .refl⟩
  | cons id ids ih =>
    rw [setMAFDevicesSecret]
    cases mapping[id]? with
    | none => exact meets_ret ⟨_, [], rfl, plain_nil, .refl⟩
    | some mafDeviceId =>
      dsimp only
      cases getProjectDeviceById devices id with
      | error message => exact meets_ret ⟨_, [], rfl, plain_nil, .refl⟩
      | ok device =>
        refine meets_write_bind trivial (ih.mono (fun ending t ht => ?_) fun _ h => h)
        obtain ⟨r, events, hr, hplain, hgoes⟩ := ht
        refine ⟨r, _, hr, ?_, (goesOn_send _).trans hgoes⟩
        intro event hevent
        rcases mem_cons.1 hevent with rfl | hevent
        · exact ⟨rfl, rfl, nofun⟩
        · exact hplain event hevent

theorem uploadResult_deviceId {id : ℤ} : (uploadResult id succeeded).deviceId = id := by
  cases succeeded <;> rfl

theorem uploadResult_status {id : ℤ} : (uploadResult id succeeded).status = "Success" ∨
      (uploadResult id succeeded).status = "Failed" := by
  cases succeeded
  · exact .inr rfl
  · exact .inl rfl

theorem uploaded_nil : Uploaded mapping config [] [] where
  results := rfl
  status _ h := absurd h not_mem_nil
  uploads := rfl
  own _ h := absurd h not_mem_nil
  notCompleted := not_mem_nil

/-- An upload and its result come before those of the other devices. -/
theorem Uploaded.cons {id progress : ℤ} {maf file : String}
    (h : Uploaded mapping config ids events) (hmaf : mapping[id]? = some maf)
    (hfile : config[id]? = some file) :
    Uploaded mapping config (id :: ids) (.uploadOfflineConfig id maf file ::
      .deviceResultProgressResponse progress (uploadResult id succeeded) :: events) where
  results := by
    show (uploadResult id succeeded).deviceId :: _ = _
    rw [uploadResult_deviceId]
    exact congrArg _ h.results
  status result hres := by
    rcases mem_cons.1 hres with rfl | hres
    · exact uploadResult_status
    · exact h.status result hres
  uploads := congrArg (id :: ·) h.uploads
  own upload hupload := by
    rcases mem_cons.1 hupload with rfl | hupload
    · exact ⟨hmaf, hfile⟩
    · exact h.own upload hupload
  notCompleted hmem := by
    simp only [mem_cons, reduceCtorEq, false_or] at hmem
    exact h.notCompleted hmem

/-- **The uploads**: one device after the other, all of them unless there is an error or the
flag was seen. -/
theorem meets_uploadDevices {step : ℤ} {index : ℕ} :
    Meets (uploadDevices env mapping config step index ids) s (fun ending t => ∃ r done events,
      ending = .returned r ∧ Uploaded mapping config done events ∧ GoesOn s t events ∧
        (r = .ok () → done = ids ∨ t.SeenStop env)) fun _ => True := by
  induction ids generalizing s index with
  | nil => exact meets_ret ⟨_, [], [], rfl, uploaded_nil, .refl, fun _ => .inl rfl⟩
  | cons id ids ih =>
    rw [uploadDevices]
    cases hmaf : mapping[id]? with
    | none => exact meets_ret ⟨_, [], [], rfl, uploaded_nil, .refl, nofun⟩
    | some maf =>
      dsimp only
      cases hfile : config[id]? with
      | none => exact meets_ret ⟨_, [], [], rfl, uploaded_nil, .refl, nofun⟩
      | some file =>
        refine meets_write_bind trivial (meets_write_bind trivial ?_)
        refine meets_stopFlag.bind (fun value t ht => ?_) (fun _ _ ht => nomatch ht.2)
          fun _ ht => nomatch ht.2
        obtain ⟨rfl, hvalue⟩ := ht
        obtain rfl := Ending.returned.inj hvalue
        have hgoes := ((goesOn_send _).trans (goesOn_send _)).trans (goesOn_readStopFlag
          (s := (s.send (.uploadOfflineConfig id maf file)).send
            (.deviceResultProgressResponse (30 + step * (index + 1))
              (uploadResult id (env.uploadOfflineConfig index maf file)))))
        split_ifs with hseen
        · exact meets_pure ⟨_, [id], _, rfl, uploaded_nil.cons hmaf hfile, hgoes,
            fun _ => .inr (of_decide_eq_true hseen)⟩
        · refine ih.mono (fun ending t ht => ?_) fun _ h => h
          obtain ⟨r, done, events, hr, huploaded, hgoes', hall⟩ := ht
          refine ⟨r, id :: done, _, hr, huploaded.cons hmaf hfile, hgoes.trans hgoes',
            fun hok => ?_⟩
          rcases hall hok with rfl | hseen
          · exact .inl rfl
          · exact .inr hseen

theorem meets_uploadDevicesOfflineConfig {sequence : List ℤ} :
    Meets (uploadDevicesOfflineConfig env mapping config sequence) s
      (fun ending t => ∃ r done events, ending = .returned r ∧
        Uploaded mapping config done events ∧ GoesOn s t events ∧
          (r = .ok () → done = sequence ∨ t.SeenStop env)) fun _ => True := by
  unfold uploadDevicesOfflineConfig
  split_ifs
  · exact meets_ret ⟨_, [], [], rfl, uploaded_nil, .refl, nofun⟩
  · cases env.getDMManager with
    | error message => exact meets_ret ⟨_, [], [], rfl, uploaded_nil, .refl, nofun⟩
    | ok => exact meets_uploadDevices

/-- What is reported of the devices that were found. -/
structure ReportsFound (env : Environment) (devices : List Device) (mapping config : QMap ℤ String)
    (s t : Deployment) (sequence : List ℤ) (events : List Event) : Prop where
  manager : env.getDMManager = .ok ()
  order : deploySequence env devices mapping = .ok sequence
  uploaded : Uploaded mapping config sequence events
  results : t.results = s.results ++ events.filterMap Event.result?
  uploads : t.uploads = s.uploads ++ events.filterMap Event.upload?

/-- The devices that a deployment stores at its end. -/
structure StoresDevices (env : Environment) (devices : List Device) (mapping : QMap ℤ String)
    (kept : List Device) : Prop where
  synced : syncDevicesUserAccount env devices ∅ (getNewDeployDeviceIdsByMappingMap env mapping) =
    .ok kept
  stored : env.updateProjectDevices kept = .ok ()

/-- **The devices that were found**: at the completed response the whole sequence has been
uploaded and reported, and the devices are stored. -/
theorem comesTo_deployFound (hs : ¬s.Completed) :
    ComesTo (deployFound env devices mapping config) s fun t =>
      (∃ sequence events, ReportsFound env devices mapping config s t sequence events) ∧
        ∃ kept, StoresDevices env devices mapping kept := by
  unfold deployFound
  have hrest : ComesTo (do
      Deploy.orFailed env.getDMManager
      Deploy.orFailed (← setMAFDevicesSecret devices mapping
        (getNewDeployDeviceIdsByMappingMap env mapping))
      Deploy.returnIfStopped env
      let sequence ← Deploy.orFailed (deploySequence env devices mapping)
      Deploy.send (.progressResponse 30)
      Deploy.returnIfStopped env
      let uploaded ← uploadDevicesOfflineConfig env mapping config sequence
      Deploy.returnIfStopped env
      Deploy.orFailed uploaded
      let devices ← Deploy.orFailed (syncDevicesUserAccount env devices ∅
        (getNewDeployDeviceIdsByMappingMap env mapping))
      Deploy.orCoreFailed (env.updateProjectDevices devices)
      Deploy.send .completedResponse) s fun t =>
        (∃ sequence events, ReportsFound env devices mapping config s t sequence events) ∧
          ∃ kept, StoresDevices env devices mapping kept := by
    refine .orFailed hs fun _ hmanager => ?_
    refine meets_setMAFDevicesSecret.bind (fun value t ht => ?_)
      (fun _ _ ht => nomatch ht.choose_spec.choose_spec.1)
      fun _ ht => nomatch ht.choose_spec.choose_spec.1
    obtain ⟨_, secrets, -, hsecrets, hgoes⟩ := ht
    have ht := hgoes.completed hs hsecrets.notCompleted
    refine ComesTo.orFailed ht fun _ _ => .returnIfStopped ht fun _ => ?_
    have hgoes := hgoes.trans goesOn_readStopFlag
    refine .orFailed ht fun sequence hsequence => .send ?_
    have hgoes := hgoes.trans (goesOn_send (.progressResponse 30))
    have hplain : Plain (secrets ++ [] ++ [.progressResponse 30]) :=
      (hsecrets.append plain_nil).append plain_progressResponse
    have ht := hgoes.completed hs hplain.notCompleted
    refine .returnIfStopped ht fun _ => ?_
    have hgoes := hgoes.trans goesOn_readStopFlag
    refine meets_uploadDevicesOfflineConfig.bind (fun value u hu => ?_)
      (fun _ _ hu => nomatch hu.choose_spec.choose_spec.choose_spec.1)
      fun _ hu => nomatch hu.choose_spec.choose_spec.choose_spec.1
    obtain ⟨r, done, events, hr, huploaded, hgoes', hall⟩ := hu
    obtain rfl := Ending.returned.inj hr
    have hu := hgoes'.completed ht huploaded.notCompleted
    refine ComesTo.returnIfStopped hu fun hseen => ?_
    refine .orFailed hu fun _ hok => .orFailed hu fun kept hsynced =>
      .orCoreFailed hu fun _ hstored => ?_
    -- the flag was not seen, so that the loop has been through the sequence
    obtain rfl := (hall hok).resolve_right fun h => hseen (goesOn_readStopFlag.seenStop h)
    have hgoes := ((hgoes.trans hgoes').trans goesOn_readStopFlag).trans
      (goesOn_send (.completedResponse))
    have hress := hgoes.results
    have huploads := hgoes.uploads
    simp only [filterMap_append, hsecrets.results, plain_progressResponse.results,
      append_nil, nil_append] at hress
    simp only [filterMap_append, hsecrets.uploads, plain_progressResponse.uploads,
      append_nil, nil_append] at huploads
    exact meets_write ⟨⟨done, events, hmanager, hsequence, huploaded,
      hress.trans (congrArg (s.results ++ ·) (append_nil _)),
      huploads.trans (congrArg (s.uploads ++ ·) (append_nil _))⟩,
      kept, hsynced, hstored⟩ trivial
  dsimp only
  split_ifs
  · exact .orFailed hs fun _ _ => hrest
  · exact hrest

/-- **What a deployment has reported at its completed response**: that the requested devices
that were not found were not, and of each device of the upload sequence its upload. -/
structure Reports (env : Environment) (request : Request) (t : Deployment)
    (devices : List Device) (tables : List (ℤ × String)) (deployDevices : List ℤ)
    (mapping config : QMap ℤ String) (sequence : List ℤ) (events : List Event) : Prop where
  project : env.getProject = .ok devices
  deviceConfig : env.getProjectDeviceConfig = .ok tables
  deployList : env.getProjectDeployDevices = .ok deployDevices
  offlineConfig : env.generateDevicesOfflineConfig (requestedIds request deployDevices) = .ok config
  search : deviceSearch env request devices (requestedIds request deployDevices) tables =
    .ok mapping
  manager : env.getDMManager = .ok ()
  order : deploySequence env devices mapping = .ok sequence
  uploaded : Uploaded mapping config sequence events
  results : t.results =
    ((requestedIds request deployDevices).filter fun id => !mapping.contains id).map
      notFoundResult ++ events.filterMap Event.result?
  uploads : t.uploads = events.filterMap Event.upload?

theorem comesTo_deployBody (hs : s.events = []) : ComesTo (deployBody env request) s fun t =>
      ∃ devices tables deployDevices mapping config sequence events,
        Reports env request t devices tables deployDevices mapping config sequence events ∧
          ∃ kept, StoresDevices env devices mapping kept := by
  unfold deployBody
  have hcompleted : ¬s.Completed := by
    rw [Deployment.Completed, hs]
    exact not_mem_nil
  refine .orCoreFailed hcompleted fun devices hdevs => ?_
  refine .orCoreFailed hcompleted fun tables htables => ?_
  refine .orCoreFailed hcompleted fun deployDevices hdeployDevices => .send ?_
  have hgoes : GoesOn s _ _ := goesOn_send (.progressResponse 10)
  have ht := hgoes.completed hcompleted plain_progressResponse.notCompleted
  refine .returnIfStopped ht fun _ => .orFailed ht fun _ _ =>
    .orCoreFailed ht fun config hconfig => .orFailed ht fun mapping hmapping => .send ?_
  have hgoes := (hgoes.trans goesOn_readStopFlag).trans
    (goesOn_send (.progressResponse 20))
  have hplain : Plain ([.progressResponse 10] ++ [] ++ [.progressResponse 20]) :=
    (plain_progressResponse.append plain_nil).append plain_progressResponse
  have ht := hgoes.completed hcompleted hplain.notCompleted
  refine .returnIfStopped ht fun _ => ?_
  have hgoes := hgoes.trans goesOn_readStopFlag
  refine meets_checkDevicesExists.bind (fun value u hu => ?_) (fun _ _ hu => nomatch hu.1)
    fun _ hu => nomatch hu.1
  obtain ⟨-, hgoes'⟩ := hu
  have hu := hgoes'.completed ht (by simp)
  refine (comesTo_deployFound hu).mono (fun ending t hend => ?_) fun _ h => h
  cases ending with
  | returned value =>
    obtain ⟨⟨sequence, events, hfound⟩, hstores⟩ := hend
    refine ⟨devices, tables, deployDevices, mapping, config, sequence, events, ⟨hdevs, htables,
      hdeployDevices, hconfig, hmapping, hfound.manager, hfound.order, hfound.uploaded, ?_, ?_⟩,
      hstores⟩
    · rw [hfound.results, (hgoes.trans hgoes').results, Deployment.results, hs]
      simp only [filterMap_append, plain_progressResponse.results, results_notFound,
        filterMap_nil, append_nil, nil_append]
    · rw [hfound.uploads, (hgoes.trans hgoes').uploads, Deployment.uploads, hs]
      simp only [filterMap_append, plain_progressResponse.uploads, uploads_notFound,
        filterMap_nil, append_nil, nil_append]
  | failed error => exact hend
  | panicked => exact hend

theorem meets_respondIfStopped :
    Meets (respondIfStopped env) s (fun _ t => ∃ events, Plain events ∧ GoesOn s t events)
      fun _ => True := by
  refine meets_stopFlag.bind (fun value t ht => ?_) (fun _ _ ht => nomatch ht.2)
    fun _ ht => nomatch ht.2
  obtain ⟨rfl, -⟩ := ht
  split_ifs
  · exact meets_write ⟨_, plain_failedResponse, goesOn_readStopFlag.trans (goesOn_send _)⟩ trivial
  · exact meets_pure ⟨_, plain_nil, goesOn_readStopFlag⟩

/-- What a deployment does. -/
def deployment (env : Environment) (request : Request) : Deployment := (deploy env request {}).state

/-- **A deployment that comes to its completed response** has reported all this. -/
theorem exists_of_completed (h : (deployment env request).Completed) :
    ∃ devices tables deployDevices mapping config sequence events,
      Reports env request (deployment env request) devices tables deployDevices mapping config
        sequence events ∧ ∃ kept, StoresDevices env devices mapping kept := by
  have hmeets : Meets (deploy env request) {} (fun _ t => t.Completed →
      ∃ devices tables deployDevices mapping config sequence events,
        Reports env request t devices tables deployDevices mapping config sequence events ∧
          ∃ kept, StoresDevices env devices mapping kept) fun _ => True := by
    unfold deploy
    cases env.updateProjectStatus with
    | error failure =>
      refine ⟨fun hcompleted => absurd hcompleted ?_, fun _ _ => trivial⟩
      exact (goesOn_send (s := {}) _).completed not_mem_nil plain_failedResponse.notCompleted
    | ok =>
      refine Meets.deferring (comesTo_deployBody rfl) fun ending t hbody =>
        meets_respondIfStopped.mono (fun _ u hu hcompleted => ?_) fun _ h => h
      obtain ⟨events, hplain, hgoes⟩ := hu
      cases ending with
      | returned value =>
        obtain ⟨devices, tables, deployDevices, mapping, config, sequence, events, hreports,
          hstores⟩ := hbody
        refine ⟨devices, tables, deployDevices, mapping, config, sequence, events,
          { hreports with results := ?_, uploads := ?_ }, hstores⟩
        · rw [hgoes.results, hplain.results, append_nil, hreports.results]
        · rw [hgoes.uploads, hplain.uploads, append_nil, hreports.uploads]
      | failed error => exact absurd hcompleted (hgoes.completed hbody hplain.notCompleted)
      | panicked => exact absurd hcompleted (hgoes.completed hbody hplain.notCompleted)
  exact hmeets.ends h

/-! ### Accounting for the devices -/

/-- The ids that are to be deployed. -/
def requestedOf (env : Environment) (request : Request) : List ℤ :=
  requestedIds request (env.getProjectDeployDevices.toOption.getD [])

/-- The devices of the project that are found in the network, each with its id there. -/
def mappingOf (env : Environment) (request : Request) : QMap ℤ String :=
  (do
    let devices ← env.getProject.toOption
    let tables ← env.getProjectDeviceConfig.toOption
    (deviceSearch env request devices (requestedOf env request) tables).toOption).getD ∅

theorem Reports.requestedOf_eq {tables : List (ℤ × String)} {deployDevices sequence : List ℤ}
    (h : Reports env request t devices tables deployDevices mapping config sequence events) :
    requestedOf env request = requestedIds request deployDevices := by
  rw [requestedOf, h.deployList]
  rfl

theorem Reports.mappingOf_eq {tables : List (ℤ × String)} {deployDevices sequence : List ℤ}
    (h : Reports env request t devices tables deployDevices mapping config sequence events) :
    mappingOf env request = mapping := by
  rw [mappingOf, h.requestedOf_eq, h.project, h.deviceConfig]
  exact congrArg (fun x : Except String (QMap ℤ String) => x.toOption.getD ∅) h.search

/-- The files of the offline configurations. -/
def configOf (env : Environment) (request : Request) : QMap ℤ String :=
  (env.generateDevicesOfflineConfig (requestedOf env request)).toOption.getD ∅

/-- The device was found in the network. -/
def Found (env : Environment) (request : Request) (id : ℤ) : Prop :=
  (mappingOf env request).contains id = true

instance (env : Environment) (request : Request) (id : ℤ) : Decidable (Found env request id) :=
  inferInstanceAs (Decidable (_ = true))

/-- The configuration of the device is uploaded, to where the device was found. -/
def Uploads (env : Environment) (request : Request) (t : Deployment) (id : ℤ) : Prop :=
  ∃ maf file, (mappingOf env request)[id]? = some maf ∧ (configOf env request)[id]? = some file ∧
    (id, maf, file) ∈ t.uploads

/-- **What a deployment owes**: each requested device one result, and its configuration to each
device that was found and to no other. -/
structure AccountsForDevices (env : Environment) (request : Request) (t : Deployment) : Prop where
  results : ∀ id ∈ requestedOf env request, ∃ result,
    (t.results.filter fun result => decide (result.deviceId = id)) = [result] ∧
      (result.status = "Success" ∨ result.status = "Failed")
  uploads : ∀ id, Uploads env request t id ↔ Found env request id

/-- **When nothing is lost**: a device that is not found was requested once, and the sort keeps
all that was found. -/
structure LosesNothing (env : Environment) (request : Request) : Prop where
  once : ∀ id ∈ requestedOf env request, ¬Found env request id →
    (requestedOf env request).count id = 1
  sort : SortKeepsAll env (mappingOf env request)

theorem length_filter_results {results : List DeployDeviceResult} {id : ℤ} :
    (results.filter fun result => decide (result.deviceId = id)).length =
      (results.map (·.deviceId)).count id := by
  rw [← countP_eq_length_filter, count, countP_map]
  exact countP_congr fun result _ => by simp

theorem contains_iff {id : ℤ} : mapping.contains id = true ↔ ∃ maf, mapping[id]? = some maf := by
  rw [contains_eq_isSome_getElem?, Option.isSome_iff_exists]

theorem count_notFound {requested : List ℤ} {id : ℤ} :
    (requested.filter fun id => !mapping.contains id).count id =
      if mapping.contains id = true then 0 else requested.count id := by
  split_ifs with hid
  · rw [count_eq_zero]
    intro hmem
    rw [mem_filter, hid] at hmem
    exact nomatch hmem.2
  · refine count_filter ?_
    rw [Bool.not_eq_true] at hid
    rw [hid]
    rfl

/-- **A deployment accounts for every device** exactly when nothing is lost in the request and
in the sort. -/
theorem accountsForDevices_iff (h : (deployment env request).Completed) :
    AccountsForDevices env request (deployment env request) ↔ LosesNothing env request := by
  obtain ⟨devices, tables, deployDevices, mapping, config, sequence, events, hreports, -⟩ :=
    exists_of_completed h
  have hrequested := hreports.requestedOf_eq
  have hmapping := hreports.mappingOf_eq
  have hconfig : configOf env request = config := by
    rw [configOf, hrequested, hreports.offlineConfig]
    rfl
  obtain ⟨hnodup, hsub, hsort⟩ := deploySequence_spec hreports.manager hreports.order
  have hstatus : ∀ result ∈ (deployment env request).results,
      result.status = "Success" ∨ result.status = "Failed" := by
    intro result hres
    rw [hreports.results] at hres
    rcases mem_append.1 hres with hres | hres
    · obtain ⟨id, -, rfl⟩ := mem_map.1 hres
      exact .inr rfl
    · exact hreports.uploaded.status result hres
  have hlen : ∀ id, ((deployment env request).results.filter
      fun result => decide (result.deviceId = id)).length =
        (if Found env request id then 0 else (requestedOf env request).count id) +
          sequence.count id := by
    intro id
    rw [length_filter_results, hreports.results, map_append, hreports.uploaded.results,
      map_map, count_append]
    simp only [Found, hmapping, hrequested, ← count_notFound]
    exact congrArg (fun l : List ℤ => l.count id + sequence.count id) (map_id _)
  have hone : ∀ id, (∃ result, ((deployment env request).results.filter
      fun result => decide (result.deviceId = id)) = [result] ∧
        (result.status = "Success" ∨ result.status = "Failed")) ↔
      (if Found env request id then 0 else (requestedOf env request).count id) +
        sequence.count id = 1 := by
    intro id
    rw [← hlen id, length_eq_one_iff]
    refine exists_congr fun result => and_iff_left_of_imp fun heq => hstatus result ?_
    have hmem : result ∈ (deployment env request).results.filter
        fun result => decide (result.deviceId = id) := heq ▸ mem_singleton_self _
    exact (mem_filter.1 hmem).1
  have huploads : ∀ id, Uploads env request (deployment env request) id ↔ id ∈ sequence := by
    intro id
    rw [Uploads, hmapping, hconfig, hreports.uploads, ← hreports.uploaded.uploads]
    constructor
    · rintro ⟨maf, file, -, -, hmem⟩
      exact mem_map_of_mem hmem
    · intro hmem
      obtain ⟨⟨id', maf, file⟩, hupload, rfl⟩ := mem_map.1 hmem
      obtain ⟨hmaf, hfile⟩ := hreports.uploaded.own _ hupload
      exact ⟨maf, file, hmaf, hfile, hupload⟩
  have hfound : ∀ id, Found env request id ↔ ∃ maf, mapping[id]? = some maf := by
    intro id
    rw [Found, hmapping, contains_iff]
  constructor
  · intro haccounts
    refine ⟨fun id hid hnot => ?_, ?_⟩
    · have hcount := (hone id).1 (haccounts.results id hid)
      have hseq : sequence.count id = 0 :=
        count_eq_zero.2 fun hmem => hnot ((hfound id).2 (hsub id hmem))
      rw [if_neg hnot, hseq] at hcount
      exact hcount
    · rw [hmapping]
      refine hsort.1 fun id maf hmaf => (huploads id).1 ((haccounts.uploads id).2 ?_)
      exact (hfound id).2 ⟨maf, hmaf⟩
  · intro hlose
    have hall := hsort.2 (hmapping ▸ hlose.sort)
    have hmem : ∀ id, id ∈ sequence ↔ Found env request id := fun id =>
      ⟨fun hid => (hfound id).2 (hsub id hid), fun hid => by
        obtain ⟨maf, hmaf⟩ := (hfound id).1 hid
        exact hall id maf hmaf⟩
    refine ⟨fun id hid => (hone id).2 ?_, fun id => (huploads id).trans (hmem id)⟩
    by_cases hid' : Found env request id
    · rw [if_pos hid', count_eq_one_of_mem hnodup ((hmem id).2 hid')]
    · have hseq : sequence.count id = 0 :=
        count_eq_zero.2 fun hseq => hid' ((hmem id).1 hseq)
      rw [if_neg hid', hlose.once id hid hid', hseq]

end

/-! ### A device that the sort leaves out -/

/-- Two devices that are found, of which the device manager sorts the first. -/
def sortedAlone : Environment where
  getProject := .ok [{ id := 1, ipAddress := "a" }, { id := 2, ipAddress := "b" }]
  generateDevicesOfflineConfig _ := .ok (((∅ : QMap ℤ String).insert 1 "f").insert 2 "g")
  getDeviceProfiles := .ok [{ id := 0 }]
  getDevices := .ok [{ deviceId := "m", ip := "a" }, { deviceId := "n", ip := "b" }]
  getSortDistance _ := .ok [["m"]]
  uploadOfflineConfig _ _ _ := true

/-- Both are requested by their ids. -/
def bothDevices : Request where
  deviceIds := [1, 2]
  skipMappingDevice := true

theorem completed_sortedAlone : (deployment sortedAlone bothDevices).Completed := by
  show Event.completedResponse ∈ (deployment sortedAlone bothDevices).events
  decide +kernel

/-- **A device that is lost**: the second one has no result, and the deployment completes. -/
theorem not_accountsForDevices_sortedAlone :
    ¬∀ (env : Environment) (request : Request), (deployment env request).Completed →
      AccountsForDevices env request (deployment env request) := by
  intro hall
  obtain ⟨result, heq, -⟩ :=
    (hall sortedAlone bothDevices completed_sortedAlone).results 2 (by decide)
  have hnone : ((deployment sortedAlone bothDevices).results.filter
      fun result => decide (result.deviceId = 2)) = [] := by
    decide +kernel
  rw [hnone] at heq
  cases heq

theorem accountsForDevices_iff_sortedAlone : (deployment sortedAlone bothDevices).Completed ∧
      (AccountsForDevices sortedAlone bothDevices (deployment sortedAlone bothDevices) ↔
        LosesNothing sortedAlone bothDevices) :=
  ⟨completed_sortedAlone, accountsForDevices_iff completed_sortedAlone⟩

end Deploy
end Sebastian
