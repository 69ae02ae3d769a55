/-
# System-assigned VLANs

`ActScheduleConfigVLAN` (`algorithm/include/act_schedule_config.hpp`,
`algorithm/src/act_schedule_config.cpp`) hands out a VLAN id for a destination
MAC: it searches the range `[min_vlan_, max_vlan_]` from a cursor
`last_assign_vlan_` that all MACs share.

The search wraps at `max_vlan_`, but the cursor, set to the assigned id plus
one, does not.  While the cursor is inside the range every call is right
(`assignsFreshVlan_of_cursor_mem`): the cursor distance `ahead` falls by one in
each round and everything farther from the cursor has been seen taken.  Once
`max_vlan_` has been assigned the cursor is outside the range, no id there is
ever recorded, and every further call returns the cursor itself
(`generate_of_cursor_not_mem`).
-/

import Sebastian.Lib.Loop
import Sebastian.Lib.QMap
import Sebastian.Status

namespace Sebastian
namespace Algorithm

open Option

variable {mac : String} {vlanId : UInt16} {fuel : ℕ} {status : Status}

/-- `ActScheduleConfigVLAN` -/
structure ScheduleConfigVLAN where
  minVlan : UInt16 := 0
  maxVlan : UInt16 := 65535
  lastAssignVlan : UInt16 := 0
  /-- `vlan_map_`: the VLAN ids taken for a destination MAC. -/
  vlanMap : QMap String (Finset UInt16) := ∅

namespace ScheduleConfigVLAN

/-- The object as `PrepareScheduleConfigVLAN` initialises it before it enters
the user's VLANs: the cursor stands at the lower end of the range. -/
def init (min max : UInt16) : ScheduleConfigVLAN :=
  { minVlan := min, maxVlan := max, lastAssignVlan := min }

/-- `IsAvailableVLAN` -/
def isAvailableVLAN (v : ScheduleConfigVLAN) (vlanId : UInt16) (destinationMac : String) : Bool :=
  if vlanId < v.minVlan ∨ vlanId > v.maxVlan then false
  else if v.vlanMap.contains destinationMac ∧ vlanId ∈ v.vlanMap.value destinationMac then false
  else true

/-- `SetVLAN` -/
def setVLAN (v : ScheduleConfigVLAN) (vlanId : UInt16) (destinationMac : String) :
    Bool × ScheduleConfigVLAN :=
  if !v.isAvailableVLAN vlanId destinationMac then (false, v)
  else (true, { v with vlanMap := v.vlanMap.update destinationMac (insert vlanId) })

/-- One round of the `while` loop of `GenerateSystemAssignVLAN`.  `done none` is
the return from inside the loop. -/
def searchStep (v : ScheduleConfigVLAN) (vlanSet : Finset UInt16) (vlanId : UInt16) :
    Iter UInt16 (Option UInt16) :=
  if vlanId ∈ vlanSet then
    let vlanId := if vlanId = v.maxVlan then v.minVlan else vlanId + 1
    if vlanId = v.lastAssignVlan then .done none else .next vlanId
  else .done (some vlanId)

/-- What `GenerateSystemAssignVLAN` does with the end of its search: the status,
the out parameter `vlan_id` and the object afterwards. -/
def assign (v : ScheduleConfigVLAN) (destinationMac : String) :
    Option UInt16 → Status × UInt16 × ScheduleConfigVLAN
  | none =>
    (.feasibilityCheckFailed
      ⟨"System assign VLAN %1 failed", [.int v.lastAssignVlan.toNat]⟩, v.lastAssignVlan, v)
  | some vlanId =>
    -- the result of SetVLAN is not looked at, and the cursor is not wrapped
    (.success, vlanId,
      { (v.setVLAN vlanId destinationMac).2 with lastAssignVlan := vlanId + 1 })

/-- `GenerateSystemAssignVLAN` -/
def generateSystemAssignVLAN (fuel : ℕ) (v : ScheduleConfigVLAN) (destinationMac : String) :
    Option (Status × UInt16 × ScheduleConfigVLAN) :=
  if v.vlanMap.contains destinationMac then
    (Loop.run (v.searchStep (v.vlanMap.value destinationMac)) fuel v.lastAssignVlan).map
      (v.assign destinationMac)
  else some (v.assign destinationMac (some v.lastAssignVlan))

/-- The VLAN ids taken for a MAC. -/
def taken (v : ScheduleConfigVLAN) (destinationMac : String) : Finset UInt16 :=
  v.vlanMap.value destinationMac

/-- `vlanId` lies in the configured range. -/
def InRange (v : ScheduleConfigVLAN) (vlanId : UInt16) : Prop :=
  v.minVlan ≤ vlanId ∧ vlanId ≤ v.maxVlan

/-- The call returns, with these values. -/
def Returns (v : ScheduleConfigVLAN) (mac : String) (status : Status) (vlanId : UInt16)
    (v' : ScheduleConfigVLAN) : Prop :=
  ∃ fuel, v.generateSystemAssignVLAN fuel mac = some (status, vlanId, v')

/-- What a call of `GenerateSystemAssignVLAN` is for: a VLAN id returned with
success lies in the range, was free for the MAC and is taken afterwards, and
the call succeeds whenever some id of the range is free. -/
def AssignsFreshVlan (v : ScheduleConfigVLAN) (mac : String) : Prop :=
  ∃ status vlanId v', v.Returns mac status vlanId v' ∧
    (status = .success →
      v.InRange vlanId ∧ vlanId ∉ v.taken mac ∧ vlanId ∈ v'.taken mac) ∧
    ((∃ w, v.InRange w ∧ w ∉ v.taken mac) → status = .success)

/-- Only ids of the range are ever recorded. -/
structure WellFormed (v : ScheduleConfigVLAN) : Prop where
  range : v.minVlan ≤ v.maxVlan
  taken_inRange : ∀ mac vlanId, vlanId ∈ v.taken mac → v.InRange vlanId

/-- The ids that are taken lie in the range, be it empty or not. -/
def TakenInRange (v : ScheduleConfigVLAN) : Prop :=
  ∀ mac vlanId, vlanId ∈ v.taken mac → v.InRange vlanId

theorem taken_of_contains_eq_false {v : ScheduleConfigVLAN} (h : v.vlanMap.contains mac = false) :
    v.taken mac = ∅ :=
  QMap.value_of_contains_eq_false h

theorem isAvailableVLAN_iff {v : ScheduleConfigVLAN} :
    v.isAvailableVLAN vlanId mac = true ↔ v.InRange vlanId ∧ vlanId ∉ v.taken mac := by
  have hcont : vlanId ∈ v.taken mac → v.vlanMap.contains mac = true := by
    intro h
    by_contra hc
    rw [taken_of_contains_eq_false (Bool.not_eq_true _ ▸ hc)] at h
    exact Finset.notMem_empty _ h
  unfold isAvailableVLAN InRange
  split_ifs with h₁ h₂
  · refine iff_of_false (by decide) ?_
    rintro ⟨⟨hmin, hmax⟩, -⟩
    exact h₁.elim (fun h => absurd h (UInt16.not_lt.2 hmin)) fun h => absurd h
      (UInt16.not_lt.2 hmax)
  · exact iff_of_false (by decide) fun h => h.2 h₂.2
  · refine iff_of_true rfl ?_
    rw [not_or, UInt16.not_lt, gt_iff_lt, UInt16.not_lt] at h₁
    exact ⟨h₁, fun h => h₂ ⟨hcont h, h⟩⟩

@[simp] theorem setVLAN_minVlan (v : ScheduleConfigVLAN) (i : UInt16) (mac : String) :
    (v.setVLAN i mac).2.minVlan = v.minVlan := by
  unfold setVLAN; split_ifs <;> rfl

@[simp] theorem setVLAN_maxVlan (v : ScheduleConfigVLAN) (i : UInt16) (mac : String) :
    (v.setVLAN i mac).2.maxVlan = v.maxVlan := by
  unfold setVLAN; split_ifs <;> rfl

/-- `SetVLAN` takes an id for its MAC exactly when it was available. -/
theorem mem_taken_setVLAN {v : ScheduleConfigVLAN} {i j : UInt16} {mac' : String} :
    j ∈ (v.setVLAN i mac).2.taken mac' ↔
      j ∈ v.taken mac' ∨ (mac = mac' ∧ j = i ∧ v.isAvailableVLAN i mac = true) := by
  unfold setVLAN
  by_cases ha : v.isAvailableVLAN i mac = true
  · by_cases hm : mac = mac'
    · subst hm
      simp [ha, taken, or_comm]
    · simp [ha, hm, taken]
  · simp [ha]

theorem TakenInRange.setVLAN {v : ScheduleConfigVLAN} (h : v.TakenInRange) (i : UInt16)
    (mac : String) : (v.setVLAN i mac).2.TakenInRange := by
  intro mac' j hj
  rw [InRange, setVLAN_minVlan, setVLAN_maxVlan]
  rcases mem_taken_setVLAN.1 hj with hj | ⟨-, rfl, ha⟩
  · exact h mac' j hj
  · exact (isAvailableVLAN_iff.1 ha).1

theorem takenInRange_init (min max : UInt16) : (init min max).TakenInRange := by
  intro mac vlanId hmem
  rw [taken, ScheduleConfigVLAN.init, QMap.value_empty] at hmem
  exact absurd hmem (Finset.notMem_empty _)

theorem WellFormed.setVLAN {v : ScheduleConfigVLAN} (h : v.WellFormed) (i : UInt16)
    (mac : String) : (v.setVLAN i mac).2.WellFormed where
  range := by simpa using h.range
  taken_inRange := TakenInRange.setVLAN h.taken_inRange i mac

theorem WellFormed.init {min max : UInt16} (h : min ≤ max) : (init min max).WellFormed where
  range := h
  taken_inRange := takenInRange_init min max

/-- **The search, whichever way it is entered.**  A MAC without an entry has no
taken ids, so the loop would leave at once with the cursor. -/
theorem generateSystemAssignVLAN_of_run {v : ScheduleConfigVLAN} {found : Option UInt16}
    (h : Loop.run (v.searchStep (v.taken mac)) fuel v.lastAssignVlan = some found) :
    v.generateSystemAssignVLAN fuel mac = some (v.assign mac found) := by
  unfold generateSystemAssignVLAN
  by_cases hc : v.vlanMap.contains mac = true
  · rw [if_pos hc, show v.vlanMap.value mac = v.taken mac from rfl, h, map_some]
  · rw [if_neg hc]
    rw [taken_of_contains_eq_false (Bool.not_eq_true _ ▸ hc)] at h
    cases fuel with
    | zero => simp [Loop.run] at h
    | succ fuel =>
      rw [Loop.run, searchStep, if_neg (Finset.notMem_empty _)] at h
      rw [← some.inj h]

/-- Every result of a call is what some end of the search makes of the object. -/
theorem exists_assign_of_generate {v : ScheduleConfigVLAN}
    {result : Status × UInt16 × ScheduleConfigVLAN}
    (h : v.generateSystemAssignVLAN fuel mac = some result) :
    ∃ found, v.assign mac found = result := by
  unfold generateSystemAssignVLAN at h
  split_ifs at h
  · obtain ⟨found, -, hfound⟩ := map_eq_some_iff.1 h
    exact ⟨found, hfound⟩
  · exact ⟨_, some.inj h⟩

theorem TakenInRange.assign {v : ScheduleConfigVLAN} (h : v.TakenInRange) (mac : String)
    (found : Option UInt16) : (v.assign mac found).2.2.TakenInRange := by
  cases found with
  | none => exact h
  | some vlanId => exact h.setVLAN vlanId mac

theorem WellFormed.assign {v : ScheduleConfigVLAN} (h : v.WellFormed) (mac : String)
    (found : Option UInt16) : (v.assign mac found).2.2.WellFormed := by
  cases found with
  | none => exact h
  | some vlanId => exact ⟨(h.setVLAN vlanId mac).range, TakenInRange.assign h.taken_inRange mac _⟩

/-! ### The cursor inside the range -/

/-- How many rounds the search is away from coming back to the cursor. -/
def ahead (v : ScheduleConfigVLAN) (x : UInt16) : ℕ :=
  if x < v.lastAssignVlan then v.lastAssignVlan.toNat - x.toNat
  else v.maxVlan.toNat - x.toNat + 1 + (v.lastAssignVlan.toNat - v.minVlan.toNat)

/-- What the search knows at the head of its loop: it stands in the range, and
every id farther ahead than the present one is taken. -/
structure Searched (v : ScheduleConfigVLAN) (vlanSet : Finset UInt16) (x : UInt16) : Prop where
  inRange : v.InRange x
  taken : ∀ w, v.InRange w → v.ahead x < v.ahead w → w ∈ vlanSet

variable {v : ScheduleConfigVLAN} {vlanSet : Finset UInt16} {x y : UInt16}

/-- The successor of an id in the cyclic order of the range. -/
def succVlan (v : ScheduleConfigVLAN) (x : UInt16) : UInt16 :=
  if x = v.maxVlan then v.minVlan else x + 1

theorem toNat_succVlan (hx : v.InRange x) :
    (v.succVlan x).toNat = if x.toNat = v.maxVlan.toNat then v.minVlan.toNat else x.toNat + 1 := by
  obtain ⟨hmin, hmax⟩ := hx
  rw [UInt16.le_iff_toNat_le] at hmin hmax
  have hb := v.maxVlan.toNat_lt
  unfold succVlan
  by_cases h : x = v.maxVlan
  · simp [h]
  · have h' : x.toNat ≠ v.maxVlan.toNat := fun e => h (UInt16.toNat_inj.1 e)
    rw [if_neg h, if_neg h', UInt16.toNat_add]
    simp only [UInt16.toNat_one]
    omega

theorem inRange_succVlan (hv : v.minVlan ≤ v.maxVlan) (hx : v.InRange x) :
    v.InRange (v.succVlan x) := by
  have hs := toNat_succVlan hx
  obtain ⟨hmin, hmax⟩ := hx
  rw [InRange, UInt16.le_iff_toNat_le, UInt16.le_iff_toNat_le, hs]
  rw [UInt16.le_iff_toNat_le] at hmin hmax hv
  split_ifs <;> omega

/-- Each round comes one step closer, until the successor is the cursor. -/
theorem ahead_succVlan (hv : v.minVlan ≤ v.maxVlan) (hc : v.InRange v.lastAssignVlan)
    (hx : v.InRange x) :
    v.ahead x = if v.succVlan x = v.lastAssignVlan then 1 else v.ahead (v.succVlan x) + 1 := by
  have hs := toNat_succVlan hx
  obtain ⟨hxmin, hxmax⟩ := hx
  obtain ⟨hcmin, hcmax⟩ := hc
  unfold ahead
  simp only [UInt16.lt_iff_toNat_lt, ← UInt16.toNat_inj, hs]
  rw [UInt16.le_iff_toNat_le] at hxmin hxmax hcmin hcmax hv
  split_ifs <;> omega

/-- The cyclic distance tells the ids of the range apart. -/
theorem eq_of_ahead_eq (hc : v.InRange v.lastAssignVlan) (hx : v.InRange x) (hy : v.InRange y)
    (h : v.ahead x = v.ahead y) : x = y := by
  obtain ⟨hxmin, hxmax⟩ := hx
  obtain ⟨hymin, hymax⟩ := hy
  obtain ⟨hcmin, hcmax⟩ := hc
  unfold ahead at h
  simp only [UInt16.lt_iff_toNat_lt] at h
  rw [UInt16.le_iff_toNat_le] at hxmin hxmax hcmin hcmax hymin hymax
  rw [← UInt16.toNat_inj]
  split_ifs at h <;> omega

theorem searched_cursor (hc : v.InRange v.lastAssignVlan) :
    v.Searched vlanSet v.lastAssignVlan where
  inRange := hc
  taken w hw hlt := by
    exfalso
    obtain ⟨hwmin, hwmax⟩ := hw
    obtain ⟨hcmin, hcmax⟩ := hc
    unfold ahead at hlt
    simp only [UInt16.lt_iff_toNat_lt] at hlt
    rw [UInt16.le_iff_toNat_le] at hwmin hwmax hcmin hcmax
    split_ifs at hlt <;> omega

/-- A round that goes on has learnt that the present id is taken. -/
theorem Searched.step (hv : v.minVlan ≤ v.maxVlan) (hc : v.InRange v.lastAssignVlan)
    (h : v.Searched vlanSet x) (hmem : x ∈ vlanSet) (hne : v.succVlan x ≠ v.lastAssignVlan) :
    v.Searched vlanSet (v.succVlan x) ∧ v.ahead (v.succVlan x) < v.ahead x := by
  have ha := ahead_succVlan hv hc h.inRange
  rw [if_neg hne] at ha
  refine ⟨⟨inRange_succVlan hv h.inRange, fun w hw hlt => ?_⟩, by omega⟩
  rcases Nat.lt_or_ge (v.ahead x) (v.ahead w) with hlt' | hge
  · exact h.taken w hw hlt'
  · obtain rfl := eq_of_ahead_eq hc h.inRange hw (by omega)
    exact hmem

/-- The search comes back to the cursor only when the whole range is taken. -/
theorem Searched.full (hv : v.minVlan ≤ v.maxVlan) (hc : v.InRange v.lastAssignVlan)
    (h : v.Searched vlanSet x) (hmem : x ∈ vlanSet) (he : v.succVlan x = v.lastAssignVlan)
    {w : UInt16} (hw : v.InRange w) : w ∈ vlanSet := by
  have hax := ahead_succVlan hv hc h.inRange
  rw [if_pos he] at hax
  rcases Nat.lt_or_ge 1 (v.ahead w) with hlt | hge
  · exact h.taken w hw (by omega)
  · have haw := ahead_succVlan hv hc hw
    obtain rfl := eq_of_ahead_eq hc h.inRange hw (by split_ifs at haw <;> omega)
    exact hmem

/-- The end of the search: a free id of the range, or a range wholly taken. -/
def SearchEnd (v : ScheduleConfigVLAN) (vlanSet : Finset UInt16) : Option UInt16 → Prop
  | none => ∀ w, v.InRange w → w ∈ vlanSet
  | some x => v.InRange x ∧ x ∉ vlanSet

theorem searchStep_eq : v.searchStep vlanSet x =
    if x ∈ vlanSet then
      if v.succVlan x = v.lastAssignVlan then .done none else .next (v.succVlan x)
    else .done (some x) := rfl

/-- **A search that ends** with the cursor in the range ends at a free id of the range, or
with nothing when the whole range is taken. -/
theorem searchEnd_of_run (hv : v.minVlan ≤ v.maxVlan) (hc : v.InRange v.lastAssignVlan)
    {found : Option UInt16}
    (h : Loop.run (v.searchStep vlanSet) fuel v.lastAssignVlan = some found) :
    v.SearchEnd vlanSet found := by
  refine Loop.run_rule (I := v.Searched vlanSet) (Q := v.SearchEnd vlanSet) h
    (searched_cursor hc) (fun t u _ ht hu => ?_) fun t r _ ht hr => ?_
  · rw [searchStep_eq] at hu
    split_ifs at hu with hmem he
    obtain rfl := Iter.next.inj hu
    exact (ht.step hv hc hmem he).1
  · rw [searchStep_eq] at hr
    split_ifs at hr with hmem he <;> cases hr
    · exact fun w hw => ht.full hv hc hmem he hw
    · exact ⟨ht.inRange, hmem⟩

/-- **The search is right while the cursor is in the range:** it ends, at a free
id of the range, or with nothing when the whole range is taken. -/
theorem exists_search (hv : v.minVlan ≤ v.maxVlan) (hc : v.InRange v.lastAssignVlan)
    (vlanSet : Finset UInt16) :
    ∃ fuel found, Loop.run (v.searchStep vlanSet) fuel v.lastAssignVlan = some found ∧
      v.SearchEnd vlanSet found := by
  have hround : ∀ x, v.Searched vlanSet x → (∃ r, v.searchStep vlanSet x = .done r) ∨
      ∃ y, v.searchStep vlanSet x = .next y ∧ v.Searched vlanSet y ∧ v.ahead y < v.ahead x := by
    intro x hx
    rw [searchStep_eq]
    by_cases hmem : x ∈ vlanSet
    · by_cases he : v.succVlan x = v.lastAssignVlan
      · exact Or.inl ⟨none, by rw [if_pos hmem, if_pos he]⟩
      · exact Or.inr ⟨_, by rw [if_pos hmem, if_neg he], hx.step hv hc hmem he⟩
    · exact Or.inl ⟨some x, by rw [if_neg hmem]⟩
  obtain ⟨found, hrun⟩ := Loop.exists_run v.ahead (searched_cursor hc) hround (Nat.lt_succ_self _)
  exact ⟨_, found, hrun, searchEnd_of_run hv hc hrun⟩

/-- **A call with the cursor in the range is right.** -/
theorem assignsFreshVlan_of_cursor_mem (h : v.WellFormed) (hc : v.InRange v.lastAssignVlan)
    (mac : String) : v.AssignsFreshVlan mac := by
  obtain ⟨fuel, found, hrun, hfound⟩ := exists_search h.range hc (v.taken mac)
  refine ⟨_, _, _, ⟨fuel, generateSystemAssignVLAN_of_run hrun⟩, ?_, ?_⟩
  · cases found with
    | none => intro hs; cases hs
    | some x =>
      intro _
      exact ⟨hfound.1, hfound.2,
        mem_taken_setVLAN.2 (Or.inr ⟨rfl, rfl, isAvailableVLAN_iff.2 hfound⟩)⟩
  · cases found with
    | none => rintro ⟨w, hw, hfree⟩; exact absurd (hfound w hw) hfree
    | some x => exact fun _ => rfl

/-! ### The cursor outside the range -/

/-- With the cursor on an id that is not taken, the search stops before it begins. -/
theorem generate_of_cursor_not_taken {result : Status × UInt16 × ScheduleConfigVLAN}
    (h : v.lastAssignVlan ∉ v.taken mac) (hr : v.generateSystemAssignVLAN fuel mac = some result) :
    v.assign mac (some v.lastAssignVlan) = result := by
  unfold generateSystemAssignVLAN at hr
  split_ifs at hr
  · cases fuel with
    | zero => simp [Loop.run] at hr
    | succ fuel =>
      rw [Loop.run, searchStep, if_neg (show _ ∉ v.vlanMap.value mac from h)] at hr
      exact some.inj hr
  · exact some.inj hr

/-- **With the cursor outside the range a call returns the cursor itself.**  No
id out there is ever recorded, so the search stops before it begins. -/
theorem generate_of_cursor_not_mem (h : v.WellFormed) (hc : ¬v.InRange v.lastAssignVlan)
    {v' : ScheduleConfigVLAN} (hr : v.Returns mac status vlanId v') :
    status = .success ∧ vlanId = v.lastAssignVlan := by
  obtain ⟨fuel, hr⟩ := hr
  have hassign := generate_of_cursor_not_taken (fun hm => hc (h.taken_inRange mac _ hm)) hr
  rw [assign, Prod.mk.injEq, Prod.mk.injEq] at hassign
  exact ⟨hassign.1.symm, hassign.2.1.symm⟩

/-- **A call does what it is for exactly when the cursor is in the range.** -/
theorem assignsFreshVlan_iff (h : v.WellFormed) (mac : String) :
    v.AssignsFreshVlan mac ↔ v.InRange v.lastAssignVlan := by
  refine ⟨fun ⟨status, vlanId, v', hr, hok, _⟩ => ?_, fun hc =>
    assignsFreshVlan_of_cursor_mem h hc mac⟩
  by_contra hc
  obtain ⟨rfl, rfl⟩ := generate_of_cursor_not_mem h hc hr
  exact hc (hok rfl).1

/-! ### What a call leaves behind -/

/-- The call has an id to give: a free one of the range, or the cursor outside of it. -/
def HasVlan (v : ScheduleConfigVLAN) (mac : String) : Prop :=
  v.InRange v.lastAssignVlan → ∃ w, v.InRange w ∧ w ∉ v.taken mac

/-- **What a call finds**: an id that is not taken, in the range or at the cursor, or nothing,
since the whole range is taken. -/
theorem found_of_generate (h : v.TakenInRange) {result : Status × UInt16 × ScheduleConfigVLAN}
    (hr : v.generateSystemAssignVLAN fuel mac = some result) :
    (∃ vlanId, (v.InRange vlanId ∨ vlanId = v.lastAssignVlan) ∧ vlanId ∉ v.taken mac ∧
      v.assign mac (some vlanId) = result) ∨
    v.InRange v.lastAssignVlan ∧ (∀ w, v.InRange w → w ∈ v.taken mac) ∧
      v.assign mac none = result := by
  by_cases hfree : v.lastAssignVlan ∉ v.taken mac
  · exact .inl ⟨v.lastAssignVlan, .inr rfl, hfree, generate_of_cursor_not_taken hfree hr⟩
  · have htaken := not_not.1 hfree
    have hc := h mac _ htaken
    have hv : v.minVlan ≤ v.maxVlan := UInt16.le_trans hc.1 hc.2
    have hcont : v.vlanMap.contains mac = true := by
      by_contra hno
      rw [taken_of_contains_eq_false (Bool.not_eq_true _ ▸ hno)] at htaken
      exact absurd htaken (Finset.notMem_empty _)
    unfold generateSystemAssignVLAN at hr
    rw [if_pos hcont] at hr
    obtain ⟨found, hrun, hassign⟩ := map_eq_some_iff.1 hr
    have hend := searchEnd_of_run hv hc hrun
    cases found with
    | none => exact .inr ⟨hc, hend, hassign⟩
    | some vlanId => exact .inl ⟨vlanId, .inl hend.1, hend.2, hassign⟩

/-- **A call succeeds exactly when it has an id to give.** -/
theorem generate_success_iff (h : v.TakenInRange) {v' : ScheduleConfigVLAN}
    (hr : v.generateSystemAssignVLAN fuel mac = some (status, vlanId, v')) :
    status = .success ↔ v.HasVlan mac := by
  rcases found_of_generate h hr with ⟨found, hin, hfree, hassign⟩ | ⟨hc, hall, hassign⟩
  · refine iff_of_true (congrArg Prod.fst hassign).symm fun hc => ⟨found, ?_, hfree⟩
    rcases hin with hin | rfl
    · exact hin
    · exact hc
  · refine iff_of_false (fun hs => ?_) fun hhas => ?_
    · have hst := congrArg Prod.fst hassign
      rw [show (status, vlanId, v').1 = Status.success from hs] at hst
      cases hst
    · obtain ⟨w, hw, hfree⟩ := hhas hc
      exact hfree (hall w hw)

/-- **A call leaves the object as it was exactly when it fails**: an id that is given is taken
now, or the cursor has moved. -/
theorem generate_unchanged_iff (h : v.TakenInRange) {v' : ScheduleConfigVLAN}
    (hr : v.generateSystemAssignVLAN fuel mac = some (status, vlanId, v')) :
    v' = v ↔ ¬v.HasVlan mac := by
  rw [← generate_success_iff h hr]
  rcases found_of_generate h hr with ⟨found, hin, hfree, hassign⟩ | ⟨-, -, hassign⟩
  · have hst : status = .success := (congrArg Prod.fst hassign).symm
    have hv' : v' = { (v.setVLAN found mac).2 with lastAssignVlan := found + 1 } :=
      (congrArg (fun r => r.2.2) hassign).symm
    refine iff_of_false (fun heq => ?_) fun hne => hne hst
    rw [heq] at hv'
    rcases hin with hin | rfl
    · have htaken : found ∈ (v.setVLAN found mac).2.taken mac :=
        mem_taken_setVLAN.2 (.inr ⟨rfl, rfl, isAvailableVLAN_iff.2 ⟨hin, hfree⟩⟩)
      rw [hv'] at hfree
      exact hfree htaken
    · have hcursor : v.lastAssignVlan = v.lastAssignVlan + 1 :=
        congrArg ScheduleConfigVLAN.lastAssignVlan hv'
      have hnat := congrArg UInt16.toNat hcursor
      rw [UInt16.toNat_add, UInt16.toNat_one] at hnat
      have := v.lastAssignVlan.toNat_lt
      omega
  · refine iff_of_true (congrArg (fun r => r.2.2) hassign).symm fun hs => ?_
    have hfst := congrArg Prod.fst hassign
    rw [show (status, vlanId, v').1 = Status.success from hs] at hfst
    cases hfst

end ScheduleConfigVLAN

/-! ### Sequences of calls -/

/-- A call on an `ActScheduleConfigVLAN`. -/
inductive VlanCall where
  | setVLAN (vlanId : UInt16) (destinationMac : String)
  | generateSystemAssignVLAN (destinationMac : String)

namespace VlanCall

/-- The call, made on `v`, returns and leaves `v'`. -/
def Leads (v : ScheduleConfigVLAN) : VlanCall → ScheduleConfigVLAN → Prop
  | setVLAN vlanId mac, v' => v' = (v.setVLAN vlanId mac).2
  | generateSystemAssignVLAN mac, v' => ∃ status vlanId, v.Returns mac status vlanId v'

/-- The calls, made one after the other from `v`, end in `v'`. -/
inductive Run : ScheduleConfigVLAN → List VlanCall → ScheduleConfigVLAN → Prop
  | nil (v : ScheduleConfigVLAN) : Run v [] v
  | snoc {v v' v'' : ScheduleConfigVLAN} {calls : List VlanCall} {call : VlanCall} :
      Run v calls v' → call.Leads v' v'' → Run v (calls ++ [call]) v''

/-- Every `GenerateSystemAssignVLAN` of the sequence meets `P`, on the object it
is called on. -/
def EachGenerate (v : ScheduleConfigVLAN) (calls : List VlanCall)
    (P : ScheduleConfigVLAN → String → Prop) : Prop :=
  ∀ before mac after v', calls = before ++ generateSystemAssignVLAN mac :: after →
    Run v before v' → P v' mac

variable {v v' : ScheduleConfigVLAN} {calls : List VlanCall}

/-- What a call does to the object: some ids are recorded as `SetVLAN` records
them, and the cursor moves. -/
theorem Leads.wellFormed {call : VlanCall} (h : call.Leads v v') (hv : v.WellFormed) :
    v'.WellFormed := by
  cases call with
  | setVLAN vlanId mac =>
    obtain rfl : v' = _ := h
    exact hv.setVLAN vlanId mac
  | generateSystemAssignVLAN mac =>
    obtain ⟨status, vlanId, fuel, hr⟩ := h
    obtain ⟨found, hfound⟩ := ScheduleConfigVLAN.exists_assign_of_generate hr
    have hwf := hv.assign mac found
    rwa [hfound] at hwf

theorem Run.wellFormed (h : Run v calls v') (hv : v.WellFormed) : v'.WellFormed := by
  induction h with
  | nil => exact hv
  | snoc _ hcall ih => exact hcall.wellFormed ih

/-- **System VLAN assignment.**  In a sequence of `SetVLAN` and
`GenerateSystemAssignVLAN` calls from the initial object every call of the
latter assigns a fresh id of the range exactly when every one of them finds the
cursor inside the range. -/
theorem eachGenerate_assignsFreshVlan_iff {min max : UInt16} (h : min ≤ max)
    (calls : List VlanCall) :
    EachGenerate (.init min max) calls (fun v mac => v.AssignsFreshVlan mac) ↔
      EachGenerate (.init min max) calls (fun v _ => v.InRange v.lastAssignVlan) := by
  have hiff : ∀ before v' mac, Run (.init min max) before v' →
      (v'.AssignsFreshVlan mac ↔ v'.InRange v'.lastAssignVlan) := fun before v' mac hrun =>
    ScheduleConfigVLAN.assignsFreshVlan_iff (hrun.wellFormed (.init h)) mac
  refine ⟨fun hgen before mac after v' hcalls hrun => ?_,
    fun hgen before mac after v' hcalls hrun => ?_⟩
  · exact (hiff before v' mac hrun).1 (hgen before mac after v' hcalls hrun)
  · exact (hiff before v' mac hrun).2 (hgen before mac after v' hcalls hrun)

/-- The hypotheses can be met: a range of two ids. -/
theorem eachGenerate_assignsFreshVlan_iff_two :
    EachGenerate (.init 1 2) [generateSystemAssignVLAN "01-80-C2-00-00-0E"]
        (fun v mac => v.AssignsFreshVlan mac) ↔
      EachGenerate (.init 1 2) [generateSystemAssignVLAN "01-80-C2-00-00-0E"]
        (fun v _ => v.InRange v.lastAssignVlan) :=
  eachGenerate_assignsFreshVlan_iff (by decide) _

/-- With the range `[1, 1]` the first call takes the only id, and the second,
for another MAC whose range is all free, returns the id 2. -/
theorem not_eachGenerate_assignsFreshVlan : ¬EachGenerate (.init 1 1)
      [generateSystemAssignVLAN "01-80-C2-00-00-0E", generateSystemAssignVLAN "01-80-C2-00-00-0F"]
      (fun v mac => v.AssignsFreshVlan mac) := by
  intro h
  let first := (ScheduleConfigVLAN.init 1 1).assign "01-80-C2-00-00-0E" (some 1)
  have hfirst : (generateSystemAssignVLAN "01-80-C2-00-00-0E").Leads (.init 1 1) first.2.2 :=
    ⟨_, _, 0, rfl⟩
  obtain ⟨status, vlanId, v', ⟨fuel, hr⟩, hok, -⟩ :=
    h [generateSystemAssignVLAN "01-80-C2-00-00-0E"] "01-80-C2-00-00-0F" [] first.2.2 rfl
      (show Run _ ([] ++ [_]) _ from .snoc (.nil _) hfirst)
  have hr' : first.2.2.assign "01-80-C2-00-00-0F" (some 2) = (status, vlanId, v') :=
    some.inj hr
  rw [ScheduleConfigVLAN.assign, Prod.mk.injEq, Prod.mk.injEq] at hr'
  obtain ⟨rfl, rfl, -⟩ := hr'
  exact absurd (hok rfl).1 (by unfold ScheduleConfigVLAN.InRange; decide)

end VlanCall

end Algorithm
end Sebastian
