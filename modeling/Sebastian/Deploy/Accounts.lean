/-
# The accounts after a deployment

`Deployer.syncDevicesUserAccount` (`sebastian/modules/deploy/deployer_handler.go`) in
`Deploy`.  The account tables that it gets are those of a `DeviceConfig` that `Deploy` has
just declared, not of the configuration that is deployed, so every device that was found
gets the default account of its profile (`StoresDevices.lookups`).

The project that is deployed as it is was read without passwords (`show_password`), and
all of its devices are written back, so the other devices lose theirs.
`accountsRight_iff` says for which configurations the stored accounts are right for all
that.
-/

import Sebastian.Deploy.DeviceResults
import Sebastian.Lib.Except

namespace Sebastian
namespace Deploy

open ExceptRule List

/-! ### What is read and what is meant -/

/-- `HidePassword` -/
def Device.hidePassword (device : Device) : Device :=
  { device with account := { device.account with password := "" } }

/-- The devices that `Deploy` reads of the stored ones: those of the current project without the
passwords, those of a design baseline with them. -/
def handedOut (current : Bool) (stored : List Device) : List Device :=
  if current then stored.map Device.hidePassword else stored

/-- The device with this id. -/
def deviceOf (devices : List Device) (id : ℤ) : Option Device := devices.find? (·.id == id)

/-- The connection account is this user account. -/
def Account.Is (account : Account) (user : UserAccount) : Prop :=
  account.username = user.username ∧ account.password = user.password

/-- **The accounts are right**: a device that was deployed has the account that its table names,
or the default account of its profile if it has no table, and any other device the account that
it had. -/
structure AccountsRight (profiles : List DeviceProfile) (tables : QMap ℤ UserAccountTable)
    (Deployed : ℤ → Prop) (stored kept : List Device) : Prop where
  ids : kept.map (·.id) = stored.map (·.id)
  specified : ∀ (id : ℤ) (table : UserAccountTable), Deployed id → tables[id]? = some table →
    ∃ user device, table.accounts[table.syncConnectionAccount]? = some user ∧
      deviceOf kept id = some device ∧ device.account.Is user
  default : ∀ id : ℤ, Deployed id → tables[id]? = none →
    ∃ before user device, deviceOf stored id = some before ∧
      getDeviceDefaultAccount profiles before = .ok user ∧
      deviceOf kept id = some device ∧ device.account.Is user
  others : ∀ id, ¬Deployed id →
    (deviceOf kept id).map (·.account) = (deviceOf stored id).map (·.account)

/-- **What the configuration must be like**: the account that a table names is the default
account of the device, and if the current project is deployed the other devices have no
password. -/
structure AccountsAgree (profiles : List DeviceProfile) (tables : QMap ℤ UserAccountTable)
    (Deployed : ℤ → Prop) (current : Bool) (stored : List Device) : Prop where
  specified : ∀ (id : ℤ) (table : UserAccountTable), Deployed id → tables[id]? = some table →
    ∃ user device default, table.accounts[table.syncConnectionAccount]? = some user ∧
      deviceOf stored id = some device ∧ getDeviceDefaultAccount profiles device = .ok default ∧
      default.username = user.username ∧ default.password = user.password
  hidden : current = true → ∀ id device, ¬Deployed id → deviceOf stored id = some device →
    device.account.password = ""

/-! ### The loop over the devices -/

section
variable {env : Environment} {request : Request} {devices stored kept : List Device}
  {device : Device} {mapping : QMap ℤ String} {profiles : List DeviceProfile}
  {ids : List ℤ} {id : ℤ} {current : Bool}

theorem updateProjectDevice_cons (first : Device) :
    updateProjectDevice (first :: devices) device =
      if first.id = device.id then device :: devices
      else first :: updateProjectDevice devices device := by
  unfold updateProjectDevice
  rw [findIdx?_cons]
  by_cases hid : first.id = device.id
  · rw [if_pos hid, if_pos (beq_iff_eq.2 hid)]
    rfl
  · rw [if_neg hid, if_neg (by simpa using hid)]
    cases devices.findIdx? (·.id == device.id) <;> rfl

theorem id_of_deviceOf (h : deviceOf devices id = some device) : device.id = id :=
  beq_iff_eq.1 (find?_eq_some_iff_append.1 h).1

theorem map_id_updateProjectDevice :
    (updateProjectDevice devices device).map (·.id) = devices.map (·.id) := by
  induction devices with
  | nil => rfl
  | cons first devices ih =>
    rw [updateProjectDevice_cons]
    split_ifs with hid
    · rw [map_cons, map_cons, hid]
    · rw [map_cons, map_cons, ih]

/-- **The device is found with what it was updated to**, and the others as they were. -/
theorem deviceOf_updateProjectDevice (h : (deviceOf devices device.id).isSome) :
    deviceOf (updateProjectDevice devices device) id =
      if id = device.id then some device else deviceOf devices id := by
  unfold deviceOf at h ⊢
  induction devices with
  | nil => cases h
  | cons first devices ih =>
    rw [updateProjectDevice_cons]
    by_cases hid : first.id = device.id
    · rw [if_pos hid, find?_cons, find?_cons, hid]
      by_cases heq : id = device.id
      · rw [if_pos heq, heq, beq_self_eq_true]
      · rw [if_neg heq, beq_eq_false_iff_ne.2 (Ne.symm heq)]
    · rw [find?_cons, beq_eq_false_iff_ne.2 hid] at h
      rw [if_neg hid, find?_cons, find?_cons, ih h]
      by_cases heq : first.id = id
      · have hne : id ≠ device.id := heq ▸ hid
        rw [heq, beq_self_eq_true]
        exact (if_neg hne).symm
      · rw [beq_eq_false_iff_ne.2 heq]

/-- The device of this id has got the default account. -/
def Defaulted (profiles : List DeviceProfile) (devices kept : List Device) (id : ℤ) : Prop :=
  ∃ device user, deviceOf devices id = some device ∧
    getDeviceDefaultAccount profiles device = .ok user ∧
    deviceOf kept id =
      some { device with account := { username := user.username, password := user.password } }

/-- **What the loop leaves**: the devices that it has been to have got the default account, the
others are as they were. -/
theorem foldlM_sync (hnodup : ids.Nodup)
    (h : ids.foldlM (fun devices deviceId => do
      let device ← getProjectDeviceById devices deviceId
      let account ← connectionAccount profiles ∅ device
      return updateProjectDevice devices { device with account := account }) devices =
        (.ok kept : Except String (List Device))) :
    kept.map (·.id) = devices.map (·.id) ∧ (∀ id ∈ ids, Defaulted profiles devices kept id) ∧
      ∀ id ∉ ids, deviceOf kept id = deviceOf devices id := by
  refine foldlM_rule_passed (I := fun passed kept =>
    kept.map (·.id) = devices.map (·.id) ∧ (∀ id ∈ passed, Defaulted profiles devices kept id) ∧
      ∀ id ∉ passed, deviceOf kept id = deviceOf devices id) h
    ⟨rfl, fun _ hid => absurd hid not_mem_nil, fun _ _ => rfl⟩ ?_
  rintro passed id rest c c' rfl ⟨hids, hpast, hothers⟩ hround
  obtain ⟨device, hdev, hround⟩ := exists_of_bind hround
  obtain ⟨account, haccount, hround⟩ := exists_of_bind hround
  cases hround
  have hnot : id ∉ passed := fun hmem =>
    disjoint_of_nodup_append hnodup hmem mem_cons_self
  have hfind : deviceOf c id = some device := by
    unfold getProjectDeviceById at hdev
    unfold deviceOf
    split at hdev
    · rename_i found hfound
      cases hdev
      exact hfound
    · cases hdev
  have hid := id_of_deviceOf hfind
  obtain ⟨user, huser, haccount⟩ : ∃ user, getDeviceDefaultAccount profiles device = .ok user ∧
      account = { username := user.username, password := user.password } := by
    unfold connectionAccount at haccount
    rw [Std.TreeMap.getElem?_emptyc] at haccount
    obtain ⟨user, huser, haccount⟩ := exists_of_bind haccount
    exact ⟨user, huser, (Except.ok.inj haccount).symm⟩
  have hupd : ∀ id', deviceOf (updateProjectDevice c { device with account := account }) id' =
      if id' = id then some { device with account := account } else deviceOf c id' := by
    intro id'
    rw [deviceOf_updateProjectDevice]
    · rw [hid]
    · show (deviceOf c device.id).isSome
      rw [hid, hfind]
      rfl
  refine ⟨map_id_updateProjectDevice.trans hids, fun id' hid' => ?_, fun id' hid' => ?_⟩
  · by_cases heq : id' = id
    · subst heq
      refine ⟨device, user, (hothers id' hnot).symm.trans hfind, huser, ?_⟩
      rw [hupd, if_pos rfl, haccount]
    · have hmem := (mem_append.1 hid').resolve_right fun hmem =>
        heq (mem_singleton.1 hmem)
      obtain ⟨before, user', hbefore, huser', hkept⟩ := hpast id' hmem
      refine ⟨before, user', hbefore, huser', ?_⟩
      rw [hupd, if_neg heq, hkept]
  · rw [mem_append, mem_singleton, not_or] at hid'
    rw [hupd, if_neg hid'.2, hothers id' hid'.1]

/-- **What a deployment stores**: each device that was found has the default account of its
profile, and the others have what `Deploy` has read. -/
theorem StoresDevices.lookups (h : StoresDevices env devices mapping kept) :
    ∃ profiles, env.getDeviceProfiles = .ok profiles ∧ kept.map (·.id) = devices.map (·.id) ∧
      (∀ id, mapping.contains id = true → Defaulted profiles devices kept id) ∧
      ∀ id, ¬mapping.contains id = true → deviceOf kept id = deviceOf devices id := by
  have hsynced := h.synced
  unfold syncDevicesUserAccount at hsynced
  split at hsynced
  · cases hsynced
  · rename_i profiles hprofs
    obtain ⟨hids, hpast, hothers⟩ := foldlM_sync nodup_map_walk hsynced
    have hmem : ∀ id, id ∈ getNewDeployDeviceIdsByMappingMap env mapping ↔
        mapping.contains id = true := fun id => mem_map_walk.trans contains_iff.symm
    exact ⟨profiles, hprofs, hids, fun id hid => hpast id ((hmem id).2 hid),
      fun id hid => hothers id (mt (hmem id).1 hid)⟩

/-! ### When the accounts are right -/

theorem deviceOf_handedOut : deviceOf (handedOut current stored) id =
    (deviceOf stored id).map fun device => if current then device.hidePassword else device := by
  unfold handedOut deviceOf
  cases current with
  | false => simp
  | true =>
    rw [if_pos rfl, find?_map]
    rfl

theorem map_id_handedOut : (handedOut current stored).map (·.id) = stored.map (·.id) := by
  unfold handedOut
  cases current with
  | false => rfl
  | true =>
    rw [if_pos rfl, map_map]
    rfl

/-- **The accounts after a deployment are right** exactly when the account that a table names is
the default account, and no other device has a password that was hidden. -/
theorem accountsRight_iff (tables : QMap ℤ UserAccountTable)
    (hproject : env.getProject = .ok (handedOut current stored))
    (h : (deployment env request).Completed) :
    ∃ profiles kept, env.getDeviceProfiles = .ok profiles ∧
      StoresDevices env (handedOut current stored) (mappingOf env request) kept ∧
      (AccountsRight profiles tables (Found env request) stored kept ↔
        AccountsAgree profiles tables (Found env request) current stored) := by
  obtain ⟨devices, _, _, mapping, _, _, _, hreports, kept, hstores⟩ := exists_of_completed h
  obtain rfl := Except.ok.inj (hreports.project.symm.trans hproject)
  rw [hreports.mappingOf_eq.symm] at hstores
  obtain ⟨profiles, hprofs, hids, hfound, hothers⟩ := hstores.lookups
  refine ⟨profiles, kept, hprofs, hstores, ?_⟩
  -- the default account does not depend on what was hidden
  have hdefault : ∀ id, Found env request id → ∃ device user, deviceOf stored id = some device ∧
      getDeviceDefaultAccount profiles device = .ok user ∧
      ∃ device', deviceOf kept id = some device' ∧ device'.account.Is user := by
    intro id hid
    obtain ⟨device, user, hdev, huser, hkept⟩ := hfound id hid
    rw [deviceOf_handedOut] at hdev
    obtain ⟨before, hbefore, rfl⟩ := Option.map_eq_some_iff.1 hdev
    refine ⟨before, user, hbefore, ?_, _, hkept, rfl, rfl⟩
    rw [← huser]
    cases current <;> rfl
  constructor
  · intro hright
    refine ⟨fun id table hid htable => ?_, fun hcur id device hid hdev => ?_⟩
    · obtain ⟨user, device, huser, hdev, his⟩ := hright.specified id table hid htable
      obtain ⟨before, default, hbefore, hdefault', device', hdev', his'⟩ := hdefault id hid
      obtain rfl := Option.some.inj (hdev.symm.trans hdev')
      exact ⟨user, before, default, huser, hbefore, hdefault', his'.1.symm.trans his.1,
        his'.2.symm.trans his.2⟩
    · have hkeep := hright.others id hid
      rw [hothers id hid, deviceOf_handedOut, hdev, hcur] at hkeep
      exact (congrArg Account.password (Option.some.inj hkeep)).symm
  · intro hagree
    refine ⟨hids.trans map_id_handedOut, fun id table hid htable => ?_, fun id hid _ => ?_,
      fun id hid => ?_⟩
    · obtain ⟨user, before, default, huser, hbefore, hdefault', heq⟩ :=
        hagree.specified id table hid htable
      obtain ⟨before', default', hbefore', hdefault'', device', hdev', his'⟩ := hdefault id hid
      obtain rfl := Option.some.inj (hbefore.symm.trans hbefore')
      obtain rfl := Except.ok.inj (hdefault'.symm.trans hdefault'')
      exact ⟨user, device', huser, hdev', his'.1.trans heq.1, his'.2.trans heq.2⟩
    · obtain ⟨before, user, hbefore, huser, device', hdev', his'⟩ := hdefault id hid
      exact ⟨before, user, device', hbefore, huser, hdev', his'⟩
    · rw [hothers id hid, deviceOf_handedOut, Option.map_map]
      cases hdev : deviceOf stored id with
      | none => rfl
      | some device =>
        refine congrArg some ?_
        cases hcur : current with
        | false => rfl
        | true =>
          have hempty := hagree.hidden hcur id device hid hdev
          show ({ device.account with password := "" } : Account) = device.account
          rw [← hempty]

end

/-! ### A device with an account of its own -/

/-- A device that is deployed, and one that is not. -/
def twoStored : List Device :=
  [{ id := 1, ipAddress := "a", account := { username := "admin", password := "moxa" } },
    { id := 2, ipAddress := "b", account := { username := "admin", password := "secret" } }]

/-- The account table of the first one. -/
def accountTable (username password : String) : QMap ℤ UserAccountTable :=
  (∅ : QMap ℤ UserAccountTable).insert 1
    { syncConnectionAccount := username
      accounts := (∅ : QMap String UserAccount).insert username
        { username := username, password := password } }

/-- The first one is found and configured. -/
def firstDeployed (current : Bool) : Environment :=
  { sortedAlone with
    getProject := .ok (handedOut current twoStored)
    generateDevicesOfflineConfig := fun _ => .ok ((∅ : QMap ℤ String).insert 1 "f")
    getDevices := .ok [{ deviceId := "m", ip := "a" }] }

/-- The first one is requested. -/
def firstDevice : Request where
  deviceIds := [1]
  skipMappingDevice := true

theorem completed_firstDeployed (current : Bool) :
    (deployment (firstDeployed current) firstDevice).Completed := by
  show Event.completedResponse ∈ (deployment (firstDeployed current) firstDevice).events
  cases current <;> decide +kernel

/-- The table names the account that is the default. -/
theorem accountsRight_iff_firstDeployed :
    ((firstDeployed false).getProject = .ok (handedOut false twoStored) ∧
      (deployment (firstDeployed false) firstDevice).Completed) ∧
    ∃ profiles kept, (firstDeployed false).getDeviceProfiles = .ok profiles ∧
      StoresDevices (firstDeployed false) (handedOut false twoStored)
        (mappingOf (firstDeployed false) firstDevice) kept ∧
      (AccountsRight profiles (accountTable "admin" "moxa") (Found (firstDeployed false) firstDevice)
          twoStored kept ↔
        AccountsAgree profiles (accountTable "admin" "moxa")
          (Found (firstDeployed false) firstDevice) false twoStored) :=
  ⟨⟨rfl, completed_firstDeployed false⟩,
    accountsRight_iff (accountTable "admin" "moxa") rfl (completed_firstDeployed false)⟩

/-- **The account of the table is lost**: the device is stored with the default account. -/
theorem not_accountsRight : (firstDeployed true).getProject = .ok (handedOut true twoStored) ∧
      (deployment (firstDeployed true) firstDevice).Completed ∧
      ∀ profiles kept, (firstDeployed true).getDeviceProfiles = .ok profiles →
        StoresDevices (firstDeployed true) (handedOut true twoStored)
          (mappingOf (firstDeployed true) firstDevice) kept →
        ¬AccountsRight profiles (accountTable "user" "own") (Found (firstDeployed true) firstDevice)
          twoStored kept := by
  refine ⟨rfl, completed_firstDeployed true, fun profiles kept hprofs hstores hright => ?_⟩
  have hfound : Found (firstDeployed true) firstDevice 1 := by decide +kernel
  obtain ⟨profiles', hprofs', -, hdefaulted, -⟩ := hstores.lookups
  obtain rfl := Except.ok.inj (hprofs.symm.trans hprofs')
  cases hprofs
  obtain ⟨device, user, hdev, huser, hkept⟩ := hdefaulted 1 hfound
  cases hdev
  cases huser
  obtain ⟨own, device', hown, hdev', hname, -⟩ := hright.specified 1 _ hfound
    Std.TreeMap.getElem?_insert_self
  rw [Std.TreeMap.getElem?_insert_self] at hown
  cases hown
  obtain rfl := Option.some.inj (hkept.symm.trans hdev')
  exact absurd hname (by decide)

end Deploy
end Sebastian
