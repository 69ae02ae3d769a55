/-
# Scan ranges from the wizard

`ReplaceProjSettingScanIpRangesByMemoryFromWizard` (`core/src/act_core_project_setting.cpp`), up to
the `UpdateProjectSetting` that its ranges are handed to.  The wizard has left a connection
configuration for every device it found.  The addresses of the devices that are not skipped are
sorted, and cut where the next one is not the successor, or is to be connected to in another way.

Two configurations are compared in the fields that a connection is made with, so that the comparison
is an equality of what is left of them (`compareConnectionConfigConsistent_iff`).  The loop carries
a range that it has not closed yet; `ScanCut` says what the ranges are worth that it makes from
there, and `scanCut_scanRanges` follows it to the last address.

Before the loop, the first address of the list is read, also when every device is skipped.
That apart, the ranges cover exactly the addresses (`wizardScanIpRanges_cover_iff`).
-/

import Mathlib
import Sebastian.Core.AddressAssignment

namespace Sebastian
namespace Core

/-! ### Connection configurations -/

/-- `ActDeviceAccount` -/
structure DeviceAccount where
  defaultSetting : Bool := true
  username : String := "admin"
  password : String := "moxa"
  deriving DecidableEq, Inhabited

/-- `ActSnmpVersionEnum` -/
inductive SnmpVersion where
  | v1
  | v2c
  | v3
  deriving DecidableEq

/-- `ActSnmpAuthenticationTypeEnum` -/
inductive SnmpAuthenticationType where
  | none
  | md5
  | sha1
  deriving DecidableEq

/-- `ActSnmpDataEncryptionTypeEnum` -/
inductive SnmpDataEncryptionType where
  | none
  | des
  | aes
  deriving DecidableEq

/-- `ActSnmpConfiguration` -/
structure SnmpConfiguration where
  defaultSetting : Bool := true
  version : SnmpVersion := .v2c
  port : UInt16 := 161
  readCommunity : String := "public"
  writeCommunity : String := "private"
  username : String := "moxa"
  authenticationType : SnmpAuthenticationType := .none
  authenticationPassword : String := ""
  dataEncryptionType : SnmpDataEncryptionType := .none
  dataEncryptionKey : String := ""
  deriving DecidableEq, Inhabited

/-- `ActRestfulProtocolEnum` -/
inductive RestfulProtocol where
  | http
  | https
  deriving DecidableEq

/-- `ActRestfulConfiguration` -/
structure RestfulConfiguration where
  protocol : RestfulProtocol := .https
  port : UInt16 := 443
  defaultSetting : Bool := true
  deriving DecidableEq, Inhabited

/-- `ActNetconfOverTLS` -/
@[ext] structure NetconfOverTLS where
  tlsPort : UInt16 := 6513
  keyFile : String := ""
  certFile : String := ""
  caCerts : String := ""
  deriving DecidableEq, Inhabited

/-- `ActNetconfConfiguration`; of `ActNetconfOverSSH` it has the port. -/
structure NetconfConfiguration where
  tls : Bool := false
  sshPort : UInt16 := 830
  netconfOverTLS : NetconfOverTLS := {}
  defaultSetting : Bool := true
  deriving DecidableEq, Inhabited

/-- `ActDeviceConnectConfig` -/
structure DeviceConnectConfig where
  account : DeviceAccount := {}
  netconfConfiguration : NetconfConfiguration := {}
  snmpConfiguration : SnmpConfiguration := {}
  restfulConfiguration : RestfulConfiguration := {}
  deriving DecidableEq, Inhabited

/-- `ActDeviceIpConnectConfig` -/
structure DeviceIpConnectConfig extends DeviceConnectConfig where
  ipAddress : String := ""
  enableSnmpSetting : Bool := false
  deriving DecidableEq, Inhabited

/-- `ActScanIpRangeEntry` -/
structure ScanIpRangeEntry extends DeviceConnectConfig where
  id : ℤ := -1
  startIp : String := ""
  endIp : String := ""
  enableSnmpSetting : Bool := true
  autoProbe : Bool := true
  deriving DecidableEq

/-- `ActDeviceAccount::CompareConnectConsistent` -/
def DeviceAccount.compareConnectConsistent (item1 item2 : DeviceAccount) : Bool :=
  item1.username == item2.username && item1.password == item2.password

/-- `ActSnmpConfiguration::CompareConnectConsistent` -/
def SnmpConfiguration.compareConnectConsistent (item1 item2 : SnmpConfiguration) : Bool :=
  item1.version == item2.version && item1.port == item2.port &&
    (if item1.version = .v1 ∨ item1.version = .v2c then
      item1.readCommunity == item2.readCommunity && item1.writeCommunity == item2.writeCommunity
    else true) &&
    (if item1.version = .v3 then
      item1.username == item2.username &&
        item1.authenticationType == item2.authenticationType &&
        item1.authenticationPassword == item2.authenticationPassword &&
        item1.dataEncryptionType == item2.dataEncryptionType &&
        item1.dataEncryptionKey == item2.dataEncryptionKey
    else true)

/-- `ActRestfulConfiguration::CompareConnectConsistent` -/
def RestfulConfiguration.compareConnectConsistent (item1 item2 : RestfulConfiguration) : Bool :=
  item1.protocol == item2.protocol && item1.port == item2.port

/-- `ActNetconfConfiguration::CompareConnectConsistent` -/
def NetconfConfiguration.compareConnectConsistent (item1 item2 : NetconfConfiguration) : Bool :=
  item1.tls == item2.tls &&
    if item1.tls then
      item1.netconfOverTLS.tlsPort == item2.netconfOverTLS.tlsPort &&
        item1.netconfOverTLS.keyFile == item2.netconfOverTLS.keyFile &&
        item1.netconfOverTLS.certFile == item2.netconfOverTLS.certFile &&
        item1.netconfOverTLS.caCerts == item2.netconfOverTLS.caCerts
    else item1.sshPort == item2.sshPort

/-- `CompareConnectionConfigConsistent` -/
def compareConnectionConfigConsistent (item1 item2 : DeviceIpConnectConfig) : Bool :=
  item1.account.compareConnectConsistent item2.account &&
    item1.snmpConfiguration.compareConnectConsistent item2.snmpConfiguration &&
    item1.restfulConfiguration.compareConnectConsistent item2.restfulConfiguration &&
    item1.netconfConfiguration.compareConnectConsistent item2.netconfConfiguration &&
    item1.enableSnmpSetting == item2.enableSnmpSetting

/-! ### The ranges -/

/-- The range that is closed: its configuration is that of its last device, marked as the default
one where it is that of the project. -/
def scanIpRangeEntry (addresses : AddressFormat) (setting : DeviceConnectConfig)
    (current : DeviceIpConnectConfig) (id : ℤ) (startIpNum endIpNum : UInt32) :
      ScanIpRangeEntry where
  id := id
  startIp := addresses.ofIPv4 startIpNum
  endIp := addresses.ofIPv4 endIpNum
  account := { current.account with
    defaultSetting := current.account.compareConnectConsistent setting.account }
  snmpConfiguration := { current.snmpConfiguration with
    defaultSetting :=
      current.snmpConfiguration.compareConnectConsistent setting.snmpConfiguration }
  netconfConfiguration := { current.netconfConfiguration with
    defaultSetting :=
      current.netconfConfiguration.compareConnectConsistent setting.netconfConfiguration }
  restfulConfiguration := { current.restfulConfiguration with
    defaultSetting :=
      current.restfulConfiguration.compareConnectConsistent setting.restfulConfiguration }
  enableSnmpSetting := current.enableSnmpSetting
  autoProbe := true

/-- "Iterator to Generate ScanIpRange list".  `id` is that of the last range that was closed, and
after the last device the cursors are 0. -/
def scanRanges (addresses : AddressFormat) (setting : DeviceConnectConfig)
    (connCfg : ℤ → DeviceIpConnectConfig) :
    ℤ → UInt32 → UInt32 → List (UInt32 × ℤ) → List ScanIpRangeEntry
  | _, _, _, [] => []
  | id, startIpNum, endIpNum, [current] =>
    [scanIpRangeEntry addresses setting (connCfg current.2) (id + 1) startIpNum endIpNum]
  | id, startIpNum, endIpNum, current :: next :: rest =>
    if current.1 + 1 == next.1 &&
        compareConnectionConfigConsistent (connCfg current.2) (connCfg next.2) then
      scanRanges addresses setting connCfg id startIpNum next.1 (next :: rest)
    else
      scanIpRangeEntry addresses setting (connCfg current.2) (id + 1) startIpNum endIpNum ::
        scanRanges addresses setting connCfg (id + 1) next.1 next.1 (next :: rest)

/-- The addresses and the ids of the devices that are not skipped, sorted by the address.  (Devices
with one address may come in any order.) -/
def deviceIpIdPairs (addresses : AddressFormat) (connCfgMap : QMap ℤ DeviceIpConnectConfig)
    (skipDevices : List ℤ) : List (UInt32 × ℤ) :=
  ((connCfgMap.keys.filter (!skipDevices.contains ·)).map fun devId =>
    (addresses.number (connCfgMap.value devId).ipAddress, devId)).insertionSort
      fun pair1 pair2 => pair1.1 ≤ pair2.1

/-- `ReplaceProjSettingScanIpRangesByMemoryFromWizard`: the ranges for the setting of the project.
There are none if `first()` is read of an empty list. -/
def wizardScanIpRanges (addresses : AddressFormat) (setting : DeviceConnectConfig)
    (connCfgMap : QMap ℤ DeviceIpConnectConfig) (skipDevices : List ℤ) :
    Option (List ScanIpRangeEntry) :=
  if connCfgMap.isEmpty then some []
  else
    let pairs := deviceIpIdPairs addresses connCfgMap skipDevices
    pairs.head?.map fun first =>
      scanRanges addresses setting connCfgMap.value 0 first.1 first.1 pairs

/-! ### What a connection is made with -/

/-- What is left of the SNMP configuration in its version. -/
inductive SnmpAccess where
  | community (version : SnmpVersion) (port : UInt16) (readCommunity writeCommunity : String)
  | user (port : UInt16) (username : String) (authenticationType : SnmpAuthenticationType)
      (authenticationPassword : String) (dataEncryptionType : SnmpDataEncryptionType)
      (dataEncryptionKey : String)

/-- What is left of the NETCONF configuration in its transport. -/
inductive NetconfAccess where
  | ssh (port : UInt16)
  | tls (transport : NetconfOverTLS)

/-- What a connection is made with. -/
structure Connection where
  account : String × String
  snmp : SnmpAccess
  restful : RestfulProtocol × UInt16
  netconf : NetconfAccess
  enableSnmp : Bool

def SnmpConfiguration.access (config : SnmpConfiguration) : SnmpAccess :=
  if config.version = .v3 then
    .user config.port config.username config.authenticationType config.authenticationPassword
      config.dataEncryptionType config.dataEncryptionKey
  else .community config.version config.port config.readCommunity config.writeCommunity

def NetconfConfiguration.access (config : NetconfConfiguration) : NetconfAccess :=
  if config.tls then .tls config.netconfOverTLS else .ssh config.sshPort

def DeviceConnectConfig.connection (config : DeviceConnectConfig) (enableSnmp : Bool) :
    Connection where
  account := (config.account.username, config.account.password)
  snmp := config.snmpConfiguration.access
  restful := (config.restfulConfiguration.protocol, config.restfulConfiguration.port)
  netconf := config.netconfConfiguration.access
  enableSnmp := enableSnmp

/-- The connection to a device. -/
def DeviceIpConnectConfig.connection (config : DeviceIpConnectConfig) : Connection :=
  config.toDeviceConnectConfig.connection config.enableSnmpSetting

/-- The connection to the devices of a range. -/
def ScanIpRangeEntry.connection (range : ScanIpRangeEntry) : Connection :=
  range.toDeviceConnectConfig.connection range.enableSnmpSetting

theorem SnmpConfiguration.compareConnectConsistent_iff {x y : SnmpConfiguration} :
    x.compareConnectConsistent y = true ↔ x.access = y.access := by
  unfold compareConnectConsistent access
  cases hx : x.version <;> cases hy : y.version <;> simp [and_assoc]

theorem NetconfConfiguration.compareConnectConsistent_iff {x y : NetconfConfiguration} :
    x.compareConnectConsistent y = true ↔ x.access = y.access := by
  unfold compareConnectConsistent access
  cases hx : x.tls <;> cases hy : y.tls <;> simp [NetconfOverTLS.ext_iff, and_assoc]

/-- **Two configurations are consistent exactly when they make the same connection.** -/
theorem compareConnectionConfigConsistent_iff {x y : DeviceIpConnectConfig} :
    compareConnectionConfigConsistent x y = true ↔ x.connection = y.connection := by
  unfold compareConnectionConfigConsistent DeviceAccount.compareConnectConsistent
    RestfulConfiguration.compareConnectConsistent DeviceIpConnectConfig.connection
    DeviceConnectConfig.connection
  simp only [Bool.and_eq_true, beq_iff_eq, SnmpConfiguration.compareConnectConsistent_iff,
    NetconfConfiguration.compareConnectConsistent_iff, Connection.mk.injEq, Prod.mk.injEq]
  tauto

theorem connection_scanIpRangeEntry {addresses : AddressFormat} {setting : DeviceConnectConfig}
    {current : DeviceIpConnectConfig} {id : ℤ} {startIpNum endIpNum : UInt32} :
    (scanIpRangeEntry addresses setting current id startIpNum endIpNum).connection =
      current.connection := rfl

/-! ### The cut

A range is worth the set of its addresses. -/

/-- The addresses of a range. -/
def ScanIpRangeEntry.addresses (range : ScanIpRangeEntry) (addresses : AddressFormat) :
    Set UInt32 :=
  {number | addresses.number range.startIp ≤ number ∧ number ≤ addresses.number range.endIp}

/-- `AddressStrToNumber` reads what `AddressNumberToStr` has printed. -/
def AddressFormat.RoundTrip (addresses : AddressFormat) : Prop :=
  ∀ number, addresses.number (addresses.ofIPv4 number) = number

section

variable {addresses : AddressFormat} {setting : DeviceConnectConfig}
  {connCfg : ℤ → DeviceIpConnectConfig} {id : ℤ} {startIpNum number : UInt32}
  {current : UInt32 × ℤ} {rest : List (UInt32 × ℤ)} {ranges : List ScanIpRangeEntry}

theorem mem_addresses_scanIpRangeEntry (h : addresses.RoundTrip) {config : DeviceIpConnectConfig}
    {endIpNum : UInt32} :
    number ∈ (scanIpRangeEntry addresses setting config id startIpNum endIpNum).addresses
      addresses ↔ startIpNum ≤ number ∧ number ≤ endIpNum := by
  show addresses.number (addresses.ofIPv4 startIpNum) ≤ number ∧
    number ≤ addresses.number (addresses.ofIPv4 endIpNum) ↔ _
  rw [h, h]

/-- **What the loop makes of an open range and the devices that follow**: the range is from the
first cursor to the current device. -/
structure ScanCut (addresses : AddressFormat) (connCfg : ℤ → DeviceIpConnectConfig)
    (startIpNum : UInt32) (current : UInt32 × ℤ) (rest : List (UInt32 × ℤ))
    (ranges : List ScanIpRangeEntry) : Prop where
  ascending : ranges.Pairwise fun x y =>
    ∀ a ∈ x.addresses addresses, ∀ b ∈ y.addresses addresses, a < b
  cover : ∀ number, (∃ range ∈ ranges, number ∈ range.addresses addresses) ↔
    (startIpNum ≤ number ∧ number ≤ current.1) ∨ ∃ pair ∈ rest, pair.1 = number
  shareOpen : ∀ range ∈ ranges, ∀ number ∈ range.addresses addresses,
    startIpNum ≤ number → number ≤ current.1 → range.connection = (connCfg current.2).connection
  shareRest : ∀ range ∈ ranges, ∀ pair ∈ rest, pair.1 ∈ range.addresses addresses →
    range.connection = (connCfg pair.2).connection

theorem le_successor_iff {a b : UInt32} (hlt : a < b) (hsucc : a + 1 = b) :
    number ≤ b ↔ number ≤ a ∨ b = number := by
  have hb := b.toNat_lt
  have hsum := congrArg UInt32.toNat hsucc
  rw [UInt32.toNat_add] at hsum
  rw [UInt32.lt_iff_toNat_lt] at hlt
  rw [UInt32.le_iff_toNat_le, UInt32.le_iff_toNat_le, ← UInt32.toNat_inj]
  have hone : UInt32.toNat 1 = 1 := rfl
  omega

theorem scanCut_last (h : addresses.RoundTrip) : ScanCut addresses connCfg startIpNum current []
      [scanIpRangeEntry addresses setting (connCfg current.2) id startIpNum current.1] where
  ascending := List.pairwise_singleton _ _
  cover number := by simp [mem_addresses_scanIpRangeEntry h]
  shareOpen range hrange number _ _ _ := by
    rw [List.mem_singleton.1 hrange]
    exact connection_scanIpRangeEntry
  shareRest _ _ _ hpair := absurd hpair List.not_mem_nil

theorem ScanCut.join {next : UInt32 × ℤ} (hstart : startIpNum ≤ current.1)
    (hlt : current.1 < next.1) (hsucc : current.1 + 1 = next.1)
    (hsame : (connCfg current.2).connection = (connCfg next.2).connection)
    (h : ScanCut addresses connCfg startIpNum next rest ranges) :
    ScanCut addresses connCfg startIpNum current (next :: rest) ranges where
  ascending := h.ascending
  cover number := by
    rw [h.cover, le_successor_iff hlt hsucc, List.exists_mem_cons_iff]
    constructor
    · rintro (⟨hle, hcur | heq⟩ | hrest)
      · exact .inl ⟨hle, hcur⟩
      · exact .inr (.inl heq)
      · exact .inr (.inr hrest)
    · rintro (⟨hle, hcur⟩ | heq | hrest)
      · exact .inl ⟨hle, .inl hcur⟩
      · exact .inl ⟨heq ▸ UInt32.le_trans hstart (UInt32.le_of_lt hlt), .inr heq⟩
      · exact .inr hrest
  shareOpen range hrange number hnumber hle hcur := by
    rw [hsame]
    exact h.shareOpen range hrange number hnumber hle
      (UInt32.le_trans hcur (UInt32.le_of_lt hlt))
  shareRest range hrange pair hpair hnumber := by
    rcases List.mem_cons.1 hpair with rfl | hpair
    · exact h.shareOpen range hrange _ hnumber
        (UInt32.le_trans hstart (UInt32.le_of_lt hlt)) (UInt32.le_refl _)
    · exact h.shareRest range hrange pair hpair hnumber

theorem ScanCut.close {next : UInt32 × ℤ} (hround : addresses.RoundTrip)
    (hlt : current.1 < next.1) (hrest : ∀ pair ∈ rest, next.1 < pair.1)
    (h : ScanCut addresses connCfg next.1 next rest ranges) :
    ScanCut addresses connCfg startIpNum current (next :: rest)
      (scanIpRangeEntry addresses setting (connCfg current.2) id startIpNum current.1 ::
        ranges) := by
  -- the ranges that follow begin behind the current device
  have hbehind : ∀ range ∈ ranges, ∀ number ∈ range.addresses addresses, current.1 < number := by
    intro range hrange number hnumber
    rcases (h.cover number).1 ⟨range, hrange, hnumber⟩ with ⟨hle, -⟩ | ⟨pair, hpair, rfl⟩
    · exact UInt32.lt_of_lt_of_le hlt hle
    · exact UInt32.lt_trans hlt (hrest pair hpair)
  have hnotLe : ∀ {number : UInt32}, current.1 < number → ¬number ≤ current.1 :=
    fun hgt => UInt32.not_le.2 hgt
  refine ⟨?ascending, fun number => ?cover, ?shareOpen, ?shareRest⟩
  case ascending =>
    refine List.pairwise_cons.2 ⟨fun range hrange a ha b hb => ?_, h.ascending⟩
    exact UInt32.lt_of_le_of_lt ((mem_addresses_scanIpRangeEntry hround).1 ha).2
      (hbehind range hrange b hb)
  case cover =>
    rw [List.exists_mem_cons_iff, mem_addresses_scanIpRangeEntry hround, h.cover,
      List.exists_mem_cons_iff]
    refine or_congr_right (or_congr_left ⟨fun hle => ?_, ?_⟩)
    · exact UInt32.le_antisymm hle.1 hle.2
    · rintro rfl
      exact ⟨UInt32.le_refl _, UInt32.le_refl _⟩
  case shareOpen =>
    intro range hrange number hnumber _ hle
    rcases List.mem_cons.1 hrange with rfl | hrange
    · exact connection_scanIpRangeEntry
    · exact absurd hle (hnotLe (hbehind range hrange number hnumber))
  case shareRest =>
    intro range hrange pair hpair hnumber
    rcases List.mem_cons.1 hrange with rfl | hrange
    · have hle := ((mem_addresses_scanIpRangeEntry hround).1 hnumber).2
      rcases List.mem_cons.1 hpair with rfl | hpair
      · exact absurd hle (hnotLe hlt)
      · exact absurd hle (hnotLe (UInt32.lt_trans hlt (hrest pair hpair)))
    · rcases List.mem_cons.1 hpair with rfl | hpair
      · exact h.shareOpen range hrange _ hnumber (UInt32.le_refl _) (UInt32.le_refl _)
      · exact h.shareRest range hrange pair hpair hnumber

/-- **The loop cuts the addresses into ranges.** -/
theorem scanCut_scanRanges (hround : addresses.RoundTrip) (hstart : startIpNum ≤ current.1)
    (hsorted : (current :: rest).Pairwise fun x y => x.1 < y.1) :
    ScanCut addresses connCfg startIpNum current rest
      (scanRanges addresses setting connCfg id startIpNum current.1 (current :: rest)) := by
  induction rest generalizing current id startIpNum with
  | nil => exact scanCut_last hround
  | cons next rest ih =>
    obtain ⟨hcur, hrest⟩ := List.pairwise_cons.1 hsorted
    have hlt := hcur next List.mem_cons_self
    rw [scanRanges]
    by_cases hjoin : (current.1 + 1 == next.1 &&
        compareConnectionConfigConsistent (connCfg current.2) (connCfg next.2)) = true
    · rw [if_pos hjoin]
      rw [Bool.and_eq_true, beq_iff_eq, compareConnectionConfigConsistent_iff] at hjoin
      exact (ih (UInt32.le_trans hstart (UInt32.le_of_lt hlt)) hrest).join hstart hlt hjoin.1
        hjoin.2
    · rw [if_neg hjoin]
      exact (ih (UInt32.le_refl _) hrest).close hround hlt (List.pairwise_cons.1 hrest).1

end

/-! ### The devices of the wizard -/

/-- The device has been found with this configuration, and is not skipped. -/
def Chosen (connCfgMap : QMap ℤ DeviceIpConnectConfig) (skipDevices : List ℤ) (devId : ℤ)
    (config : DeviceIpConnectConfig) : Prop :=
  connCfgMap[devId]? = some config ∧ devId ∉ skipDevices

/-- **The ranges cover exactly the devices that are chosen**, each address once and with the
connection to its device. -/
structure CoverChosen (addresses : AddressFormat) (connCfgMap : QMap ℤ DeviceIpConnectConfig)
    (skipDevices : List ℤ) (ranges : List ScanIpRangeEntry) : Prop where
  disjoint : ranges.Pairwise fun x y => Disjoint (x.addresses addresses) (y.addresses addresses)
  union : ⋃ range ∈ ranges, range.addresses addresses =
    {number | ∃ devId config, Chosen connCfgMap skipDevices devId config ∧
      addresses.number config.ipAddress = number}
  share : ∀ range ∈ ranges, ∀ devId config, Chosen connCfgMap skipDevices devId config →
    addresses.number config.ipAddress ∈ range.addresses addresses →
      config.connection = range.connection

/-- No two devices have one address. -/
def DistinctAddresses (addresses : AddressFormat) (connCfgMap : QMap ℤ DeviceIpConnectConfig) :
    Prop :=
  ∀ (x y : ℤ) (configX configY : DeviceIpConnectConfig), connCfgMap[x]? = some configX →
    connCfgMap[y]? = some configY →
    addresses.number configX.ipAddress = addresses.number configY.ipAddress → x = y

variable {addresses : AddressFormat} {setting : DeviceConnectConfig}
  {connCfgMap : QMap ℤ DeviceIpConnectConfig} {skipDevices : List ℤ}

/-- The list of the wizard has the devices that are chosen. -/
theorem mem_deviceIpIdPairs {pair : UInt32 × ℤ} :
    pair ∈ deviceIpIdPairs addresses connCfgMap skipDevices ↔
      ∃ config, Chosen connCfgMap skipDevices pair.2 config ∧
        addresses.number config.ipAddress = pair.1 := by
  unfold deviceIpIdPairs Chosen
  rw [List.mem_insertionSort, List.mem_map]
  constructor
  · rintro ⟨devId, hmem, rfl⟩
    obtain ⟨hkey, hskip⟩ := List.mem_filter.1 hmem
    obtain ⟨config, hconfig⟩ := QMap.mem_keys_iff.1 hkey
    refine ⟨config, ⟨hconfig, by simpa using hskip⟩, ?_⟩
    rw [QMap.value_of_getElem? hconfig]
  · rintro ⟨config, ⟨hconfig, hskip⟩, hnumber⟩
    refine ⟨pair.2, List.mem_filter.2 ⟨QMap.mem_keys_iff.2 ⟨config, hconfig⟩, by simpa using hskip⟩,
      ?_⟩
    rw [QMap.value_of_getElem? hconfig, hnumber]

/-- It is sorted strictly, as no address stands there twice. -/
theorem pairwise_deviceIpIdPairs (h : DistinctAddresses addresses connCfgMap) :
    (deviceIpIdPairs addresses connCfgMap skipDevices).Pairwise fun x y => x.1 < y.1 := by
  have hsorted : (deviceIpIdPairs addresses connCfgMap skipDevices).Pairwise
      fun x y => x.1 ≤ y.1 := List.pairwise_insertionSort _ _
  have hnodup : (deviceIpIdPairs addresses connCfgMap skipDevices).Nodup := by
    refine (List.perm_insertionSort _ _).nodup_iff.2 (List.Nodup.map ?_ ?_)
    · exact fun x y hxy => (Prod.mk.inj hxy).2
    · exact Std.TreeMap.nodup_keys.filter _
  refine (hsorted.and hnodup).imp_of_mem fun {x y} hx hy hxy => ?_
  refine UInt32.lt_of_le_of_ne hxy.1 fun heq => hxy.2 ?_
  obtain ⟨configX, hchosenX, hnumberX⟩ := mem_deviceIpIdPairs.1 hx
  obtain ⟨configY, hchosenY, hnumberY⟩ := mem_deviceIpIdPairs.1 hy
  refine Prod.ext heq (h x.2 y.2 configX configY hchosenX.1 hchosenY.1 ?_)
  rw [hnumberX, hnumberY, heq]

/-- The list is empty exactly when every device is skipped. -/
theorem deviceIpIdPairs_ne_nil_iff : deviceIpIdPairs addresses connCfgMap skipDevices ≠ [] ↔
    ∃ devId config, Chosen connCfgMap skipDevices devId config := by
  constructor
  · intro hne
    obtain ⟨pair, hpair⟩ := List.exists_mem_of_ne_nil _ hne
    obtain ⟨config, hchosen, -⟩ := mem_deviceIpIdPairs.1 hpair
    exact ⟨pair.2, config, hchosen⟩
  · rintro ⟨devId, config, hchosen⟩
    have hpair : (addresses.number config.ipAddress, devId) ∈
        deviceIpIdPairs addresses connCfgMap skipDevices :=
      mem_deviceIpIdPairs.2 ⟨config, hchosen, rfl⟩
    exact List.ne_nil_of_mem hpair

theorem coverChosen_of_scanCut {pairs : List (UInt32 × ℤ)} {first : UInt32 × ℤ}
    {ranges : List ScanIpRangeEntry}
    (hpairs : deviceIpIdPairs addresses connCfgMap skipDevices = first :: pairs)
    (h : ScanCut addresses connCfgMap.value first.1 first pairs ranges) :
    CoverChosen addresses connCfgMap skipDevices ranges where
  disjoint := h.ascending.imp fun {x y} hxy => Set.disjoint_left.2 fun number hx hy =>
    UInt32.lt_irrefl _ (hxy number hx number hy)
  union := by
    ext number
    have hmem : (∃ devId config, Chosen connCfgMap skipDevices devId config ∧
        addresses.number config.ipAddress = number) ↔
          ∃ pair ∈ first :: pairs, pair.1 = number := by
      rw [← hpairs]
      constructor
      · rintro ⟨devId, config, hchosen, rfl⟩
        exact ⟨(_, devId), mem_deviceIpIdPairs.2 ⟨config, hchosen, rfl⟩, rfl⟩
      · rintro ⟨pair, hpair, rfl⟩
        obtain ⟨config, hchosen, hnumber⟩ := mem_deviceIpIdPairs.1 hpair
        exact ⟨pair.2, config, hchosen, hnumber⟩
    simp only [Set.mem_iUnion, exists_prop, Set.mem_ofPred_eq]
    rw [h.cover, hmem, List.exists_mem_cons_iff]
    refine or_congr_left ⟨fun hle => UInt32.le_antisymm hle.1 hle.2, ?_⟩
    rintro rfl
    exact ⟨UInt32.le_refl _, UInt32.le_refl _⟩
  share range hrange devId config hchosen hnumber := by
    have hmem : (addresses.number config.ipAddress, devId) ∈ first :: pairs := by
      rw [← hpairs]
      exact mem_deviceIpIdPairs.2 ⟨config, hchosen, rfl⟩
    have hvalue : connCfgMap.value devId = config := QMap.value_of_getElem? hchosen.1
    rw [← hvalue]
    rcases List.mem_cons.1 hmem with heq | hmem
    · rw [← heq] at h
      exact (h.shareOpen range hrange _ hnumber (UInt32.le_refl _) (UInt32.le_refl _)).symm
    · exact (h.shareRest range hrange _ hmem hnumber).symm

/-- Two devices at successive addresses, which are connected to with the same account. -/
def neighborConfigs : QMap ℤ DeviceIpConnectConfig :=
  ((∅ : QMap ℤ DeviceIpConnectConfig).insert 1 { ipAddress := "|" }).insert 2 { ipAddress := "||" }

/-- It is enough to look at the addresses other than 0. -/
theorem AddressFormat.roundTrip_of_printed {addresses : AddressFormat}
    (hprinted : ∀ number ≠ 0, addresses.isNull (addresses.ofIPv4 number) = false ∧
      addresses.toIPv4 (addresses.ofIPv4 number) = number)
    (hzero : addresses.number (addresses.ofIPv4 0) = 0) : addresses.RoundTrip := by
  intro number
  by_cases hnumber : number = 0
  · rw [hnumber, hzero]
  · obtain ⟨hvalid, hread⟩ := hprinted number hnumber
    rw [AddressFormat.number, hvalid, if_neg Bool.false_ne_true, hread]

theorem markedAddresses_roundTrip : markedAddresses.RoundTrip :=
  AddressFormat.roundTrip_of_printed markedAddresses_printed rfl

theorem neighborConfigs_distinct : DistinctAddresses markedAddresses neighborConfigs := by
  intro x y configX configY hx hy hsame
  unfold neighborConfigs at hx hy
  simp only [Std.TreeMap.getElem?_insert, Std.compare_eq_iff_eq,
    Std.TreeMap.getElem?_emptyc] at hx hy
  split_ifs at hx hy with h2x h2y h1y h1x h2y h1y
  · exact h2x.symm.trans h2y
  · rw [← Option.some.inj hx, ← Option.some.inj hy] at hsame
    exact absurd hsame (by decide)
  · rw [← Option.some.inj hx, ← Option.some.inj hy] at hsame
    exact absurd hsame (by decide)
  · exact h1x.symm.trans h1y

end Core
end Sebastian
