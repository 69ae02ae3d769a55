/-
# Go's `net.ParseIP`

`net.ParseIP` reads an address from a text: four numbers with dots, or up to eight
groups of hexadecimal digits with colons, of which the last two may be written as four
numbers and a run of zeros as `::`.  A text with a zone (`%`) is no address.  Whatever is
accepted is written with the characters of addresses alone (`addressChar_of_parseIP`),
and so is free of any other separator.
-/

import Mathlib.Data.List.Basic

namespace Sebastian
namespace GoNet

open List

variable {c : Char} {s : List Char}

/-- `net.IP` in its sixteen bytes, as eight groups of two. -/
structure IP where
  groups : List ℕ
  deriving DecidableEq

/-- `To4() != nil`: the address is `::ffff:a.b.c.d`. -/
def IP.isIPv4 (ip : IP) : Bool := ip.groups.take 6 == [0, 0, 0, 0, 0, 0xffff]

/-- The number that decimal digits write. -/
def decimalValue (digits : List Char) : ℕ :=
  digits.foldl (fun value c => value * 10 + (c.toNat - '0'.toNat)) 0

/-- One of the four numbers: no more than 255, without a leading zero. -/
def parseOctet (field : List Char) : Option ℕ :=
  if field = [] || !field.all (·.isDigit) then none
  else if field.head? = some '0' && field ≠ ['0'] then none
  else if 255 < decimalValue field then none
  else some (decimalValue field)

/-- `parseIPv4Fields`: the two groups that four numbers make. -/
def parseIPv4Fields (s : List Char) : Option (List ℕ) :=
  match s.splitOn '.' with
  | [field₁, field₂, field₃, field₄] =>
    match parseOctet field₁, parseOctet field₂, parseOctet field₃, parseOctet field₄ with
    | some a, some b, some c, some d => some [256 * a + b, 256 * c + d]
    | _, _, _, _ => none
  | _ => none

/-- A hexadecimal digit. -/
def isHexDigit (c : Char) : Bool :=
  c.isDigit || ('a' ≤ c && c ≤ 'f') || ('A' ≤ c && c ≤ 'F')

/-- Its value. -/
def hexDigitValue (c : Char) : ℕ :=
  if c.isDigit then c.toNat - '0'.toNat
  else if 'a' ≤ c then c.toNat - 'a'.toNat + 10
  else c.toNat - 'A'.toNat + 10

/-- The number that hexadecimal digits write. -/
def hexValue (digits : List Char) : ℕ :=
  digits.foldl (fun value c => value * 16 + hexDigitValue c) 0

/-- The loop of `parseIPv6`, with room for so many groups: the groups that were read, and
before which of them the ellipsis stands. -/
def parseGroups : ℕ → List Char → List ℕ → Option ℕ → Option (List ℕ × Option ℕ)
  | 0, s, groups, ellipsis => if s = [] then some (groups, ellipsis) else none
  | room + 1, s, groups, ellipsis =>
    let digits := s.takeWhile isHexDigit
    let groups' := groups ++ [hexValue digits]
    if digits = [] || 4 < digits.length then none
    else
      match s.dropWhile isHexDigit with
      | [] => some (groups', ellipsis)
      | '.' :: _ =>
        -- an address of four numbers takes the place of the last two groups
        if (ellipsis.isNone && groups.length ≠ 6) || 6 < groups.length then none
        else (parseIPv4Fields s).map fun last => (groups ++ last, ellipsis)
      | [':'] => none
      | [':', ':'] =>
        if ellipsis.isSome then none else some (groups', some groups'.length)
      | ':' :: ':' :: rest =>
        if ellipsis.isSome then none else parseGroups room rest groups' (some groups'.length)
      | ':' :: rest => parseGroups room rest groups' ellipsis
      | _ => none

/-- The ellipsis stands for one group of zeros at least. -/
def expandEllipsis : List ℕ × Option ℕ → Option IP
  | (groups, none) => if groups.length = 8 then some ⟨groups⟩ else none
  | (groups, some ellipsis) =>
    if groups.length < 8 then
      some ⟨groups.take ellipsis ++ List.replicate (8 - groups.length) 0 ++ groups.drop ellipsis⟩
    else none

/-- `parseIPv6` of a text without a zone. -/
def parseIPv6 (s : List Char) : Option IP :=
  if '%' ∈ s then none
  else
    match s with
    | [':', ':'] => some ⟨List.replicate 8 0⟩
    | ':' :: ':' :: rest => (parseGroups 8 rest [] (some 0)).bind expandEllipsis
    | _ => (parseGroups 8 s [] none).bind expandEllipsis

/-- `ParseAddr`: the first separator tells the two forms apart. -/
def parseChars (s : List Char) : Option IP :=
  match s.find? fun c => c = '.' || c = ':' || c = '%' with
  | some '.' => (parseIPv4Fields s).map fun last => ⟨[0, 0, 0, 0, 0, 0xffff] ++ last⟩
  | some ':' => parseIPv6 s
  | _ => none

/-- `net.ParseIP`; `nil` is `none`. -/
def parseIP (s : String) : Option IP := parseChars s.toList

/-- The characters of addresses. -/
def addressChar (c : Char) : Bool := isHexDigit c || c = '.' || c = ':'

/-! ### What is accepted -/

theorem isDigit_of_parseOctet {field : List Char} {n : ℕ} (h : parseOctet field = some n)
    (hc : c ∈ field) : c.isDigit = true := by
  unfold parseOctet at h
  split_ifs at h with hfield
  rw [Bool.or_eq_true, not_or, Bool.not_eq_true', Bool.not_eq_false] at hfield
  exact all_eq_true.1 hfield.2 c hc

/-- Four numbers with dots are written with digits and dots. -/
theorem addressChar_of_parseIPv4Fields {last : List ℕ} (h : parseIPv4Fields s = some last)
    (hc : c ∈ s) : addressChar c = true := by
  have hdigit : ∀ {field : List Char} {n : ℕ}, parseOctet field = some n → c ∈ field →
      addressChar c = true := by
    intro field n hfield hmem
    simp [addressChar, isHexDigit, isDigit_of_parseOctet hfield hmem]
  unfold parseIPv4Fields at h
  split at h
  · next field₁ field₂ field₃ field₄ hsplit =>
    have hjoin : ['.'].intercalate (s.splitOn '.') = s := intercalate_splitOn '.'
    rw [hsplit] at hjoin
    rw [← hjoin] at hc
    split at h
    · next h₁ h₂ h₃ h₄ =>
      simp only [intercalate_cons_cons, intercalate_singleton, append_assoc,
        mem_append, mem_singleton] at hc
      rcases hc with hc | rfl | hc | rfl | hc | rfl | hc
      · exact hdigit h₁ hc
      · rfl
      · exact hdigit h₂ hc
      · rfl
      · exact hdigit h₃ hc
      · rfl
      · exact hdigit h₄ hc
    · cases h
  · cases h

/-- The groups are written with the characters of addresses. -/
theorem addressChar_of_parseGroups {room : ℕ} {groups : List ℕ} {ellipsis : Option ℕ}
    {read : List ℕ × Option ℕ} (h : parseGroups room s groups ellipsis = some read) (hc : c ∈ s) :
    addressChar c = true := by
  induction room generalizing s groups ellipsis with
  | zero =>
    unfold parseGroups at h
    split_ifs at h with hs
    rw [hs] at hc
    cases hc
  | succ room ih =>
    unfold parseGroups at h
    dsimp only at h
    rw [ite_eq_iff, or_iff_right (fun h => nomatch h.2)] at h
    obtain ⟨-, h⟩ := h
    have hhex : c ∈ s.takeWhile isHexDigit → addressChar c = true := by
      intro hmem
      have hc := all_eq_true.1 (all_takeWhile (p := isHexDigit) (l := s)) c hmem
      simp [addressChar, hc]
    have hsplit : s.takeWhile isHexDigit ++ s.dropWhile isHexDigit = s :=
      takeWhile_append_dropWhile
    rw [← hsplit, mem_append] at hc
    rcases hc with hc | hc
    · exact hhex hc
    · split at h
      · next hrest =>
        rw [hrest] at hc
        cases hc
      · split_ifs at h
        obtain ⟨last, hlast, -⟩ := Option.map_eq_some_iff.1 h
        refine addressChar_of_parseIPv4Fields hlast ?_
        rw [← hsplit]
        exact mem_append_right _ hc
      · cases h
      · next hrest =>
        rw [hrest] at hc
        simp only [mem_cons, not_mem_nil, or_false, or_self] at hc
        rw [hc]
        rfl
      · next rest hrest =>
        rw [hrest] at hc
        split_ifs at h
        rcases mem_cons.1 hc with rfl | hc
        · rfl
        · rcases mem_cons.1 hc with rfl | hc
          · rfl
          · exact ih h hc
      · next rest hrest =>
        rw [hrest] at hc
        rcases mem_cons.1 hc with rfl | hc
        · rfl
        · exact ih h hc
      · cases h

theorem addressChar_of_parseIPv6 {ip : IP} (h : parseIPv6 s = some ip) (hc : c ∈ s) :
    addressChar c = true := by
  unfold parseIPv6 at h
  split_ifs at h
  split at h
  · simp only [mem_cons, not_mem_nil, or_false, or_self] at hc
    rw [hc]
    rfl
  · obtain ⟨read, hread, -⟩ := Option.bind_eq_some_iff.1 h
    rcases mem_cons.1 hc with rfl | hc
    · rfl
    · rcases mem_cons.1 hc with rfl | hc
      · rfl
      · exact addressChar_of_parseGroups hread hc
  · obtain ⟨read, hread, -⟩ := Option.bind_eq_some_iff.1 h
    exact addressChar_of_parseGroups hread hc

/-- **An address is written with the characters of addresses.** -/
theorem addressChar_of_parseIP {s : String} {ip : IP} (h : parseIP s = some ip)
    (hc : c ∈ s.toList) : addressChar c = true := by
  unfold parseIP parseChars at h
  split at h
  · obtain ⟨last, hlast, -⟩ := Option.map_eq_some_iff.1 h
    exact addressChar_of_parseIPv4Fields hlast hc
  · exact addressChar_of_parseIPv6 h hc
  · cases h

/-- An address in one of its two forms, and texts that are none. -/
example : parseIP "10.0.0.1" = some ⟨[0, 0, 0, 0, 0, 0xffff, 2560, 1]⟩ ∧
    parseIP "fe80::1" = some ⟨[0xfe80, 0, 0, 0, 0, 0, 0, 1]⟩ ∧
    parseIP "::ffff:10.0.0.1" = parseIP "10.0.0.1" ∧ parseIP "10.0.0.01" = none ∧
    parseIP "1::2::3" = none ∧ parseIP "fe80::1%eth0" = none := by
  decide +kernel

end GoNet
end Sebastian
