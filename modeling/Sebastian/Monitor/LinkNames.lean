/-
# The names of links

A link is known by one text, which three functions write: `DiffLink.String` after `NewDiffLink`
(`sebastian/modules/monitor/link_diff.go`), `getMafLinkIdentifier` (`helper.go`) and `getActLinkStr`
(`monitor_helper.go`).  Each puts the smaller address first, by `CompareIPByString`
(`common/ipcompare`), and `parseIP_dotted` tells what that compares.

Neither a dotted address nor a port has the colon and the dash that part them, so that the text can
be taken apart again (`name_inj`): it stands for the record of `Sebastian.Monitor.DiffLink`
(`string_eq_iff`).
-/

import Sebastian.Monitor.LinkDiff

namespace Sebastian
namespace Monitor
namespace LinkNames

open List

/-! ### Addresses -/

/-- Four octets. -/
structure Octets where
  a : Fin 256
  b : Fin 256
  c : Fin 256
  d : Fin 256

/-- The canonical text of the address. -/
def Octets.dotted (o : Octets) : String :=
  toString o.a.val ++ "." ++ toString o.b.val ++ "." ++ toString o.c.val ++ "." ++ toString o.d.val

/-- `As16`: `::ffff:a.b.c.d` -/
def Octets.address (o : Octets) : IpAddress :=
  ⟨0xffff * 2 ^ 32 + o.a * 2 ^ 24 + o.b * 2 ^ 16 + o.c * 2 ^ 8 + o.d⟩

/-- One field of an address that `net.ParseIP` accepts. -/
def parseOctet (field : List Char) : Option ℕ :=
  let val := Nat.ofDigitChars 10 field 0
  if field.isEmpty || !field.all Char.isDigit then none
  else if field.head? == some '0' && field.length != 1 then none
  else if val > 255 then none
  else some val

/-- The text is an IPv4 address. -/
def parseIPv4 (s : List Char) : Option IpAddress :=
  match (s.splitOn '.').map parseOctet with
  | [some a, some b, some c, some d] =>
    some ⟨0xffff * 2 ^ 32 + a * 2 ^ 24 + b * 2 ^ 16 + c * 2 ^ 8 + d⟩
  | _ => none

/-- `net.ParseIP`: a dot or a colon, whichever is first, decides. -/
def parseIP (parseIPv6 : List Char → Option IpAddress) (s : String) : Option IpAddress :=
  match s.toList.find? fun c => c == '.' || c == ':' || c == '%' with
  | some '.' => parseIPv4 s.toList
  | some ':' => parseIPv6 s.toList
  | _ => none

/-- `CompareIPResult` -/
inductive CompareIPResult
  | less
  | equal
  | greater
  | firstIPNotValid
  | secondIPNotValid
  deriving DecidableEq

/-- `CompareIP`: an address that was parsed is valid. -/
def compareIP (ip1 ip2 : IpAddress) : CompareIPResult :=
  if ip1.isGreater ip2 then .greater else if ip1 = ip2 then .equal else .less

section
variable (parseIPv6 : List Char → Option IpAddress)

/-- `CompareIPByString` -/
def compareIPByString (ip1Str ip2Str : String) : CompareIPResult :=
  match parseIP parseIPv6 ip1Str, parseIP parseIPv6 ip2Str with
  | none, _ => .firstIPNotValid
  | _, none => .secondIPNotValid
  | some ip1, some ip2 => compareIP ip1 ip2

/-! ### The three names -/

/-- `DiffLink` -/
structure DiffLink where
  ip1 : String
  port1 : ℤ
  ip2 : String
  port2 : ℤ

/-- `NewDiffLink` -/
def newDiffLink (ip1 : String) (port1 : ℤ) (ip2 : String) (port2 : ℤ) : DiffLink :=
  if compareIPByString parseIPv6 ip1 ip2 = .greater then ⟨ip2, port2, ip1, port1⟩
  else ⟨ip1, port1, ip2, port2⟩

/-- `DiffLink.String` -/
def DiffLink.string (link : DiffLink) : String :=
  link.ip1 ++ ":" ++ toString link.port1 ++ "-" ++ link.ip2 ++ ":" ++ toString link.port2

/-- `netdl.Link` -/
structure MafLink where
  fromIP : String
  fromPort : ℤ
  toIP : String
  toPort : ℤ

/-- `domain.Link` -/
structure ActLink where
  sourceDeviceId : ℤ
  sourceInterfaceId : ℤ
  destinationDeviceId : ℤ
  destinationInterfaceId : ℤ

/-- The errors, with what they print. -/
inductive NameError
  | mafLinkNil
  | invalidMafLink (link : MafLink)
  | invalidSourceIP (ip : String)
  | invalidDestinationIP (ip : String)
  | sourceDeviceNotFound
  | destinationDeviceNotFound
  | invalidSourceInterface (id : ℤ)
  | invalidDestinationInterface (id : ℤ)

/-- `getMafLinkIdentifier` -/
def getMafLinkIdentifier : Option MafLink → Except NameError String
  | none => .error .mafLinkNil
  | some link =>
    if link.fromIP = "" ∨ link.toIP = "" then .error (.invalidMafLink link)
    else match compareIPByString parseIPv6 link.fromIP link.toIP with
    | .firstIPNotValid => .error (.invalidSourceIP link.fromIP)
    | .secondIPNotValid => .error (.invalidDestinationIP link.toIP)
    | .greater => .ok (link.toIP ++ ":" ++ toString link.toPort ++ "-" ++ link.fromIP ++ ":" ++
        toString link.fromPort)
    | _ => .ok (link.fromIP ++ ":" ++ toString link.fromPort ++ "-" ++ link.toIP ++ ":" ++
        toString link.toPort)

/-- `getActLinkEndpointsStr`, with the addresses of the devices. -/
def getActLinkEndpointsStr (link : ActLink) (deviceMap : GoMap ℤ String) :
    Except NameError (List String) :=
  match deviceMap link.sourceDeviceId, deviceMap link.destinationDeviceId with
  | none, _ => .error .sourceDeviceNotFound
  | _, none => .error .destinationDeviceNotFound
  | some srcIP, some dstIP =>
    if link.sourceInterfaceId ≤ 0 then .error (.invalidSourceInterface link.sourceInterfaceId)
    else if link.destinationInterfaceId ≤ 0 then
      .error (.invalidDestinationInterface link.destinationInterfaceId)
    else match compareIPByString parseIPv6 srcIP dstIP with
    | .firstIPNotValid => .error (.invalidSourceIP srcIP)
    | .secondIPNotValid => .error (.invalidDestinationIP dstIP)
    | .greater => .ok [dstIP ++ ":" ++ toString link.destinationInterfaceId,
        srcIP ++ ":" ++ toString link.sourceInterfaceId]
    | _ => .ok [srcIP ++ ":" ++ toString link.sourceInterfaceId,
        dstIP ++ ":" ++ toString link.destinationInterfaceId]

/-- `getActLinkStr` -/
def getActLinkStr (link : ActLink) (deviceMap : GoMap ℤ String) : Except NameError String :=
  (getActLinkEndpointsStr parseIPv6 link deviceMap).map (String.intercalate "-")

end

/-! ### What an address is compared by -/

section
variable {parseIPv6 : List Char → Option IpAddress} {o o' x x' : Octets} {p q r s : ℤ}

theorem not_mem_toDigits {c : Char} (hc : c.isDigit = false) (n : ℕ) : c ∉ Nat.toDigits 10 n := by
  intro hmem
  rw [Nat.isDigit_of_mem_toDigits (by decide) (Nat.le_refl _) hmem] at hc
  cases hc

theorem toList_dotted : o.dotted.toList = Nat.toDigits 10 o.a ++ '.' :: (Nat.toDigits 10 o.b ++
    '.' :: (Nat.toDigits 10 o.c ++ '.' :: Nat.toDigits 10 o.d)) := by
  simp [Octets.dotted, String.toList_append]

theorem parseOctet_toDigits : ∀ n : Fin 256, parseOctet (Nat.toDigits 10 n) = some n.val := by
  decide +kernel

/-- **An address is read back** from its text. -/
theorem parseIP_dotted : parseIP parseIPv6 o.dotted = some o.address := by
  have hdot : '.' ∉ Nat.toDigits 10 o.a ∧ '.' ∉ Nat.toDigits 10 o.b ∧ '.' ∉ Nat.toDigits 10 o.c ∧
      '.' ∉ Nat.toDigits 10 o.d := by
    refine ⟨?_, ?_, ?_, ?_⟩ <;> exact not_mem_toDigits rfl _
  have hfields : o.dotted.toList.splitOn '.' = [Nat.toDigits 10 o.a, Nat.toDigits 10 o.b,
      Nat.toDigits 10 o.c, Nat.toDigits 10 o.d] := by
    obtain ⟨ha, hb, hc, hd⟩ := hdot
    rw [toList_dotted, splitOn_append_cons_self, splitOn_append_cons_self,
      splitOn_append_cons_self, splitOn_eq_singleton ha, splitOn_eq_singleton hb,
      splitOn_eq_singleton hc, splitOn_eq_singleton hd]
    rfl
  have hfirst : o.dotted.toList.find? (fun c => c == '.' || c == ':' || c == '%') = some '.' := by
    have hnone :
        (Nat.toDigits 10 o.a).find? (fun c => c == '.' || c == ':' || c == '%') = none := by
      refine find?_eq_none.2 fun c hc => ?_
      have hdigit := Nat.isDigit_of_mem_toDigits (by decide) (Nat.le_refl _) hc
      rintro hsep
      simp only [Bool.or_eq_true, beq_iff_eq] at hsep
      rcases hsep with (rfl | rfl) | rfl <;> cases hdigit
    rw [toList_dotted, find?_append, hnone]
    rfl
  unfold parseIP
  rw [hfirst]
  simp only [parseIPv4, hfields, map_cons, map_nil, parseOctet_toDigits]
  rfl

theorem address_inj : o.address = o'.address ↔ o = o' := by
  refine ⟨fun h => ?_, congrArg _⟩
  obtain ⟨⟨a, ha⟩, ⟨b, hb⟩, ⟨c, hc⟩, ⟨d, hd⟩⟩ := o
  obtain ⟨⟨a', ha'⟩, ⟨b', hb'⟩, ⟨c', hc'⟩, ⟨d', hd'⟩⟩ := o'
  have hbytes := congrArg IpAddress.bytes h
  simp only [Octets.address] at hbytes
  simp only [Octets.mk.injEq, Fin.mk.injEq]
  omega

theorem dotted_inj : o.dotted = o'.dotted ↔ o = o' := by
  refine ⟨fun h => address_inj.1 (Option.some.inj ?_), congrArg _⟩
  rw [← @parseIP_dotted fun _ => none, h, parseIP_dotted]

/-- The smaller address comes first, as in the record. -/
theorem newDiffLink_dotted : newDiffLink parseIPv6 o.dotted p o'.dotted q =
    if o.address.isGreater o'.address then ⟨o'.dotted, q, o.dotted, p⟩
    else ⟨o.dotted, p, o'.dotted, q⟩ := by
  unfold newDiffLink compareIPByString compareIP
  rw [parseIP_dotted, parseIP_dotted]
  cases hgreater : o.address.isGreater o'.address with
  | true => simp only [hgreater, if_true]
  | false =>
    simp only [hgreater, Bool.false_eq_true, if_false]
    refine if_neg ?_
    split_ifs <;> exact not_false

theorem compareIPByString_dotted : compareIPByString parseIPv6 o.dotted o'.dotted = .less ∨
    compareIPByString parseIPv6 o.dotted o'.dotted = .equal ∨
    compareIPByString parseIPv6 o.dotted o'.dotted = .greater := by
  unfold compareIPByString compareIP
  rw [parseIP_dotted, parseIP_dotted]
  dsimp only
  split_ifs
  · exact .inr (.inr rfl)
  · exact .inr (.inl rfl)
  · exact .inl rfl

/-! ### What a name tells -/

/-- A text is parted at the first place of a character. -/
theorem append_cons_inj {c : Char} {l l' r r' : List Char} (hl : c ∉ l) (hl' : c ∉ l')
    (h : l ++ c :: r = l' ++ c :: r') : l = l' ∧ r = r' := by
  induction l generalizing l' with
  | nil =>
    cases l' with
    | nil => exact ⟨rfl, tail_eq_of_cons_eq h⟩
    | cons d l' => exact absurd (head_eq_of_cons_eq h ▸ mem_cons_self) hl'
  | cons d l ih =>
    cases l' with
    | nil => exact absurd (head_eq_of_cons_eq h ▸ mem_cons_self) hl
    | cons d' l' =>
      obtain ⟨rfl, htail⟩ := cons.inj h
      obtain ⟨rfl, hr⟩ := ih (fun hin => hl (mem_cons_of_mem _ hin))
        (fun hin => hl' (mem_cons_of_mem _ hin)) htail
      exact ⟨rfl, hr⟩

theorem toList_repr (hp : 0 < p) : p.repr.toList = Nat.toDigits 10 p.toNat := by
  obtain ⟨n, rfl⟩ := Int.eq_ofNat_of_zero_le (Int.le_of_lt hp)
  exact Nat.toList_repr

theorem toDigits_inj {m n : ℕ} (h : Nat.toDigits 10 m = Nat.toDigits 10 n) : m = n := by
  rw [← Nat.ofDigitChars_ten_toDigits (n := m), h, Nat.ofDigitChars_ten_toDigits]

theorem colon_not_mem_dotted : ':' ∉ o.dotted.toList := by
  rw [toList_dotted]
  simp only [mem_append, mem_cons, not_or]
  have hdigits : ∀ n, ':' ∉ Nat.toDigits 10 n := not_mem_toDigits rfl
  exact ⟨hdigits _, by decide, hdigits _, by decide, hdigits _, by decide, hdigits _⟩

theorem toList_string {ip1 ip2 : String} (hp : 0 < p) (hq : 0 < q) :
    (DiffLink.string ⟨ip1, p, ip2, q⟩).toList = ip1.toList ++ ':' :: (Nat.toDigits 10 p.toNat ++
      '-' :: (ip2.toList ++ ':' :: Nat.toDigits 10 q.toNat)) := by
  simp [DiffLink.string, String.toList_append, toList_repr hp, toList_repr hq]

section
variable (hp : 0 < p) (hq : 0 < q) (hr : 0 < r) (hs : 0 < s)
include hp hq hr hs

/-- **A name can be taken apart** at its first colon, the dash after it and the next colon. -/
theorem name_inj (h : DiffLink.string ⟨o.dotted, p, o'.dotted, q⟩ =
      DiffLink.string ⟨x.dotted, r, x'.dotted, s⟩) :
    o = x ∧ p = r ∧ o' = x' ∧ q = s := by
  have hport : ∀ {m n : ℤ}, 0 < m → 0 < n → Nat.toDigits 10 m.toNat = Nat.toDigits 10 n.toNat →
      m = n := by
    intro m n hm hn heq
    have := toDigits_inj heq
    omega
  have hdash : ∀ n, '-' ∉ Nat.toDigits 10 n := not_mem_toDigits rfl
  have hcolon : ∀ o : Octets, ':' ∉ o.dotted.toList := fun _ => colon_not_mem_dotted
  have hlist := congrArg String.toList h
  rw [toList_string hp hq, toList_string hr hs] at hlist
  obtain ⟨hfirst, hlist⟩ := append_cons_inj (hcolon o) (hcolon x) hlist
  obtain ⟨hport₁, hlist⟩ := append_cons_inj (hdash _) (hdash _) hlist
  obtain ⟨hsecond, hport₂⟩ := append_cons_inj (hcolon o') (hcolon x') hlist
  exact ⟨dotted_inj.1 (String.toList_inj.1 hfirst), hport hp hr hport₁,
    dotted_inj.1 (String.toList_inj.1 hsecond), hport hq hs hport₂⟩

/-- **The text stands for the record**: two links have the same text exactly when they are the same
record. -/
theorem string_eq_iff : (newDiffLink parseIPv6 o.dotted p o'.dotted q).string =
      (newDiffLink parseIPv6 x.dotted r x'.dotted s).string ↔
    Monitor.newDiffLink o.address p o'.address q =
      Monitor.newDiffLink x.address r x'.address s := by
  have hname : ∀ {o o' x x' : Octets} {p q r s : ℤ}, 0 < p → 0 < q → 0 < r → 0 < s →
      (DiffLink.string ⟨o.dotted, p, o'.dotted, q⟩ = DiffLink.string ⟨x.dotted, r, x'.dotted, s⟩ ↔
        (⟨o.address, p, o'.address, q⟩ : Monitor.DiffLink) = ⟨x.address, r, x'.address, s⟩) := by
    intro o o' x x' p q r s hp hq hr hs
    rw [Monitor.DiffLink.mk.injEq, address_inj, address_inj]
    constructor
    · exact name_inj hp hq hr hs
    · rintro ⟨rfl, rfl, rfl, rfl⟩
      rfl
  rw [newDiffLink_dotted, newDiffLink_dotted]
  unfold Monitor.newDiffLink
  split_ifs
  · exact hname hq hp hs hr
  · exact hname hq hp hr hs
  · exact hname hp hq hs hr
  · exact hname hp hq hr hs

end

/-- The name does not depend on which end is given first. -/
theorem newDiffLink_comm (hne : o ≠ o') : Monitor.newDiffLink o.address p o'.address q =
    Monitor.newDiffLink o'.address q o.address p := by
  have hbytes : o.address.bytes ≠ o'.address.bytes := fun heq =>
    hne (address_inj.1 (congrArg IpAddress.mk heq))
  unfold Monitor.newDiffLink IpAddress.isGreater
  simp only [decide_eq_true_eq]
  split_ifs
  · omega
  · rfl
  · rfl
  · omega

/-- The ends of a link can be read off its record. -/
theorem ends_of_newDiffLink_eq (h : Monitor.newDiffLink o.address p o'.address q =
      Monitor.newDiffLink x.address r x'.address s) :
    x = o ∧ r = p ∧ x' = o' ∧ s = q ∨ x = o' ∧ r = q ∧ x' = o ∧ s = p := by
  unfold Monitor.newDiffLink at h
  split_ifs at h <;> simp only [Monitor.DiffLink.mk.injEq, address_inj] at h <;>
    obtain ⟨rfl, rfl, rfl, rfl⟩ := h
  · exact .inl ⟨rfl, rfl, rfl, rfl⟩
  · exact .inr ⟨rfl, rfl, rfl, rfl⟩
  · exact .inr ⟨rfl, rfl, rfl, rfl⟩
  · exact .inl ⟨rfl, rfl, rfl, rfl⟩

theorem string_eq_intercalate {ip1 ip2 : String} : DiffLink.string ⟨ip1, p, ip2, q⟩ =
    String.intercalate "-" [ip1 ++ ":" ++ toString p, ip2 ++ ":" ++ toString q] := by
  have hjoin : ∀ s t : String, String.intercalate "-" [s, t] = s ++ "-" ++ t := fun _ _ => rfl
  simp only [DiffLink.string, hjoin, String.append_assoc]

theorem dotted_ne_empty : o.dotted ≠ "" := by
  intro heq
  have hlist := @toList_dotted o
  rw [heq] at hlist
  exact append_ne_nil_of_right_ne_nil _ (cons_ne_nil _ _) hlist.symm

end

/-! ### One name for a link -/

/-- A valid address in canonical form. -/
def IsDotted (s : String) : Prop := ∃ o : Octets, s = o.dotted

/-- **The name of the link** does not depend on which end comes first, tells the two ends, and is
the one that the other two functions compute. -/
structure CanonicalName (parseIPv6 : List Char → Option IpAddress) (a : String) (p : ℤ) (b : String)
    (q : ℤ) : Prop where
  symm : (newDiffLink parseIPv6 a p b q).string = (newDiffLink parseIPv6 b q a p).string
  ends : ∀ c r d s, IsDotted c → IsDotted d → 0 < r → 0 < s →
    (newDiffLink parseIPv6 a p b q).string = (newDiffLink parseIPv6 c r d s).string →
    c = a ∧ r = p ∧ d = b ∧ s = q ∨ c = b ∧ r = q ∧ d = a ∧ s = p
  maf : getMafLinkIdentifier parseIPv6 (some ⟨a, p, b, q⟩) =
    .ok (newDiffLink parseIPv6 a p b q).string
  act : ∀ (source destination : ℤ) (deviceMap : GoMap ℤ String), deviceMap source = some a →
    deviceMap destination = some b →
    getActLinkStr parseIPv6 ⟨source, p, destination, q⟩ deviceMap =
      .ok (newDiffLink parseIPv6 a p b q).string

/-- **Every link between two addresses has a canonical name.** -/
theorem canonicalName (parseIPv6 : List Char → Option IpAddress) {a b : String} {p q : ℤ}
    (ha : IsDotted a) (hb : IsDotted b) (hp : 0 < p) (hq : 0 < q) (hne : a ≠ b) :
    CanonicalName parseIPv6 a p b q := by
  obtain ⟨o, rfl⟩ := ha
  obtain ⟨o', rfl⟩ := hb
  have hcompare := @compareIPByString_dotted parseIPv6 o o'
  refine ⟨?_, ?_, ?_, ?_⟩
  · exact (string_eq_iff hp hq hq hp).2 (newDiffLink_comm fun heq => hne (congrArg _ heq))
  · rintro _ r _ s ⟨x, rfl⟩ ⟨x', rfl⟩ hr hs hname
    have hends := ends_of_newDiffLink_eq ((string_eq_iff hp hq hr hs).1 hname)
    rcases hends with ⟨rfl, rfl, rfl, rfl⟩ | ⟨rfl, rfl, rfl, rfl⟩
    · exact .inl ⟨rfl, rfl, rfl, rfl⟩
    · exact .inr ⟨rfl, rfl, rfl, rfl⟩
  · unfold getMafLinkIdentifier newDiffLink
    dsimp only
    rw [if_neg (not_or.2 ⟨dotted_ne_empty, dotted_ne_empty⟩)]
    rcases hcompare with h | h | h <;> rw [h] <;> rfl
  · intro source destination deviceMap hsrc hdest
    unfold getActLinkStr getActLinkEndpointsStr newDiffLink
    dsimp only
    rw [hsrc, hdest]
    dsimp only
    rw [if_neg (Int.not_le.2 hp), if_neg (Int.not_le.2 hq)]
    have hjoin := @string_eq_intercalate
    rcases hcompare with h | h | h <;> rw [h]
    · exact congrArg Except.ok hjoin.symm
    · exact congrArg Except.ok hjoin.symm
    · exact congrArg Except.ok hjoin.symm

theorem canonicalName_switches :
    CanonicalName (fun _ => none) "192.168.127.10" 1 "192.168.127.2" 2 :=
  canonicalName _ ⟨⟨192, 168, 127, 10⟩, by decide⟩ ⟨⟨192, 168, 127, 2⟩, by decide⟩ (by decide)
    (by decide) (by decide)

end LinkNames
end Monitor
end Sebastian
