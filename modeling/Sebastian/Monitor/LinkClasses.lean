/-
# The classes of links

`DiffLink` and `ComputeLinkDiff` (`sebastian/modules/monitor/link_diff.go`) in the texts
that the program keys its maps by.  An address is any text; a link is valid when
`net.ParseIP` reads IPv4 addresses from both, and then `String()` determines it: an
address has no `-` in it, and the last `:` of an endpoint is the one before the port
(`DiffLink.string_injective`).  The loops delete the invalid links, note who uses which
endpoint, and collect the others by key; `computeLinkDiff_exact` says what each of the
result's maps holds, in whatever order the maps are walked.

The texts of `LinkDiffResult.String` and the sets of conflicting endpoints, which nothing
reads, are left out.
-/

import Mathlib.Data.Int.Notation
import Sebastian.Lib.GoMap
import Sebastian.Lib.GoNet
import Sebastian.Lib.Loop

namespace Sebastian
namespace LinkDiff

open List Bool GoMap

/-! ### Links -/

/-- `DiffLink` -/
structure DiffLink where
  ip1 : String
  port1 : ℤ
  ip2 : String
  port2 : ℤ
  deriving DecidableEq

/-- `LinkInvalidReason` -/
inductive LinkInvalidReason where
  | none
  | sameIP
  | invalidIPFormat
  | invalidPort
  | notSupportedIPVersion
  deriving DecidableEq

/-- `fmt.Sprintf("%s:%d", ip, port)` -/
def endpointText (ip : String) (port : ℤ) : String := ip ++ ":" ++ toString port

namespace DiffLink

/-- `FromEndpoint` -/
def fromEndpoint (link : DiffLink) : String := endpointText link.ip1 link.port1

/-- `ToEndpoint` -/
def toEndpoint (link : DiffLink) : String := endpointText link.ip2 link.port2

/-- `String`: `fmt.Sprintf("%s:%d-%s:%d", ip1, port1, ip2, port2)` -/
def string (link : DiffLink) : String := link.fromEndpoint ++ "-" ++ link.toEndpoint

/-- `IsValid` -/
def isValidReason (link : DiffLink) : Bool × LinkInvalidReason :=
  match GoNet.parseIP link.ip1 with
  | none => (false, .invalidIPFormat)
  | some parsedIP1 =>
    if !parsedIP1.isIPv4 then (false, .notSupportedIPVersion)
    else
      match GoNet.parseIP link.ip2 with
      | none => (false, .invalidIPFormat)
      | some parsedIP2 =>
        if !parsedIP2.isIPv4 then (false, .notSupportedIPVersion)
        else if link.port1 ≤ 0 then (false, .invalidPort)
        else if link.port2 ≤ 0 then (false, .invalidPort)
        else if link.ip1 = link.ip2 then (false, .sameIP)
        else (true, .none)

/-- `isValidLink, _ := link.IsValid()` -/
def isValid (link : DiffLink) : Bool := link.isValidReason.1

/-- The endpoint is one of the two of the link. -/
def Uses (link : DiffLink) (endpoint : String) : Prop :=
  endpoint = link.fromEndpoint ∨ endpoint = link.toEndpoint

instance (link : DiffLink) (endpoint : String) : Decidable (link.Uses endpoint) :=
  inferInstanceAs (Decidable (_ ∨ _))

end DiffLink

/-! ### `ComputeLinkDiff` -/

/-- `LinkDiffResult` -/
structure LinkDiffResult where
  invalidActualLinks : GoMap String DiffLink := .empty
  invalidBaselineLinks : GoMap String DiffLink := .empty
  unchangedLinks : GoMap String DiffLink := .empty
  removedLinks : GoMap String DiffLink := .empty
  newLinks : GoMap String DiffLink := .empty
  rewiredLinks : GoMap String DiffLink := .empty
  baselinePortConflictedLinks : GoMap String (List DiffLink) := .empty
  actualPortConflictedLinks : GoMap String (List DiffLink) := .empty

/-- "check invalid link": those that are found. -/
def invalidLinks (order : List (String × DiffLink)) : GoMap String DiffLink :=
  order.foldl (fun links x => if !x.2.isValid then links.set x.1 x.2 else links) .empty

/-- "check invalid link": they leave the map that is walked. -/
def dropInvalid (links : GoMap String DiffLink) (order : List (String × DiffLink)) :
    GoMap String DiffLink :=
  order.foldl (fun links x => if !x.2.isValid then links.delete x.1 else links) links

/-- A link port map, and the links that are in conflict at a port. -/
structure PortMap where
  endpoints : GoMap String DiffLink := .empty
  conflicted : GoMap String (List DiffLink) := .empty

/-- A link joins those that are in conflict at an endpoint. -/
def joinConflict (conflicted : GoMap String (List DiffLink)) (endpoint : String)
    (existedLink link : DiffLink) : GoMap String (List DiffLink) :=
  match conflicted endpoint with
  | none => conflicted.set endpoint [existedLink, link]
  | some links => conflicted.set endpoint (links ++ [link])

/-- One end of a baseline link. -/
def noteBaselineEndpoint (link : DiffLink) (ports : PortMap) (endpoint : String) : PortMap :=
  match ports.endpoints endpoint with
  | some existedLink =>
    { ports with conflicted := joinConflict ports.conflicted endpoint existedLink link }
  | none => { ports with endpoints := ports.endpoints.set endpoint link }

/-- One end of an actual link: nothing is put into the port map. -/
def noteActualEndpoint (link : DiffLink) (ports : PortMap) (endpoint : String) : PortMap :=
  match ports.endpoints endpoint with
  | some existedLink =>
    { ports with conflicted := joinConflict ports.conflicted endpoint existedLink link }
  | none => ports

/-- "build baseline link port map" -/
def baselinePorts (order : List (String × DiffLink)) : PortMap :=
  order.foldl (fun ports x =>
    noteBaselineEndpoint x.2 (noteBaselineEndpoint x.2 ports x.2.fromEndpoint) x.2.toEndpoint) {}

/-- "build actual link port map" -/
def actualPorts (order : List (String × DiffLink)) : PortMap :=
  order.foldl (fun ports x =>
    noteActualEndpoint x.2 (noteActualEndpoint x.2 ports x.2.fromEndpoint) x.2.toEndpoint) {}

/-- `for _, link := range links { if … { result[link.String()] = link } }` -/
def collect (order : List (String × DiffLink)) (p : DiffLink → Bool) : GoMap String DiffLink :=
  order.foldl (fun result x => if p x.2 then result.set x.2.string x.2 else result) .empty

/-- The orders in which the maps of `ComputeLinkDiff` are walked. -/
structure DiffOrders where
  checkBaseline : List (String × DiffLink)
  checkActual : List (String × DiffLink)
  baselinePorts : List (String × DiffLink)
  actualPorts : List (String × DiffLink)
  baseline : List (String × DiffLink)
  actual : List (String × DiffLink)
  new : List (String × DiffLink)

/-- `ComputeLinkDiff`; a `nil` map is `none`. -/
def computeLinkDiff (baselineLinkMap actualLinkMap : Option (GoMap String DiffLink))
    (orders : DiffOrders) : Except String LinkDiffResult :=
  match baselineLinkMap, actualLinkMap with
  | none, _ => .error "baselineLinkMap is nil"
  | some _, none => .error "actualLinkMap is nil"
  | some baselineLinkMap, some actualLinkMap =>
    let baselineLinks := dropInvalid baselineLinkMap orders.checkBaseline
    let actualLinks := dropInvalid actualLinkMap orders.checkActual
    let baselinePorts := baselinePorts orders.baselinePorts
    .ok {
      invalidActualLinks := invalidLinks orders.checkActual
      invalidBaselineLinks := invalidLinks orders.checkBaseline
      unchangedLinks := collect orders.baseline fun link => (actualLinks link.string).isSome
      removedLinks := collect orders.baseline fun link => !(actualLinks link.string).isSome
      newLinks := collect orders.actual fun link => !(baselineLinks link.string).isSome
      rewiredLinks := collect orders.new fun link =>
        (baselinePorts.endpoints link.fromEndpoint).isSome ||
          (baselinePorts.endpoints link.toEndpoint).isSome
      baselinePortConflictedLinks := baselinePorts.conflicted
      actualPortConflictedLinks := (actualPorts orders.actualPorts).conflicted }

/-- The orders are orders of the maps that are walked. -/
structure DiffOrders.Walks (orders : DiffOrders) (baselineLinkMap actualLinkMap :
    GoMap String DiffLink) : Prop where
  checkBaseline : baselineLinkMap.Ranges orders.checkBaseline
  checkActual : actualLinkMap.Ranges orders.checkActual
  baselinePorts : (dropInvalid baselineLinkMap orders.checkBaseline).Ranges orders.baselinePorts
  actualPorts : (dropInvalid actualLinkMap orders.checkActual).Ranges orders.actualPorts
  baseline : (dropInvalid baselineLinkMap orders.checkBaseline).Ranges orders.baseline
  actual : (dropInvalid actualLinkMap orders.checkActual).Ranges orders.actual
  new : (collect orders.actual fun link =>
    !(dropInvalid baselineLinkMap orders.checkBaseline link.string).isSome).Ranges orders.new

/-- Every link is under its own text. -/
def Keyed (links : GoMap String DiffLink) : Prop :=
  ∀ key link, links key = some link → link.string = key

/-- **The classification is exact.** -/
structure Classified (baselineLinkMap actualLinkMap : GoMap String DiffLink)
    (result : LinkDiffResult) : Prop where
  invalidBaseline : ∀ key link, result.invalidBaselineLinks key = some link ↔
    baselineLinkMap key = some link ∧ link.isValid = false
  invalidActual : ∀ key link, result.invalidActualLinks key = some link ↔
    actualLinkMap key = some link ∧ link.isValid = false
  unchanged : ∀ key link, result.unchangedLinks key = some link ↔
    link.isValid = true ∧ baselineLinkMap key = some link ∧ actualLinkMap key = some link
  removed : ∀ key link, result.removedLinks key = some link ↔
    link.isValid = true ∧ baselineLinkMap key = some link ∧ actualLinkMap key ≠ some link
  new : ∀ key link, result.newLinks key = some link ↔
    link.isValid = true ∧ actualLinkMap key = some link ∧ baselineLinkMap key ≠ some link
  rewired : ∀ key link, result.rewiredLinks key = some link ↔
    result.newLinks key = some link ∧ ∃ key' other, baselineLinkMap key' = some other ∧
      other.isValid = true ∧ ∃ endpoint, link.Uses endpoint ∧ other.Uses endpoint

variable {link link' : DiffLink}

/-! ### A valid link is its text -/

/-- A text is cut in one way before the first separator. -/
theorem append_sep_inj {α : Type} {sep : α} {x x' z z' : List α} (hx : sep ∉ x) (hx' : sep ∉ x')
    (h : x ++ sep :: z = x' ++ sep :: z') : x = x' ∧ z = z' := by
  induction x generalizing x' with
  | nil =>
    cases x' with
    | nil => exact ⟨rfl, (cons.inj h).2⟩
    | cons b x' => exact absurd (cons.inj h).1 fun hb => hx' (by simp [hb])
  | cons a x ih =>
    cases x' with
    | nil => exact absurd (cons.inj h).1 fun ha => hx (by simp [ha])
    | cons b x' =>
      obtain ⟨rfl, hrest⟩ := cons.inj h
      obtain ⟨rfl, rfl⟩ := ih (fun hmem => hx (mem_cons_of_mem _ hmem))
        (fun hmem => hx' (mem_cons_of_mem _ hmem)) hrest
      exact ⟨rfl, rfl⟩

theorem toList_toString_port {port : ℤ} (h : 0 < port) :
    (toString port).toList = Nat.toDigits 10 port.toNat := by
  obtain ⟨n, rfl⟩ := Int.eq_ofNat_of_zero_le (Int.le_of_lt h)
  exact Nat.toList_repr

/-- **An endpoint is its text**, where ports are numbers of ports. -/
theorem endpointText_inj {ip ip' : String} {port port' : ℤ} (hport : 0 < port) (hport' : 0 < port')
    (h : endpointText ip port = endpointText ip' port') : ip = ip' ∧ port = port' := by
  have hchars := congrArg String.toList h
  unfold endpointText at hchars
  simp only [String.toList_append, append_assoc] at hchars
  rw [toList_toString_port hport, toList_toString_port hport'] at hchars
  have hcolon : ∀ n : ℕ, ':' ∉ (Nat.toDigits 10 n).reverse := by
    intro n hmem
    have hdigit := Nat.isDigit_of_mem_toDigits (by decide) (by decide) (mem_reverse.1 hmem)
    exact absurd hdigit (by decide)
  -- the last colon is the one before the port
  have hreverse := congrArg reverse hchars
  simp only [reverse_append, append_assoc] at hreverse
  obtain ⟨hdigits, hips⟩ := append_sep_inj (hcolon _) (hcolon _) hreverse
  refine ⟨String.toList_inj.1 (reverse_inj.1 hips), ?_⟩
  have hnumber := congrArg (Nat.ofDigitChars 10 · 0) (reverse_inj.1 hdigits)
  simp only [Nat.ofDigitChars_ten_toDigits] at hnumber
  omega

namespace DiffLink

theorem isValid_iff : link.isValid = true ↔
    (∃ ip, GoNet.parseIP link.ip1 = some ip ∧ ip.isIPv4 = true) ∧
      (∃ ip, GoNet.parseIP link.ip2 = some ip ∧ ip.isIPv4 = true) ∧
      (0 < link.port1 ∧ 0 < link.port2) ∧ link.ip1 ≠ link.ip2 := by
  unfold isValid isValidReason
  cases GoNet.parseIP link.ip1 with
  | none => simp
  | some parsedIP1 =>
    cases GoNet.parseIP link.ip2 with
    | none =>
      dsimp only
      split_ifs <;> simp
    | some parsedIP2 =>
      dsimp only
      split_ifs with h₁ h₂ h₃ h₄ h₅
      · simp_all
      · simp_all
      · exact iff_of_false nofun fun h => by omega
      · exact iff_of_false nofun fun h => by omega
      · exact iff_of_false nofun fun h => h.2.2.2 h₅
      · refine iff_of_true rfl ⟨⟨_, rfl, ?_⟩, ⟨_, rfl, ?_⟩, by omega, h₅⟩
        · simpa using h₁
        · simpa using h₂

/-- There is no dash in an endpoint of a valid link. -/
theorem dash_not_mem_endpointText {ip : String} {port : ℤ} {parsed : GoNet.IP}
    (hip : GoNet.parseIP ip = some parsed) (hport : 0 < port) :
    '-' ∉ (endpointText ip port).toList := by
  unfold endpointText
  simp only [String.toList_append, mem_append]
  rw [toList_toString_port hport]
  rintro ((hmem | hmem) | hmem)
  · exact absurd (GoNet.addressChar_of_parseIP hip hmem) (by decide)
  · exact absurd hmem (by decide)
  · exact absurd (Nat.isDigit_of_mem_toDigits (by decide) (by decide) hmem) (by decide)

/-- **A valid link is determined by its text.** -/
theorem string_injective (hlink : link.isValid = true) (hlink' : link'.isValid = true)
    (h : link.string = link'.string) : link = link' := by
  obtain ⟨⟨ip₁, hip₁, -⟩, -, ⟨hport₁, hport₂⟩, -⟩ := isValid_iff.1 hlink
  obtain ⟨⟨ip₁', hip₁', -⟩, -, ⟨hport₁', hport₂'⟩, -⟩ := isValid_iff.1 hlink'
  have hchars := congrArg String.toList h
  unfold string at hchars
  simp only [String.toList_append, append_assoc] at hchars
  obtain ⟨hfrom, hto⟩ := append_sep_inj
    (dash_not_mem_endpointText hip₁ hport₁) (dash_not_mem_endpointText hip₁' hport₁') hchars
  obtain ⟨hip1, hport1⟩ := endpointText_inj hport₁ hport₁' (String.toList_inj.1 hfrom)
  obtain ⟨hip2, hport2⟩ := endpointText_inj hport₂ hport₂' (String.toList_inj.1 hto)
  cases link
  cases link'
  simp only at hip1 hport1 hip2 hport2
  rw [hip1, hport1, hip2, hport2]

theorem fromEndpoint_ne_toEndpoint (hlink : link.isValid = true) :
    link.fromEndpoint ≠ link.toEndpoint := by
  obtain ⟨-, -, ⟨hport₁, hport₂⟩, hne⟩ := isValid_iff.1 hlink
  exact fun h => hne (endpointText_inj hport₁ hport₂ h).1

end DiffLink

/-! ### What the loops hold -/

variable {baselineLinkMap actualLinkMap links : GoMap String DiffLink} {orders : DiffOrders}
  {order : List (String × DiffLink)} {key endpoint : String}

/-- **The invalid links** are collected under the keys they had. -/
theorem invalidLinks_iff (h : links.Ranges order) :
    invalidLinks order key = some link ↔ links key = some link ∧ link.isValid = false := by
  have hfilled : invalidLinks order = empty.setAll (order.filter fun x => !x.2.isValid) := by
    unfold invalidLinks
    rw [setAll, foldl_filter]
  have hnodup : ((order.filter fun x => !x.2.isValid).map (·.1)).Nodup :=
    h.nodup.sublist (filter_sublist.map _)
  rw [hfilled, ← (ranges_setAll hnodup).mem, mem_filter, h.mem, not_eq_true']

/-- **What is left of the input** is its valid links. -/
theorem mem_dropInvalid (h : links.Ranges order) :
    dropInvalid links order key = some link ↔ links key = some link ∧ link.isValid = true := by
  unfold dropInvalid
  rw [foldl_delete_iff h (fun link : DiffLink => !link.isValid), not_eq_false']

variable (hkeyed : Keyed links) (h : links.Ranges order)
include hkeyed h

theorem Keyed.dropInvalid : Keyed (dropInvalid links order) :=
  fun key link hlink => hkeyed key link ((mem_dropInvalid h).1 hlink).1

/-- **A link is found by its text** among the valid ones exactly when it is one of them. -/
theorem isSome_dropInvalid (hlink : link.isValid = true) :
    (dropInvalid links order link.string).isSome = true ↔ links link.string = some link := by
  rw [Option.isSome_iff_exists]
  constructor
  · rintro ⟨found, hfound⟩
    obtain ⟨hstored, hvalid⟩ := (mem_dropInvalid h).1 hfound
    obtain rfl := DiffLink.string_injective hvalid hlink (hkeyed _ _ hstored)
    exact hstored
  · exact fun hstored => ⟨link, (mem_dropInvalid h).2 ⟨hstored, hlink⟩⟩

/-- **The links that a loop collects** are those of the walk that meet its test. -/
theorem collect_eq_some_iff {p : DiffLink → Bool} :
    collect order p key = some link ↔ links key = some link ∧ p link = true :=
  foldl_collect_iff h p hkeyed

theorem Keyed.collect (p : DiffLink → Bool) : Keyed (collect order p) :=
  fun key link hlink => hkeyed key link ((collect_eq_some_iff hkeyed h).1 hlink).1

omit hkeyed h

/-! ### Who uses an endpoint -/

/-- The links of a walk that use an endpoint, in its order. -/
def users (order : List (String × DiffLink)) (endpoint : String) : List DiffLink :=
  (order.map (·.2)).filter fun link => link.Uses endpoint

theorem mem_users : link ∈ users order endpoint ↔ (∃ key, (key, link) ∈ order) ∧
    link.Uses endpoint := by
  unfold users
  rw [mem_filter, mem_map, decide_eq_true_iff]
  refine and_congr_left fun _ => ⟨?_, fun ⟨key, hmem⟩ => ⟨(key, link), hmem, rfl⟩⟩
  rintro ⟨⟨key, link⟩, hmem, rfl⟩
  exact ⟨key, hmem⟩

/-- The users of an endpoint are in conflict when there are two or more. -/
def conflictOf : List DiffLink → Option (List DiffLink)
  | first :: second :: rest => some (first :: second :: rest)
  | _ => none

/-- **The port map for these users of the endpoints**: the first one is in the port map, and
where there is a second one all of them are in conflict. -/
def PortMap.Notes (ports : PortMap) (users : String → List DiffLink) : Prop :=
  ∀ endpoint, ports.endpoints endpoint = (users endpoint).head? ∧
    ports.conflicted endpoint = conflictOf (users endpoint)

/-- **One end of a link** makes it one more user of that endpoint. -/
theorem PortMap.Notes.noteBaselineEndpoint {ports : PortMap} {users : String → List DiffLink}
    (h : ports.Notes users) (link : DiffLink) (at' : String) :
    (noteBaselineEndpoint link ports at').Notes
      fun endpoint => if endpoint = at' then users endpoint ++ [link] else users endpoint := by
  intro endpoint
  obtain ⟨hendpoints, hconflicted⟩ := h endpoint
  obtain ⟨hat, hconflict⟩ := h at'
  unfold LinkDiff.noteBaselineEndpoint
  cases hused : users at' with
  | nil =>
    rw [hused, head?_nil] at hat
    rw [hat]
    dsimp only
    rw [set_apply]
    by_cases heq : endpoint = at'
    · subst heq
      rw [if_pos rfl, if_pos rfl, hconflicted, hused]
      exact ⟨rfl, rfl⟩
    · rw [if_neg heq, if_neg heq]
      exact ⟨hendpoints, hconflicted⟩
  | cons first rest =>
    rw [hused, head?_cons] at hat
    rw [hat]
    dsimp only
    unfold joinConflict
    by_cases heq : endpoint = at'
    · subst heq
      rw [if_pos rfl, hat, hused]
      refine ⟨rfl, ?_⟩
      rw [hconflict, hused]
      cases rest with
      | nil => simp [conflictOf]
      | cons second rest => simp [conflictOf]
    · rw [if_neg heq]
      refine ⟨hendpoints, Eq.trans ?_ hconflicted⟩
      cases ports.conflicted at' with
      | none => exact if_neg heq
      | some links => exact if_neg heq

/-- **The baseline's port map** is about the users in the walk, if no link ends where it
starts. -/
theorem notes_baselinePorts (h : ∀ x ∈ order, x.2.fromEndpoint ≠ x.2.toEndpoint) :
    (baselinePorts order).Notes (users order) := by
  unfold baselinePorts
  refine Loop.foldl_rule (I := fun passed ports => PortMap.Notes ports (users passed))
    (fun endpoint => ⟨rfl, rfl⟩) ?_
  rintro passed ⟨key, link⟩ rest rfl hports
  have hends := h (key, link) (by simp)
  have hstep := (hports.noteBaselineEndpoint link link.fromEndpoint).noteBaselineEndpoint link
    link.toEndpoint
  intro endpoint
  have hwho : users (passed ++ [(key, link)]) endpoint =
      if endpoint = link.toEndpoint then
        (if endpoint = link.fromEndpoint then users passed endpoint ++ [link]
          else users passed endpoint) ++ [link]
      else if endpoint = link.fromEndpoint then users passed endpoint ++ [link]
      else users passed endpoint := by
    unfold users
    rw [map_append, filter_append]
    by_cases hto : endpoint = link.toEndpoint
    · have hfrom : endpoint ≠ link.fromEndpoint := fun hfrom => hends (hfrom.symm.trans hto)
      simp [DiffLink.Uses, hto, hends.symm]
    · by_cases hfrom : endpoint = link.fromEndpoint
      · simp [DiffLink.Uses, hfrom, hends]
      · simp [DiffLink.Uses, hto, hfrom]
  rw [hwho]
  exact hstep endpoint

/-- **An endpoint is in the port map** exactly when a link of the walk uses it. -/
theorem isSome_baselinePorts (h : ∀ x ∈ order, x.2.fromEndpoint ≠ x.2.toEndpoint) :
    ((baselinePorts order).endpoints endpoint).isSome = true ↔
      ∃ x ∈ order, x.2.Uses endpoint := by
  rw [(notes_baselinePorts h endpoint).1, isSome_head?]
  constructor
  · intro hne
    obtain ⟨link, hlink⟩ := exists_mem_of_ne_nil _ hne
    obtain ⟨⟨key, hmem⟩, huses⟩ := mem_users.1 hlink
    exact ⟨(key, link), hmem, huses⟩
  · rintro ⟨x, hmem, huses⟩
    exact ne_nil_of_mem (mem_users.2 ⟨⟨x.1, hmem⟩, huses⟩)

/-! ### The difference -/

theorem DiffOrders.Walks.ends (h : orders.Walks baselineLinkMap actualLinkMap) :
    ∀ x ∈ orders.baselinePorts, x.2.fromEndpoint ≠ x.2.toEndpoint := fun x hx =>
  DiffLink.fromEndpoint_ne_toEndpoint
    ((mem_dropInvalid h.checkBaseline).1 ((h.baselinePorts.mem x.1 x.2).1 hx)).2

/-- **`ComputeLinkDiff` is exact**: for maps whose entries are under their own texts, every
link of both sides is in the classes it belongs to, and in no others, in whatever order the
maps are walked. -/
theorem computeLinkDiff_exact (hbaseline : Keyed baselineLinkMap) (hactual : Keyed actualLinkMap)
    (horders : orders.Walks baselineLinkMap actualLinkMap) :
    ∃ result, computeLinkDiff (some baselineLinkMap) (some actualLinkMap) orders = .ok result ∧
      Classified baselineLinkMap actualLinkMap result := by
  have hkeptBaseline := hbaseline.dropInvalid horders.checkBaseline
  have hkeptActual := hactual.dropInvalid horders.checkActual
  -- a valid link of one side is looked up on the other
  have hinActual : ∀ {key link}, baselineLinkMap key = some link → link.isValid = true →
      ((dropInvalid actualLinkMap orders.checkActual link.string).isSome = true ↔
        actualLinkMap key = some link) := by
    intro key link hlink hvalid
    rw [isSome_dropInvalid hactual horders.checkActual hvalid, hbaseline key link hlink]
  have hinBaseline : ∀ {key link}, actualLinkMap key = some link → link.isValid = true →
      ((dropInvalid baselineLinkMap orders.checkBaseline link.string).isSome = true ↔
        baselineLinkMap key = some link) := by
    intro key link hlink hvalid
    rw [isSome_dropInvalid hbaseline horders.checkBaseline hvalid, hactual key link hlink]
  refine ⟨_, rfl, ?_, ?_, ?_, ?_, ?_, ?_⟩
  · exact fun key link => invalidLinks_iff horders.checkBaseline
  · exact fun key link => invalidLinks_iff horders.checkActual
  · intro key link
    rw [collect_eq_some_iff hkeptBaseline horders.baseline, mem_dropInvalid horders.checkBaseline]
    constructor
    · rintro ⟨⟨hlink, hvalid⟩, hfound⟩
      exact ⟨hvalid, hlink, (hinActual hlink hvalid).1 hfound⟩
    · rintro ⟨hvalid, hlink, hfound⟩
      exact ⟨⟨hlink, hvalid⟩, (hinActual hlink hvalid).2 hfound⟩
  · intro key link
    rw [collect_eq_some_iff hkeptBaseline horders.baseline, mem_dropInvalid horders.checkBaseline,
      not_eq_true', ← not_eq_true]
    constructor
    · rintro ⟨⟨hlink, hvalid⟩, hmiss⟩
      exact ⟨hvalid, hlink, fun hfound => hmiss ((hinActual hlink hvalid).2 hfound)⟩
    · rintro ⟨hvalid, hlink, hmiss⟩
      exact ⟨⟨hlink, hvalid⟩, fun hfound => hmiss ((hinActual hlink hvalid).1 hfound)⟩
  · intro key link
    rw [collect_eq_some_iff hkeptActual horders.actual, mem_dropInvalid horders.checkActual,
      not_eq_true', ← not_eq_true]
    constructor
    · rintro ⟨⟨hlink, hvalid⟩, hmiss⟩
      exact ⟨hvalid, hlink, fun hfound => hmiss ((hinBaseline hlink hvalid).2 hfound)⟩
    · rintro ⟨hvalid, hlink, hmiss⟩
      exact ⟨⟨hlink, hvalid⟩, fun hfound => hmiss ((hinBaseline hlink hvalid).1 hfound)⟩
  · intro key link
    have hused : ∀ endpoint, ((baselinePorts orders.baselinePorts).endpoints
        endpoint).isSome = true ↔ ∃ key' other, baselineLinkMap key' = some other ∧
          other.isValid = true ∧ other.Uses endpoint := by
      intro endpoint
      rw [isSome_baselinePorts horders.ends]
      constructor
      · rintro ⟨x, hx, huses⟩
        obtain ⟨hstored, hvalid⟩ :=
          (mem_dropInvalid horders.checkBaseline).1 ((horders.baselinePorts.mem x.1 x.2).1 hx)
        exact ⟨x.1, x.2, hstored, hvalid, huses⟩
      · rintro ⟨key', other, hstored, hvalid, huses⟩
        exact ⟨(key', other), (horders.baselinePorts.mem key' other).2
          ((mem_dropInvalid horders.checkBaseline).2 ⟨hstored, hvalid⟩), huses⟩
    rw [collect_eq_some_iff (hkeptActual.collect horders.actual _) horders.new, or_eq_true,
      hused, hused]
    refine and_congr_right fun _ => ⟨?_, ?_⟩
    · rintro (⟨key', other, hstored, hvalid, huses⟩ | ⟨key', other, hstored, hvalid, huses⟩)
      · exact ⟨key', other, hstored, hvalid, _, .inl rfl, huses⟩
      · exact ⟨key', other, hstored, hvalid, _, .inr rfl, huses⟩
    · rintro ⟨key', other, hstored, hvalid, endpoint, rfl | rfl, huses⟩
      · exact .inl ⟨key', other, hstored, hvalid, huses⟩
      · exact .inr ⟨key', other, hstored, hvalid, huses⟩

theorem ranges_dropInvalid (h : links.Ranges order) :
    (dropInvalid links order).Ranges (order.filter (·.2.isValid)) where
  nodup := h.nodup.sublist (filter_sublist.map _)
  mem key link := by rw [mem_filter, h.mem, mem_dropInvalid h]

theorem ranges_collect (hkeyed : Keyed links) (h : links.Ranges order) (p : DiffLink → Bool) :
    (collect order p).Ranges (order.filter (p ·.2)) where
  nodup := h.nodup.sublist (filter_sublist.map _)
  mem key link := by rw [mem_filter, h.mem, collect_eq_some_iff hkeyed h]

theorem exists_walks (hactual : Keyed actualLinkMap) {baseline actual : List (String × DiffLink)}
    (hb : baselineLinkMap.Ranges baseline) (ha : actualLinkMap.Ranges actual) :
    ∃ orders : DiffOrders, orders.Walks baselineLinkMap actualLinkMap :=
  ⟨⟨baseline, actual, _, _, _, _, _⟩, hb, ha, ranges_dropInvalid hb, ranges_dropInvalid ha,
    ranges_dropInvalid hb, ranges_dropInvalid ha,
    ranges_collect (hactual.dropInvalid ha) (ranges_dropInvalid ha)
      fun link => !(dropInvalid baselineLinkMap baseline link.string).isSome⟩

/-- The entries of a map of links under their texts. -/
def textEntries (links : List DiffLink) : List (String × DiffLink) :=
  links.map fun link => (link.string, link)

/-- Two links of a chain of three switches. -/
def chainLinks : List DiffLink :=
  [⟨"192.168.127.1", 1, "192.168.127.2", 1⟩, ⟨"192.168.127.2", 2, "192.168.127.3", 2⟩]

/-- The chain with its second link at another port, and a link whose address is missing. -/
def rewiredChain : List DiffLink :=
  [⟨"192.168.127.1", 1, "192.168.127.2", 1⟩, ⟨"192.168.127.2", 2, "192.168.127.3", 8⟩,
    ⟨"", 1, "192.168.140.1", 1⟩]

theorem keyed_textEntries (links : List DiffLink) : Keyed (empty.setAll
    (textEntries links)) :=
  fun _ _ => forall_setAll (P := fun key (link : DiffLink) => link.string = key) fun x hx =>
    by
    obtain ⟨link, -, rfl⟩ := mem_map.1 hx
    rfl

/-- The chain and what became of it can be compared. -/
theorem computeLinkDiff_rewiredChain : ∃ orders result,
    computeLinkDiff (some (GoMap.empty.setAll (textEntries chainLinks)))
        (some (GoMap.empty.setAll (textEntries rewiredChain))) orders = .ok result ∧
      Classified (GoMap.empty.setAll (textEntries chainLinks))
        (GoMap.empty.setAll (textEntries rewiredChain)) result := by
  obtain ⟨orders, hords⟩ := exists_walks (keyed_textEntries rewiredChain)
    (ranges_setAll (l := textEntries chainLinks) (by decide +kernel))
    (ranges_setAll (l := textEntries rewiredChain) (by decide +kernel))
  exact ⟨orders, computeLinkDiff_exact (keyed_textEntries _) (keyed_textEntries _) hords⟩

end LinkDiff
end Sebastian
