/-
# One pass over the links converges

After one pass of `updateTopologyLink` the cache and core agree, and they hold
the links that are up between current devices, and the links of the baseline
between current devices whose ports none of these uses
(`converged_updateTopologyLink`).

The argument goes through the phases.  What the first one leaves is in the
baseline or up.  The next three put the links that are up there one after the
other: they do not share endpoints, so that none makes room for another.  The last
phase leaves no port of the baseline free (`Topology.WellKept.settled`), and where
the links of the baseline share none either, what is at the ports of one of them
is the link itself or one that is up.
-/

import Sebastian.Monitor.LinkPhases

namespace Sebastian
namespace Monitor

open LinkPass List Option GoMap

variable {env : PassEnv}

/-! ### What a pass begins with -/

/-- **A state between two passes**: the devices are known, the links of the baseline and those
reported are under their texts, and the cache agrees with core. -/
structure Topology.WellKept (m : Topology) : Prop where
  wellFormed : m.core.WellFormed
  devices : KnownDevices m.currentDeviceMap m.core
  baseline : ∀ k link, m.baselineLinkMap k = some link →
    getActLinkStr link.toLinkConf m.baselineDeviceMap = some k
  mafLinks : ∀ k link, m.mafLinksCache k = some link → getMafLinkIdentifier link = k
  agrees : Agrees m.currentDeviceMap m.core m.currentLinkMap

/-- The link is in the baseline. -/
def Topology.InBaseline (m : Topology) (k : DiffLink) : Prop :=
  ∃ link, m.baselineLinkMap k = some link

/-- The link is reported up, and valid. -/
def Topology.Up (m : Topology) (k : DiffLink) : Prop :=
  k.isValid = true ∧ ∃ x link, m.mafLinksCache x = some link ∧ link.isUp = true ∧
    getMafLinkIdentifier link = k

/-- No two of the links share an endpoint. -/
def Disjoint (P : DiffLink → Prop) : Prop := ∀ k k', P k → P k' → k.Shares k' → k = k'

section
variable {rules : CoreRules} {m : Topology} {orders : LinkOrders} {k k' link : DiffLink}
  {D : GoMap ℤ ActDevice} {core : CoreProject} {cache : GoMap DiffLink ActLink}

/-- **Links of core that are cached** share no endpoint. -/
theorem Agrees.disjoint (h : Agrees D core cache) (hcore : core.WellFormed)
    (hD : KnownDevices D core) : Disjoint fun k => ∃ link, cache k = some link := by
  rintro k k' ⟨link, hlink⟩ ⟨link', hlink'⟩ hshares
  obtain ⟨hstr, hmem⟩ := h.stored k link hlink
  obtain ⟨hstr', hmem'⟩ := h.stored k' link' hlink'
  by_contra hne
  have hlinks : link ≠ link' := by
    rintro rfl
    exact hne (some.inj (hstr.symm.trans hstr'))
  have hsame := (hD.shares_iff hstr hstr').1 hshares
  have hsame' := (hD.shares_iff hstr' hstr).1 hshares.symm
  refine (List.Pairwise.forall_of_forall_of_flip (R := fun link link' : ActLink => link ≠ link' →
    ¬(link.SharesPort link'.toLinkConf ∧ link'.SharesPort link.toLinkConf))
    (fun _ _ hself => absurd rfl hself) (hcore.imp fun hapart _ hboth => hapart.2 hboth.1)
    (hcore.imp fun hapart _ hboth => hapart.2 hboth.2) hmem hmem') hlinks ⟨hsame, hsame'⟩

/-- One link of `endpointMapOf`. -/
def endpointStep (D : GoMap ℤ ActDevice) (endpoints : GoMap Endpoint ActLink)
    (x : DiffLink × ActLink) : GoMap Endpoint ActLink :=
  match getActLinkEndpointsStr x.2.toLinkConf D with
  | none => endpoints
  | some ends => (endpoints.set ends.1 x.2).set ends.2 x.2

/-- **The endpoint map** leads from the endpoints of the cached links to these links. -/
theorem endpointMapOf_iff (h : Agrees D core cache) (hcore : core.WellFormed)
    (hD : KnownDevices D core) {order : List (DiffLink × ActLink)} (horder : cache.Ranges order)
    (endpoint : Endpoint) (link : ActLink) : endpointMapOf D order endpoint = some link ↔
      ∃ k, cache k = some link ∧ k.Uses endpoint := by
  have hfold : ∀ (l : List (DiffLink × ActLink)) (endpoints : GoMap Endpoint ActLink),
      (∀ x ∈ l, cache x.1 = some x.2) → (l.map (·.1)).Nodup →
      (∀ x ∈ l, ∀ endpoint, x.1.Uses endpoint → endpoints endpoint = none) →
      (l.foldl (endpointStep D) endpoints endpoint = some link ↔
        (∃ x ∈ l, x.2 = link ∧ x.1.Uses endpoint) ∨ endpoints endpoint = some link) := by
    intro l
    induction l with
    | nil => simp
    | cons x l ih =>
      intro endpoints hl hnodup hfree
      rw [map_cons, nodup_cons] at hnodup
      have hx := hl x mem_cons_self
      have hxs : ∀ y ∈ l, ¬y.1.Shares x.1 := fun y hy hshares => by
        have heq := h.disjoint hcore hD y.1 x.1 ⟨_, hl y (mem_cons_of_mem _ hy)⟩ ⟨_,
          hx⟩ hshares
        exact hnodup.1 (heq ▸ mem_map_of_mem hy)
      rw [foldl_cons, endpointStep, getActLinkEndpointsStr_of_str (h.stored x.1 x.2 hx).1]
      rw [ih _ (fun y hy => hl y (mem_cons_of_mem _ hy)) hnodup.2, exists_mem_cons_iff]
      · show _ ∨ (if endpoint = x.1.toEndpoint then some x.2
          else if endpoint = x.1.fromEndpoint then some x.2 else endpoints endpoint) = some link ↔ _
        have hset : (if endpoint = x.1.toEndpoint then some x.2
            else if endpoint = x.1.fromEndpoint then some x.2 else endpoints endpoint) =
              some link ↔ (x.2 = link ∧ x.1.Uses endpoint) ∨ endpoints endpoint = some link := by
          split_ifs with hto hfrom
          · rw [hfree x mem_cons_self endpoint (.inr hto), or_iff_left (by rintro ⟨⟩),
              some.injEq]
            exact (and_iff_left (.inr hto)).symm
          · rw [hfree x mem_cons_self endpoint (.inl hfrom), or_iff_left (by rintro ⟨⟩),
              some.injEq]
            exact (and_iff_left (.inl hfrom)).symm
          · refine (or_iff_right fun huses => ?_).symm
            rcases huses.2 with huses | huses
            · exact hfrom huses
            · exact hto huses
        rw [hset, or_left_comm, (or_assoc : _ ↔ _)]
      · intro y hy endpoint huses
        show (if endpoint = x.1.toEndpoint then some x.2
          else if endpoint = x.1.fromEndpoint then some x.2 else endpoints endpoint) = none
        rw [if_neg fun hto => hxs y hy ⟨endpoint, huses, .inr hto⟩,
          if_neg fun hfrom => hxs y hy ⟨endpoint, huses, .inl hfrom⟩]
        exact hfree y (mem_cons_of_mem _ hy) endpoint huses
  have hall := hfold order .empty (fun x hx => (horder.mem x.1 x.2).1 hx) horder.nodup
    fun _ _ _ _ => rfl
  rw [empty_apply, or_iff_left (by rintro ⟨⟩)] at hall
  refine hall.trans ?_
  constructor
  · rintro ⟨x, hx, rfl, huses⟩
    exact ⟨x.1, (horder.mem x.1 x.2).1 hx, huses⟩
  · rintro ⟨k, hk, huses⟩
    exact ⟨(k, link), (horder.mem k link).2 hk, rfl, huses⟩

/-- **The invariant holds when the phases begin.** -/
theorem Topology.WellKept.passInv (h : m.WellKept) (horders : orders.Walks rules m) :
    PassInv (passEnv rules m orders) (init m orders) where
  wellFormed := h.wellFormed
  devices := h.devices
  agrees := h.agrees
  copy := rfl
  endpoints := endpointMapOf_iff h.agrees h.wellFormed h.devices horders.endpoints

/-! ### What the phases read -/

/-- **The devices by their addresses**, as no two have one address. -/
theorem KnownDevices.setAll_iff (hD : KnownDevices D core) {order : List (ℤ × ActDevice)}
    (horder : D.Ranges order) {ip : IpAddress} {device : ActDevice} :
    empty.setAll (order.map fun x => (x.2.ipAddress, x.2)) ip = some device ↔
      ∃ id, D id = some device ∧ device.ipAddress = ip := by
  have hnodup : ((order.map fun x => (x.2.ipAddress, x.2)).map (·.1)).Nodup := by
    rw [List.map_map]
    refine List.Nodup.map_on (fun x hx y hy heq => ?_) (List.Nodup.of_map _ horder.nodup)
    have hx' := (horder.mem x.1 x.2).1 hx
    have hy' := (horder.mem y.1 y.2).1 hy
    have hid := hD.ip_inj _ _ _ _ hx' hy' heq
    rw [hid, hy'] at hx'
    exact Prod.ext hid (some.inj hx').symm
  constructor
  · intro hfind
    rcases mem_of_setAll hfind with hmem | ⟨-, hempty⟩
    · obtain ⟨x, hx, heq⟩ := mem_map.1 hmem
      obtain ⟨rfl, rfl⟩ := Prod.mk.inj heq
      exact ⟨x.1, (horder.mem x.1 x.2).1 hx, rfl⟩
    · cases hempty
  · rintro ⟨id, hid, rfl⟩
    refine setAll_of_mem hnodup (mem_map.2 ⟨(id, device), ?_, rfl⟩)
    exact (horder.mem id device).2 hid

theorem Topology.WellKept.ipIndexed (h : m.WellKept) (horders : orders.Walks rules m) :
    IpIndexed (passEnv rules m orders) :=
  fun _ _ => h.devices.setAll_iff horders.currentDevices

/-- The link of the difference that a baseline link gives. -/
def baselineDiffLink (m : Topology) (link : ActLink) : Option DiffLink :=
  match m.baselineDeviceMap link.sourceDeviceId,
    m.baselineDeviceMap link.destinationDeviceId with
  | some srcActDevice, some dstActDevice =>
    some (newDiffLink srcActDevice.ipAddress link.sourceInterfaceId
      dstActDevice.ipAddress link.destinationInterfaceId)
  | _, _ => none

/-- `baselineDiffLinkMap` holds the links of the baseline. -/
theorem baselineDiffLinkMap_iff (h : m.WellKept) (horders : orders.Walks rules m) :
    baselineDiffLinkMap m orders.baselineLinks k = some link ↔ link = k ∧ m.InBaseline k := by
  refine (foldl_set_iff (f := fun x : DiffLink × ActLink => baselineDiffLink m x.2)
    (fun result x => ?_) orders.baselineLinks k link .empty Keyed.empty).trans
    (and_congr_right fun _ => ?_)
  · unfold baselineDiffLink
    cases m.baselineDeviceMap x.2.sourceDeviceId <;>
      cases m.baselineDeviceMap x.2.destinationDeviceId <;> rfl
  rw [empty_apply, or_iff_left (by rintro ⟨⟩)]
  have hname : ∀ x ∈ orders.baselineLinks, baselineDiffLink m x.2 = some x.1 := by
    intro x hx
    obtain ⟨src, dst, ⟨hsrc, hdst⟩, -, hname⟩ :=
      getActLinkStr_eq_some.1 (h.baseline x.1 x.2 ((horders.baselineLinks.mem x.1 x.2).1 hx))
    rw [baselineDiffLink, hsrc, hdst, hname]
  constructor
  · rintro ⟨x, hx, hk⟩
    rw [hname x hx] at hk
    cases hk
    exact ⟨x.2, (horders.baselineLinks.mem x.1 x.2).1 hx⟩
  · rintro ⟨link', hk⟩
    have hmem := (horders.baselineLinks.mem k link').2 hk
    exact ⟨(k, link'), hmem, hname _ hmem⟩

/-- `inputActualDiffLinkMap` holds the links that are up. -/
theorem inputActualDiffLinkMap_iff (horders : orders.Walks rules m) :
    inputActualDiffLinkMap orders.mafLinks k = some link ↔ link = k ∧
      ∃ x link, m.mafLinksCache x = some link ∧ link.isUp = true ∧
        getMafLinkIdentifier link = k := by
  have hfill := foldl_set_iff
    (f := fun x : DiffLink × MafLink =>
      if x.2.isUp = true then some (getMafLinkIdentifier x.2) else none)
    (fun result x => by
      show (if x.2.isUp = true then
        result.set (getMafLinkIdentifier x.2) (getMafLinkIdentifier x.2) else result) = _
      split_ifs <;> rfl)
    orders.mafLinks k link .empty Keyed.empty
  refine hfill.trans (and_congr_right fun _ => ?_)
  rw [empty_apply, or_iff_left (by rintro ⟨⟩)]
  constructor
  · rintro ⟨x, hx, hk⟩
    split_ifs at hk with hup
    exact ⟨x.1, x.2, (horders.mafLinks.mem x.1 x.2).1 hx, hup, some.inj hk⟩
  · rintro ⟨x, link', hlink', hup, rfl⟩
    exact ⟨(x, link'), (horders.mafLinks.mem x link').2 hlink', if_pos hup⟩

theorem keyed_baselineDiffLinkMap (h : m.WellKept) (horders : orders.Walks rules m) :
    Keyed (baselineDiffLinkMap m orders.baselineLinks) :=
  fun _ _ hk => ((baselineDiffLinkMap_iff h horders).1 hk).1

theorem keyed_inputActualDiffLinkMap (horders : orders.Walks rules m) :
    Keyed (inputActualDiffLinkMap orders.mafLinks) :=
  fun _ _ hk => ((inputActualDiffLinkMap_iff horders).1 hk).1

/-- **Unchanged** are the links that are up and in the baseline. -/
theorem Topology.WellKept.unchanged_iff (h : m.WellKept) (horders : orders.Walks rules m) :
    (passEnv rules m orders).diffResult.unchangedLinks k = some link ↔
      link = k ∧ m.Up k ∧ m.InBaseline k := by
  refine (Monitor.unchanged_iff (keyed_baselineDiffLinkMap h horders)
    (keyed_inputActualDiffLinkMap horders) horders.diff).trans (and_congr_right fun _ => ?_)
  rw [baselineDiffLinkMap_iff h horders, inputActualDiffLinkMap_iff horders]
  unfold Topology.Up
  tauto

/-- **New** are the links that are up and not in the baseline. -/
theorem Topology.WellKept.new_iff (h : m.WellKept) (horders : orders.Walks rules m) :
    (passEnv rules m orders).diffResult.newLinks k = some link ↔
      link = k ∧ m.Up k ∧ ¬m.InBaseline k := by
  refine (Monitor.new_iff (keyed_baselineDiffLinkMap h horders)
    (keyed_inputActualDiffLinkMap horders) horders.diff).trans (and_congr_right fun _ => ?_)
  rw [Ne, baselineDiffLinkMap_iff h horders, inputActualDiffLinkMap_iff horders]
  unfold Topology.Up
  tauto

/-- **Rewired** links are new. -/
theorem Topology.WellKept.new_of_rewired (h : m.WellKept) (horders : orders.Walks rules m)
    (hk : (passEnv rules m orders).diffResult.rewiredLinks k = some link) :
    (passEnv rules m orders).diffResult.newLinks k = some link :=
  ((rewired_iff (keyed_baselineDiffLinkMap h horders) (keyed_inputActualDiffLinkMap horders)
    horders.diff).1 hk).1

theorem Topology.Up.canonical (h : m.Up k) : k.Canonical := by
  obtain ⟨-, _, link, -, -, rfl⟩ := h
  exact DiffLink.canonical_newDiffLink _ _ _ _

end

/-! ### The phases, one after the other -/

/-- **The stale links leave**: what is left of the links that the loop went through is in the
baseline or reported. -/
theorem PassInv.removeStale_all {s : LinkPass} (h : PassInv env s) (l : List (DiffLink × ActLink)) :
    PassInv env (l.foldl (LinkPass.removeStale env) s) ∧
      (∀ k, (l.foldl (LinkPass.removeStale env) s).Has k → s.Has k) ∧
      (env.rules.Accepting → ∀ x ∈ l, (l.foldl (LinkPass.removeStale env) s).Has x.1 →
        (env.baselineDiffLinkMap x.1).isSome = true ∨
          (env.diffResult.unchangedLinks x.1).isSome = true ∨
          (env.diffResult.newLinks x.1).isSome = true) := by
  induction l generalizing s with
  | nil => exact ⟨h, fun _ hk => hk, fun _ => nofun⟩
  | cons x l ih =>
    obtain ⟨hx, hless, hkept⟩ := h.removeStale x
    obtain ⟨hinv, hless', hkept'⟩ := ih hx
    refine ⟨hinv, fun k hk => hless k (hless' k hk), fun hacc y hy hk => ?_⟩
    rcases mem_cons.1 hy with rfl | hy
    · exact hkept hacc (hless' _ hk)
    · exact hkept' hacc y hy hk

/-- The links that are up stay, and those of the walk come to be there. -/
structure Raised (env : PassEnv) (P Q : DiffLink → Prop) (s s' : LinkPass) : Prop where
  inv : PassInv env s'
  added : ∀ k, s'.Has k → s.Has k ∨ P k
  kept : ∀ k, P k → s.Has k → s'.Has k
  here : ∀ k, Q k → Between env.currentDeviceMap k → s'.Has k

theorem PassInv.between {s : LinkPass} (h : PassInv env s) {k : DiffLink} (hk : s.Has k) :
    Between env.currentDeviceMap k := by
  obtain ⟨link, hlink⟩ := hk
  obtain ⟨src, dst, ⟨hsrc, hdst⟩, -, rfl⟩ :=
    getActLinkStr_eq_some.1 (h.agrees.stored k link hlink).1
  exact between_newDiffLink.2 ⟨⟨_, src, hsrc, rfl⟩, ⟨_, dst, hdst, rfl⟩⟩

/-- **The links of a walk are put there**, one after the other.  As those that are up share no
endpoint, none of them makes room for another. -/
theorem PassInv.raised {P : DiffLink → Prop} {step : LinkPass → DiffLink × DiffLink → LinkPass}
    {l : List (DiffLink × DiffLink)} {s : LinkPass} (h : PassInv env s)
    (hacc : env.rules.Accepting) (hP : Disjoint P)
    (hmaf : ∀ k, P k → (env.mafLinks k).isSome = true) (hl : ∀ x ∈ l, P x.1)
    (hstep : ∀ s, PassInv env s → ∀ x ∈ l, Placed env x.1 s (step s x)) :
    Raised env P (fun k => ∃ x ∈ l, x.1 = k) s (l.foldl step s) := by
  induction l generalizing s with
  | nil => exact ⟨h, fun _ hk => .inl hk, fun _ _ hk => hk, nofun⟩
  | cons x l ih =>
    have hx := hl x mem_cons_self
    have hplaced := hstep s h x mem_cons_self
    have hhere := fun hbetween => hplaced.here hacc hbetween (hmaf x.1 hx)
    have hrest := ih hplaced.inv (fun y hy => hl y (mem_cons_of_mem _ hy))
      fun s hs y hy => hstep s hs y (mem_cons_of_mem _ hy)
    have hkept : ∀ k, P k → s.Has k → (step s x).Has k := by
      intro k hk hhas
      by_cases hshares : k.Shares x.1
      · obtain rfl := hP k x.1 hk hx hshares
        exact hhere (h.between hhas)
      · exact hplaced.kept k hhas hshares
    refine ⟨hrest.inv, fun k hk => ?_, fun k hk hhas => hrest.kept k hk (hkept k hk hhas), ?_⟩
    · rcases hrest.added k hk with hhas | hup
      · rcases hplaced.added k hhas with hhas | rfl
        · exact .inl hhas
        · exact .inr hx
      · exact .inr hup
    · rintro k ⟨y, hy, rfl⟩ hbetween
      rcases mem_cons.1 hy with rfl | hy
      · exact hrest.kept _ hx (hhere hbetween)
      · exact hrest.here _ ⟨y, hy, rfl⟩ hbetween

/-- **The last phase leaves no port of the baseline free**: nothing leaves, and at the ports of a
link of the baseline between two of the devices there is a link in the end. -/
theorem PassInv.readdBaseline_filled {s : LinkPass}
    {srcOrder dstOrder : DiffLink → List (ℤ × ActDevice)} {l : List (DiffLink × ActLink)}
    (h : PassInv env s) (hacc : env.rules.Accepting)
    (hsrcOrder : ∀ k, env.currentDeviceMap.Ranges (srcOrder k))
    (hdstOrder : ∀ k, env.currentDeviceMap.Ranges (dstOrder k))
    (hl : ∀ x ∈ l, getActLinkStr x.2.toLinkConf env.baselineDeviceMap = some x.1) :
    PassInv env (l.foldl (readdBaseline env srcOrder dstOrder) s) ∧
      (∀ k, (l.foldl (readdBaseline env srcOrder dstOrder) s).Has k →
        s.Has k ∨ ∃ x ∈ l, x.1 = k) ∧
      (∀ k, s.Has k → (l.foldl (readdBaseline env srcOrder dstOrder) s).Has k) ∧
      ∀ x ∈ l, Between env.currentDeviceMap x.1 →
        ∃ k, (l.foldl (readdBaseline env srcOrder dstOrder) s).Has k ∧ k.Shares x.1 := by
  induction l generalizing s with
  | nil => exact ⟨h, fun _ hk => .inl hk, fun _ hk => hk, nofun⟩
  | cons x l ih =>
    have hent := h.entered_readdBaseline hsrcOrder hdstOrder (hl x mem_cons_self)
    obtain ⟨hinv, hadded, hkept, hfilled⟩ := ih hent.inv
      fun y hy => hl y (mem_cons_of_mem _ hy)
    refine ⟨hinv, fun k hk => ?_, fun k hk => hkept k (hent.kept k hk),
      fun y hy hbetween => ?_⟩
    · rcases hadded k hk with hk | ⟨y, hy, rfl⟩
      · rcases hent.added k hk with hk | rfl
        · exact .inl hk
        · exact .inr ⟨x, mem_cons_self, rfl⟩
      · exact .inr ⟨y, mem_cons_of_mem _ hy, rfl⟩
    · rcases mem_cons.1 hy with rfl | hy
      · -- either the link enters, or what keeps it out stays
        by_cases halone : ∀ k, s.Has k → k.Shares y.1 → k = y.1
        · exact ⟨y.1, hkept _ (hent.here hacc ⟨hbetween, halone⟩), y.1.shares_self⟩
        · push Not at halone
          obtain ⟨k, hk, hshares, -⟩ := halone
          exact ⟨k, hkept k (hent.kept k hk), hshares⟩
      · exact hfilled y hy hbetween

/-! ### One pass -/

/-- The link is to be there after a pass: it is up, or it is in the baseline and no link that is
up between current devices uses one of its ports. -/
def Topology.Required (m : Topology) (k : DiffLink) : Prop :=
  (m.Up k ∧ Between m.currentDeviceMap k) ∨
    (m.InBaseline k ∧ Between m.currentDeviceMap k ∧
      ∀ u, m.Up u → Between m.currentDeviceMap u → ¬u.Shares k)

/-- **What a pass brings about**: the cache and core agree, no two of the links share an endpoint,
and they are those that are required. -/
structure Converged (m m' : Topology) : Prop where
  agrees : Agrees m.currentDeviceMap m'.core m'.currentLinkMap
  disjoint : Disjoint fun k => ∃ link, m'.currentLinkMap k = some link
  coreDisjoint : m'.core.links.Pairwise fun link link' => ¬link.SharesPort link'.toLinkConf
  required : ∀ k, (∃ link, m'.currentLinkMap k = some link) ↔ m.Required k

section
variable {rules : CoreRules} {m : Topology} {orders : LinkOrders} {s : LinkPass}
  {x : DiffLink × DiffLink}

variable (h : m.WellKept) (horders : orders.Walks rules m)
include h horders

theorem Topology.WellKept.of_mem_unchanged
    (hx : x ∈ orders.unchanged) : x = (x.1, x.1) ∧ m.Up x.1 ∧ m.InBaseline x.1 := by
  obtain ⟨heq, hup, hbase⟩ := (h.unchanged_iff horders).1 ((horders.unchanged.mem x.1 x.2).1 hx)
  exact ⟨Prod.ext rfl heq, hup, hbase⟩

theorem Topology.WellKept.of_mem_new
    (hx : x ∈ orders.new) : x = (x.1, x.1) ∧ m.Up x.1 ∧ ¬m.InBaseline x.1 := by
  obtain ⟨heq, hup, hbase⟩ := (h.new_iff horders).1 ((horders.new.mem x.1 x.2).1 hx)
  exact ⟨Prod.ext rfl heq, hup, hbase⟩

theorem Topology.WellKept.of_mem_rewired
    (hx : x ∈ orders.rewired) : x = (x.1, x.1) ∧ m.Up x.1 ∧ ¬m.InBaseline x.1 := by
  obtain ⟨heq, hup, hbase⟩ := (h.new_iff horders).1
    (h.new_of_rewired horders ((horders.rewired.mem x.1 x.2).1 hx))
  exact ⟨Prod.ext rfl heq, hup, hbase⟩

/-- **One link of the second phase.** -/
theorem Topology.WellKept.placed_unchanged
    (hs : PassInv (passEnv rules m orders) s) (hx : x ∈ orders.unchanged) :
    Placed (passEnv rules m orders) x.1 s (s.restoreUnchanged (passEnv rules m orders) x) := by
  obtain ⟨heq, hup, -⟩ := h.of_mem_unchanged horders hx
  rw [heq]
  exact hs.placed_restoreUnchanged (h.ipIndexed horders) hup.1 hup.canonical

/-- **One link of the third phase**; those that are rewired are left to the next. -/
theorem Topology.WellKept.placed_new (hs : PassInv (passEnv rules m orders) s) (hx : x ∈ orders.new)
    (hrewired : (passEnv rules m orders).diffResult.rewiredLinks x.1 = none) :
    Placed (passEnv rules m orders) x.1 s (s.addNew (passEnv rules m orders) x) := by
  obtain ⟨heq, hup, -⟩ := h.of_mem_new horders hx
  rw [heq]
  exact hs.placed_addNew (h.ipIndexed horders) hup.1 hup.canonical hrewired

/-- **One link of the fourth phase.** -/
theorem Topology.WellKept.placed_rewired
    (hs : PassInv (passEnv rules m orders) s) (hx : x ∈ orders.rewired) :
    Placed (passEnv rules m orders) x.1 s (s.addRewired (passEnv rules m orders) x) := by
  obtain ⟨heq, hup, -⟩ := h.of_mem_rewired horders hx
  rw [heq]
  exact hs.placed_addRewired (h.ipIndexed horders) hup.1 hup.canonical

omit h horders

/-- The third phase goes through the new links that are not rewired. -/
theorem foldl_addNew (env : PassEnv) (l : List (DiffLink × DiffLink)) :
    l.foldl (addNew env) s =
      (l.filter fun x => (env.diffResult.rewiredLinks x.1).isNone).foldl
        (addNew env) s := by
  rw [foldl_filter]
  refine foldl_ext _ _ _ fun s x _ => ?_
  cases hrewired : env.diffResult.rewiredLinks x.1 with
  | none => rfl
  | some link =>
    unfold addNew
    rw [hrewired]
    rfl

variable (h : m.WellKept) (horders : orders.Walks rules m)
include h horders

/-- **What the passes keep**, whatever is reported and whatever core refuses. -/
theorem Topology.WellKept.passInv_phases : PassInv (passEnv rules m orders)
      ((init m orders).phases (passEnv rules m orders) orders) := by
  have hstale := foldlRecOn orders.stale (LinkPass.removeStale (passEnv rules m orders))
    (h.passInv horders) fun s hs x _ => (hs.removeStale x).1
  have hunch := foldlRecOn orders.unchanged
    (restoreUnchanged (passEnv rules m orders)) hstale
    fun s hs x hx => (h.placed_unchanged horders hs hx).inv
  have hnew := foldlRecOn
    (orders.new.filter fun x => ((passEnv rules m orders).diffResult.rewiredLinks x.1).isNone)
    (addNew (passEnv rules m orders)) hunch fun s hs x hx =>
      (h.placed_new horders hs (mem_filter.1 hx).1
        (isNone_iff_eq_none.1 (mem_filter.1 hx).2)).inv
  rw [← foldl_addNew] at hnew
  have hrewired := foldlRecOn orders.rewired
    (addRewired (passEnv rules m orders)) hnew
    fun s hs x hx => (h.placed_rewired horders hs hx).inv
  exact foldlRecOn orders.readd _ hrewired fun s hs x hx =>
    (hs.entered_readdBaseline horders.srcDevices horders.dstDevices
      (h.baseline x.1 x.2 ((horders.readd.mem x.1 x.2).1 hx))).inv

/-- **A pass leads to a state between two passes.** -/
theorem Topology.WellKept.after_pass : (updateTopologyLink rules m orders).WellKept :=
  have hinv := h.passInv_phases horders
  ⟨hinv.wellFormed, hinv.devices, h.baseline, h.mafLinks, hinv.agrees⟩

theorem Topology.WellKept.of_mem_readd
    {x : DiffLink × ActLink} (hx : x ∈ orders.readd) : m.InBaseline x.1 ∧
      getActLinkStr x.2.toLinkConf (passEnv rules m orders).baselineDeviceMap = some x.1 :=
  have hlink := (horders.readd.mem x.1 x.2).1 hx
  ⟨⟨x.2, hlink⟩, h.baseline x.1 x.2 hlink⟩

/-- What the first phase leaves is in the baseline or up. -/
theorem Topology.WellKept.inBaseline_or_up {k : DiffLink} (hk : (init m orders).Has k)
    (hleft : ∀ x ∈ orders.stale, x.1 = k →
      ((passEnv rules m orders).baselineDiffLinkMap x.1).isSome = true ∨
        ((passEnv rules m orders).diffResult.unchangedLinks x.1).isSome = true ∨
        ((passEnv rules m orders).diffResult.newLinks x.1).isSome = true) :
    m.InBaseline k ∨ m.Up k := by
  obtain ⟨link, hlink⟩ := hk
  rcases hleft (k, link) ((horders.stale.mem k link).2 hlink) rfl with hsome | hsome | hsome
  · obtain ⟨other, hother⟩ := isSome_iff_exists.1 hsome
    exact .inl ((baselineDiffLinkMap_iff h horders).1 hother).2
  · obtain ⟨other, hother⟩ := isSome_iff_exists.1 hsome
    exact .inr ((h.unchanged_iff horders).1 hother).2.1
  · obtain ⟨other, hother⟩ := isSome_iff_exists.1 hsome
    exact .inr ((h.new_iff horders).1 hother).2.1

/-- **The links that are up are put there** by the three phases for them. -/
theorem Topology.WellKept.raised_up (hacc : rules.Accepting) (hup : Disjoint m.Up)
    (hs : PassInv (passEnv rules m orders) s) : Raised (passEnv rules m orders) m.Up m.Up s
      (orders.rewired.foldl (addRewired (passEnv rules m orders))
        (orders.new.foldl (addNew (passEnv rules m orders))
          (orders.unchanged.foldl (restoreUnchanged (passEnv rules m orders)) s))) := by
  have hmaf : ∀ k, m.Up k → ((passEnv rules m orders).mafLinks k).isSome = true := by
    rintro k ⟨-, x, link, hlink, -, rfl⟩
    rw [h.mafLinks x link hlink]
    exact isSome_iff_exists.2 ⟨link, hlink⟩
  have hunch := hs.raised hacc hup hmaf
    (fun x hx => (h.of_mem_unchanged horders hx).2.1)
    fun s hs x hx => h.placed_unchanged horders hs hx
  have hnew := hunch.inv.raised hacc hup hmaf
    (l := orders.new.filter fun x =>
      ((passEnv rules m orders).diffResult.rewiredLinks x.1).isNone)
    (fun x hx => (h.of_mem_new horders (mem_filter.1 hx).1).2.1)
    fun s hs x hx => h.placed_new horders hs (mem_filter.1 hx).1
      (isNone_iff_eq_none.1 (mem_filter.1 hx).2)
  rw [← foldl_addNew] at hnew
  have hrewired := hnew.inv.raised hacc hup hmaf
    (fun x hx => (h.of_mem_rewired horders hx).2.1)
    fun s hs x hx => h.placed_rewired horders hs hx
  refine ⟨hrewired.inv, fun k hk => ?_, fun k hk hhas => ?_, fun k hk hbetween => ?_⟩
  · rcases hrewired.added k hk with hk | hk
    · rcases hnew.added k hk with hk | hk
      · exact hunch.added k hk
      · exact .inr hk
    · exact .inr hk
  · exact hrewired.kept k hk (hnew.kept k hk (hunch.kept k hk hhas))
  · -- Where a link that is up is walked: by the baseline, and by the ports of the baseline.
    by_cases hbase : m.InBaseline k
    · have hmem := (horders.unchanged.mem k k).2 ((h.unchanged_iff horders).2 ⟨rfl, hk, hbase⟩)
      exact hrewired.kept k hk (hnew.kept k hk (hunch.here k ⟨_, hmem, rfl⟩ hbetween))
    · have hmem := (horders.new.mem k k).2 ((h.new_iff horders).2 ⟨rfl, hk, hbase⟩)
      cases hlink : (passEnv rules m orders).diffResult.rewiredLinks k with
      | none =>
        refine hrewired.kept k hk (hnew.here k ⟨(k, k), mem_filter.2 ⟨hmem, ?_⟩, rfl⟩ hbetween)
        rw [hlink]
        rfl
      | some link =>
        exact hrewired.here k ⟨(k, link), (horders.rewired.mem k link).2 hlink, rfl⟩ hbetween

/-- **What a pass leaves behind**, whatever the baseline is: links of the baseline and links that
are up, all of these between current devices, and something at the ports of the others. -/
structure LinksSettled (m m' : Topology) : Prop where
  known : ∀ k, (∃ link, m'.currentLinkMap k = some link) → m.InBaseline k ∨ m.Up k
  up : ∀ k, m.Up k → Between m.currentDeviceMap k → ∃ link, m'.currentLinkMap k = some link
  filled : ∀ k, m.InBaseline k → Between m.currentDeviceMap k →
    ∃ k', (∃ link, m'.currentLinkMap k' = some link) ∧ k'.Shares k

/-- **One pass settles.** -/
theorem Topology.WellKept.settled (hacc : rules.Accepting) (hup : Disjoint m.Up) :
    LinksSettled m (updateTopologyLink rules m orders) := by
  obtain ⟨hstale, hless, hleft⟩ := (h.passInv horders).removeStale_all orders.stale
  have hraised := h.raised_up horders hacc hup hstale
  obtain ⟨-, hadded, hkept, hfilled⟩ := hraised.inv.readdBaseline_filled hacc
    horders.srcDevices horders.dstDevices fun x hx => (h.of_mem_readd horders hx).2
  refine ⟨fun k hk => ?_, fun k hk hbetween => hkept k (hraised.here k hk hbetween), ?_⟩
  · rcases hadded k hk with hk | ⟨x, hx, rfl⟩
    · rcases hraised.added k hk with hk | hk
      · refine h.inBaseline_or_up horders (hless k hk) ?_
        rintro x hx rfl
        exact hleft hacc x hx hk
      · exact .inr hk
    · exact .inl (h.of_mem_readd horders hx).1
  · rintro k ⟨link, hlink⟩ hbetween
    exact hfilled (k, link) ((horders.readd.mem k link).2 hlink) hbetween

omit h horders

/-- **One pass converges.**  From a state between two passes, where core accepts every link that
it can take, the links of the baseline share no endpoint and those that are up share none, and in
whatever order the maps are walked. -/
theorem converged_updateTopologyLink (rules : CoreRules) (m : Topology) (orders : LinkOrders)
    (h : m.WellKept) (horders : orders.Walks rules m) (haccepts : rules.Accepting)
    (hbaseline : Disjoint m.InBaseline) (hup : Disjoint m.Up) :
    Converged m (updateTopologyLink rules m orders) := by
  have hinv := h.passInv_phases horders
  have hsettled := h.settled horders haccepts hup
  refine ⟨hinv.agrees, fun k k' => hinv.disjoint, hinv.wellFormed.imp fun hapart => hapart.2,
    fun k => ⟨fun hk => ?_, ?_⟩⟩
  · have hbetween := hinv.between hk
    by_cases hupk : m.Up k
    · exact .inl ⟨hupk, hbetween⟩
    · refine .inr ⟨(hsettled.known k hk).resolve_right hupk, hbetween,
        fun u hu hu' hshares => hupk ?_⟩
      rwa [← hinv.disjoint (hsettled.up u hu hu') hk hshares]
  · rintro (⟨hupk, hbetween⟩ | ⟨hbaselinek, hbetween, hfree⟩)
    · exact hsettled.up k hupk hbetween
    · -- what is at its ports can only be the link itself
      obtain ⟨k', hk', hshares⟩ := hsettled.filled k hbaselinek hbetween
      rcases hsettled.known k' hk' with hbaselinek' | hupk'
      · rwa [← hbaseline k' k hbaselinek' hbaselinek hshares]
      · exact absurd hshares (hfree k' hupk' (hinv.between hk'))

end

/-! ### Two devices with three links -/

/-- 10.0.0.1 and 10.0.0.2, by the ids 1 and 2. -/
def twoDevices : List (ℤ × ActDevice) :=
  [(1, ⟨1, ⟨0xffff0a000001⟩⟩), (2, ⟨2, ⟨0xffff0a000002⟩⟩)]

/-- The link between the two devices at the same port of both. -/
def straight (port : ℤ) : DiffLink := ⟨⟨0xffff0a000001⟩, port, ⟨0xffff0a000002⟩, port⟩

/-- The link in core. -/
def straightLink (id port : ℤ) : ActLink := ⟨⟨1, port, 2, port, 1000⟩, id⟩

/-- The link as it is reported. -/
def straightMafLink (port : ℤ) : MafLink :=
  ⟨⟨0xffff0a000001⟩, port, ⟨0xffff0a000002⟩, port, 1000000000, true⟩

/-- The baseline has a link at port 1, one is reported at port 2, and core still has one at
port 3. -/
def threeLinks : Topology where
  core := ⟨twoDevices.map (·.2), [straightLink 50001 3], 0⟩
  mafLinksCache := GoMap.empty.setAll [(straight 2, straightMafLink 2)]
  baselineDeviceMap := GoMap.empty.setAll twoDevices
  baselineLinkMap := GoMap.empty.setAll [(straight 1, straightLink 7 1)]
  currentDeviceMap := GoMap.empty.setAll twoDevices
  currentLinkMap := GoMap.empty.setAll [(straight 3, straightLink 50001 3)]

/-- An order for each of the walks. -/
def threeLinksOrders : LinkOrders where
  baselineLinks := [(straight 1, straightLink 7 1)]
  mafLinks := [(straight 2, straightMafLink 2)]
  currentDevices := twoDevices
  diff := {
    checkBaseline := [(straight 1, straight 1)]
    checkActual := [(straight 2, straight 2)]
    baselineEndpoints := [(straight 1, straight 1)]
    unchanged := [(straight 1, straight 1)]
    new := [(straight 2, straight 2)]
    rewired := [(straight 2, straight 2)] }
  endpoints := [(straight 3, straightLink 50001 3)]
  stale := [(straight 3, straightLink 50001 3)]
  unchanged := []
  new := [(straight 2, straight 2)]
  rewired := []
  readd := [(straight 1, straightLink 7 1)]
  srcDevices := fun _ => twoDevices
  dstDevices := fun _ => twoDevices

theorem knownDevices_twoDevices (links : List ActLink) (calls : ℕ) :
    KnownDevices (empty.setAll twoDevices) ⟨twoDevices.map (·.2), links, calls⟩ where
  keyed := fun _ _ h => forall_setAll (P := fun id device => device.id = id) (by decide) h
  ip_inj := fun id id' device device' h h' => by
    have hmem := (ranges_setAll (l := twoDevices) (by decide)).mem
    have hinj : ∀ x ∈ twoDevices, ∀ y ∈ twoDevices, x.2.ipAddress = y.2.ipAddress → x.1 = y.1 := by
      decide
    exact hinj _ ((hmem id device).2 h) _ ((hmem id' device').2 h')
  inCore := fun id device h => forall_setAll
    (P := fun id _ => ∃ device ∈ twoDevices.map (·.2), device.id = id) (by decide) h

theorem wellKept_threeLinks : threeLinks.WellKept where
  wellFormed := pairwise_singleton _ _
  devices := knownDevices_twoDevices _ _
  baseline := fun k link h => forall_setAll
    (P := fun k link => getActLinkStr link.toLinkConf (empty.setAll twoDevices) = some k)
    (by decide) h
  mafLinks := fun k link h => forall_setAll
    (P := fun k link => getMafLinkIdentifier link = k) (by decide) h
  agrees := {
    stored := fun k link h => forall_setAll
      (P := fun k link => getActLinkStr link.toLinkConf (empty.setAll twoDevices) = some k ∧
        link ∈ threeLinks.core.links) (by decide) h
    cached := fun link h => by
      obtain rfl := mem_singleton.1 h
      exact ⟨straight 3, rfl⟩ }

theorem walks_threeLinksOrders : threeLinksOrders.Walks CoreRules.accepting threeLinks where
  baselineLinks := ranges_setAll (by decide)
  mafLinks := ranges_setAll (by decide)
  currentDevices := ranges_setAll (by decide)
  diff := by constructor <;> exact ranges_of_eq rfl (by decide)
  endpoints := ranges_setAll (by decide)
  stale := ranges_setAll (by decide)
  unchanged := ranges_of_eq rfl (by decide)
  new := ranges_of_eq rfl (by decide)
  rewired := ranges_of_eq rfl (by decide)
  readd := ranges_setAll (by decide)
  srcDevices := fun _ => ranges_setAll (by decide)
  dstDevices := fun _ => ranges_setAll (by decide)

theorem inBaseline_threeLinks {k : DiffLink} (h : threeLinks.InBaseline k) : k = straight 1 := by
  obtain ⟨link, hlink⟩ := h
  exact forall_setAll (P := fun k _ => k = straight 1) (by decide) hlink

theorem up_threeLinks {k : DiffLink} (h : threeLinks.Up k) : k = straight 2 := by
  obtain ⟨-, x, link, hlink, -, rfl⟩ := h
  exact forall_setAll (P := fun _ link => getMafLinkIdentifier link = straight 2) (by decide)
    hlink

/-- The pass deletes the link at port 3 and creates those at the ports 1 and 2. -/
theorem converged_threeLinks :
    Converged threeLinks (updateTopologyLink CoreRules.accepting threeLinks threeLinksOrders) ∧
      (updateTopologyLink CoreRules.accepting threeLinks threeLinksOrders).core.links =
        [straightLink 50001 2, ⟨⟨1, 1, 2, 1, 1000⟩, 50002⟩] :=
  ⟨converged_updateTopologyLink CoreRules.accepting threeLinks threeLinksOrders
    wellKept_threeLinks walks_threeLinksOrders CoreRules.accepting_accepting
    (fun _ _ h h' _ => (inBaseline_threeLinks h).trans (inBaseline_threeLinks h').symm)
    (fun _ _ h h' _ => (up_threeLinks h).trans (up_threeLinks h').symm), by decide⟩

end Monitor
end Sebastian
