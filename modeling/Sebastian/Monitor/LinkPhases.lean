/-
# What the phases of a pass over the links keep

Every phase of `updateTopologyLink` keeps `PassInv`, whatever is reported and in
whatever order it goes through its links: a link that is removed leaves core and
the three maps (`PassInv.removeLink`), one that core creates enters them
(`PassInv.putLink`).  The three phases that create the links that are up do the
same with one of them (`Placed`).
-/

import Sebastian.Monitor.TopologyLink

namespace Sebastian
namespace Monitor

open List Option

/-! ### The names of links -/

section
variable {D : GoMap ℤ ActDevice} {core : CoreProject} {link link' : LinkConf} {k k' : DiffLink}
  {deviceId interfaceId : ℤ} {device : ActDevice}

/-- **The text of a link** is made of the addresses of its devices and its ports. -/
theorem getActLinkStr_eq_some : getActLinkStr link D = some k ↔
    ∃ srcDev dstDev, (D link.sourceDeviceId = some srcDev ∧
      D link.destinationDeviceId = some dstDev) ∧
      (0 < link.sourceInterfaceId ∧ 0 < link.destinationInterfaceId) ∧
      k = newDiffLink srcDev.ipAddress link.sourceInterfaceId dstDev.ipAddress
        link.destinationInterfaceId := by
  unfold getActLinkStr getActLinkEndpointsStr newDiffLink
  cases hsrc : D link.sourceDeviceId with
  | none => simp
  | some srcDev =>
    cases hdst : D link.destinationDeviceId with
    | none => simp
    | some dstDev =>
      dsimp only
      split_ifs with h₁ h₂ h₃
      · refine iff_of_false nofun ?_
        rintro ⟨_, _, -, ⟨h, -⟩, -⟩
        omega
      · refine iff_of_false nofun ?_
        rintro ⟨_, _, -, ⟨-, h⟩, -⟩
        omega
      · constructor
        · intro h
          refine ⟨srcDev, dstDev, ⟨rfl, rfl⟩, by omega, ?_⟩
          rw [if_pos h₃]
          exact (some.inj h).symm
        · rintro ⟨src, dst, ⟨⟨⟩, ⟨⟩⟩, -, rfl⟩
          rw [if_pos h₃]
          rfl
      · constructor
        · intro h
          refine ⟨srcDev, dstDev, ⟨rfl, rfl⟩, by omega, ?_⟩
          rw [if_neg h₃]
          exact (some.inj h).symm
        · rintro ⟨src, dst, ⟨⟨⟩, ⟨⟩⟩, -, rfl⟩
          rw [if_neg h₃]
          rfl

/-- The ends of a link that has a text are those of the text. -/
theorem getActLinkEndpointsStr_of_str (h : getActLinkStr link D = some k) :
    getActLinkEndpointsStr link D = some (k.fromEndpoint, k.toEndpoint) := by
  unfold getActLinkStr at h
  cases hends : getActLinkEndpointsStr link D with
  | none =>
    rw [hends] at h
    cases h
  | some endpoints =>
    rw [hends] at h
    obtain rfl := some.inj h
    rfl

theorem canonical_of_str (h : getActLinkStr link D = some k) : k.Canonical := by
  obtain ⟨_, _, -, -, rfl⟩ := getActLinkStr_eq_some.1 h
  exact DiffLink.canonical_newDiffLink _ _ _ _

/-- What is known of the current devices: each is under its id and in core, and no two have one
address. -/
structure KnownDevices (D : GoMap ℤ ActDevice) (core : CoreProject) : Prop where
  keyed : ∀ id device, D id = some device → device.id = id
  ip_inj : ∀ id id' device device', D id = some device → D id' = some device' →
    device.ipAddress = device'.ipAddress → id = id'
  inCore : ∀ id device, D id = some device → ∃ device ∈ core.devices, device.id = id

/-- **An end of a link**, in its text and by the id of the device. -/
theorem KnownDevices.uses_iff (hD : KnownDevices D core) (h : getActLinkStr link D = some k)
    (hdev : D deviceId = some device) :
    k.Uses ⟨device.ipAddress, interfaceId⟩ ↔ link.EndsAt deviceId interfaceId := by
  obtain ⟨srcDev, dstDev, ⟨hsrc, hdst⟩, -, rfl⟩ := getActLinkStr_eq_some.1 h
  rw [DiffLink.uses_newDiffLink]
  have hend : ∀ id dev port, D id = some dev →
      ((⟨device.ipAddress, interfaceId⟩ : Endpoint) = ⟨dev.ipAddress, port⟩ ↔
        id = deviceId ∧ port = interfaceId) := by
    intro id dev port hid
    rw [Endpoint.mk.injEq]
    constructor
    · rintro ⟨hip, rfl⟩
      exact ⟨hD.ip_inj id deviceId dev device hid hdev hip.symm, rfl⟩
    · rintro ⟨rfl, rfl⟩
      obtain rfl := some.inj (hid.symm.trans hdev)
      exact ⟨rfl, rfl⟩
  rw [hend _ _ _ hsrc, hend _ _ _ hdst]
  exact Iff.rfl

/-- **Two links share an endpoint** by their texts exactly when they do by their ports. -/
theorem KnownDevices.shares_iff (hD : KnownDevices D core) (h : getActLinkStr link D = some k)
    (h' : getActLinkStr link' D = some k') : k.Shares k' ↔ link.SharesPort link' := by
  obtain ⟨srcDev, dstDev, ⟨hsrc, hdst⟩, -, rfl⟩ := getActLinkStr_eq_some.1 h'
  unfold DiffLink.Shares LinkConf.SharesPort
  rw [← hD.uses_iff h hsrc, ← hD.uses_iff h hdst]
  constructor
  · rintro ⟨endpoint, huses, huses'⟩
    rcases DiffLink.uses_newDiffLink.1 huses' with rfl | rfl
    · exact .inl huses
    · exact .inr huses
  · rintro (huses | huses)
    · exact ⟨_, huses, DiffLink.uses_newDiffLink.2 (.inl rfl)⟩
    · exact ⟨_, huses, DiffLink.uses_newDiffLink.2 (.inr rfl)⟩

end

/-! ### The invariant of a pass -/

/-- **The cache and core agree**: every entry is a link of core under its text, between two of the
devices, and every link of core is cached. -/
structure Agrees (D : GoMap ℤ ActDevice) (core : CoreProject) (cache : GoMap DiffLink ActLink) :
    Prop where
  stored : ∀ k link, cache k = some link →
    getActLinkStr link.toLinkConf D = some k ∧ link ∈ core.links
  cached : ∀ link ∈ core.links, ∃ k, cache k = some link

/-- The link is in the cache. -/
def LinkPass.Has (s : LinkPass) (k : DiffLink) : Prop := ∃ link, s.cache k = some link

/-- **What holds between two edits of a pass.** -/
structure PassInv (env : PassEnv) (s : LinkPass) : Prop where
  wellFormed : s.core.WellFormed
  devices : KnownDevices env.currentDeviceMap s.core
  agrees : Agrees env.currentDeviceMap s.core s.cache
  copy : s.currentLinkMap = s.cache
  endpoints : ∀ endpoint link, s.currentLinkEndpointMap endpoint = some link ↔
    ∃ k, s.cache k = some link ∧ k.Uses endpoint

/-- The pass without a link of the cache. -/
def LinkPass.without (s : LinkPass) (k : DiffLink) (link : ActLink) : LinkPass where
  core := { s.core with
    links := s.core.links.filter (·.id ≠ link.id)
    calls := s.core.calls + 1 }
  cache := s.cache.delete k
  currentLinkMap := s.currentLinkMap.delete k
  currentLinkEndpointMap :=
    (s.currentLinkEndpointMap.delete k.fromEndpoint).delete k.toEndpoint

theorem CoreProject.WellFormed.eq_of_id {core : CoreProject} (h : core.WellFormed)
    {link link' : ActLink} (hlink : link ∈ core.links) (hlink' : link' ∈ core.links)
    (hid : link.id = link'.id) : link = link' := by
  by_contra hne
  exact (List.Pairwise.forall_of_forall_of_flip (R := fun link link' : ActLink => link ≠ link' →
    link.id ≠ link'.id) (fun _ _ hself => absurd rfl hself)
    (h.imp fun hapart _ => hapart.1) (h.imp fun hapart _ => hapart.1.symm) hlink hlink') hne hid

namespace PassInv

variable {env : PassEnv} {s s' : LinkPass} {k k' u : DiffLink} {link : ActLink}

/-- **No two links of the cache share an endpoint.** -/
theorem disjoint (h : PassInv env s) (hk : s.Has k) (hk' : s.Has k') (hshares : k.Shares k') :
    k = k' := by
  obtain ⟨link, hlink⟩ := hk
  obtain ⟨link', hlink'⟩ := hk'
  obtain ⟨endpoint, huses, huses'⟩ := hshares
  have hend := (h.endpoints endpoint link).2 ⟨k, hlink, huses⟩
  rw [(h.endpoints endpoint link').2 ⟨k', hlink', huses'⟩] at hend
  obtain rfl := some.inj hend
  have hstr := (h.agrees.stored k link' hlink).1
  rw [(h.agrees.stored k' link' hlink').1] at hstr
  exact (some.inj hstr).symm

theorem endpoint_eq_none (h : PassInv env s) (endpoint : Endpoint) :
    s.currentLinkEndpointMap endpoint = none ↔ ∀ k, s.Has k → ¬k.Uses endpoint := by
  constructor
  · rintro hnone k ⟨link, hlink⟩ huses
    rw [(h.endpoints endpoint link).2 ⟨k, hlink, huses⟩] at hnone
    cases hnone
  · intro hk
    cases hlink : s.currentLinkEndpointMap endpoint with
    | none => rfl
    | some link =>
      obtain ⟨k, hcache, huses⟩ := (h.endpoints endpoint link).1 hlink
      exact absurd huses (hk k ⟨link, hcache⟩)

theorem id_ne (h : PassInv env s) (hlink : s.cache k = some link) {link' : ActLink}
    (hlink' : s.cache k' = some link') (hne : k' ≠ k) : link'.id ≠ link.id := by
  intro hid
  obtain ⟨hstr, hmem⟩ := h.agrees.stored k link hlink
  obtain ⟨hstr', hmem'⟩ := h.agrees.stored k' link' hlink'
  obtain rfl := h.wellFormed.eq_of_id hmem' hmem hid
  exact hne (some.inj (hstr'.symm.trans hstr))

/-- **A cached link can be removed**, if core deletes it, and nothing else changes. -/
theorem removeLink (h : PassInv env s) (hlink : s.cache k = some link) : s.removeLink env link =
        (if env.rules.deletesLink s.core link.id = true then some (s.without k link) else none) ∧
      PassInv env (s.without k link) ∧
      ∀ k' link', (s.without k link).cache k' = some link' ↔ k' ≠ k ∧ s.cache k' = some link' := by
  obtain ⟨hstr, hmem⟩ := h.agrees.stored k link hlink
  have hcache : ∀ k' link', (s.without k link).cache k' = some link' ↔
      k' ≠ k ∧ s.cache k' = some link' := by
    intro k' link'
    show (if k' = k then none else s.cache k') = some link' ↔ _
    split_ifs with heq
    · exact iff_of_false nofun fun hne => hne.1 heq
    · exact (and_iff_right heq).symm
  have hlinks : ∀ link', link' ∈ (s.without k link).core.links ↔
      link' ∈ s.core.links ∧ link'.id ≠ link.id := by
    intro link'
    show link' ∈ s.core.links.filter (·.id ≠ link.id) ↔ _
    simp
  refine ⟨?_, ⟨?_, ⟨h.devices.keyed, h.devices.ip_inj, h.devices.inCore⟩, ⟨?_, ?_⟩, ?_, ?_⟩,
    hcache⟩
  · unfold LinkPass.removeLink CoreProject.deleteLink
    rw [hstr, getActLinkEndpointsStr_of_str hstr]
    by_cases hdeletes : env.rules.deletesLink s.core link.id = true
    · rw [if_pos ⟨⟨link, hmem, rfl⟩, hdeletes⟩, if_pos hdeletes]
      rfl
    · rw [if_neg fun hboth => hdeletes hboth.2, if_neg hdeletes]
      rfl
  · exact h.wellFormed.sublist filter_sublist
  · intro k' link' hlink'
    obtain ⟨hne, hlink'⟩ := (hcache k' link').1 hlink'
    obtain ⟨hstr', hmem'⟩ := h.agrees.stored k' link' hlink'
    exact ⟨hstr', (hlinks link').2 ⟨hmem', h.id_ne hlink hlink' hne⟩⟩
  · intro link' hmem'
    obtain ⟨hmem', hid⟩ := (hlinks link').1 hmem'
    obtain ⟨k', hlink'⟩ := h.agrees.cached link' hmem'
    refine ⟨k', (hcache k' link').2 ⟨?_, hlink'⟩⟩
    rintro rfl
    obtain rfl := some.inj (hlink'.symm.trans hlink)
    exact hid rfl
  · show s.currentLinkMap.delete k = s.cache.delete k
    rw [h.copy]
  · intro endpoint link'
    show (if endpoint = k.toEndpoint then none
      else if endpoint = k.fromEndpoint then none
      else s.currentLinkEndpointMap endpoint) = some link' ↔ _
    simp only [hcache]
    split_ifs with hto hfrom
    · refine iff_of_false nofun ?_
      rintro ⟨k', ⟨hne, hlink'⟩, huses⟩
      exact hne (h.disjoint ⟨_, hlink'⟩ ⟨_, hlink⟩ ⟨endpoint, huses, .inr hto⟩)
    · refine iff_of_false nofun ?_
      rintro ⟨k', ⟨hne, hlink'⟩, huses⟩
      exact hne (h.disjoint ⟨_, hlink'⟩ ⟨_, hlink⟩ ⟨endpoint, huses, .inl hfrom⟩)
    · rw [h.endpoints]
      refine exists_congr fun k' => ⟨fun ⟨hlink', huses⟩ => ⟨⟨?_, hlink'⟩, huses⟩,
        fun ⟨⟨_, hlink'⟩, huses⟩ => ⟨hlink', huses⟩⟩
      rintro rfl
      rcases huses with huses | huses
      · exact hfrom huses
      · exact hto huses

/-- **A link that core creates** between two of the devices enters the cache under its text. -/
theorem putLink (h : PassInv env s) {conf : LinkConf} {created : ActLink × CoreProject}
    (hstr : getActLinkStr conf env.currentDeviceMap = some u)
    (hcre : s.core.createLink env.rules conf = some created) :
    PassInv env (s.putLink u u.fromEndpoint u.toEndpoint created) ∧
      ∀ k', (s.putLink u u.fromEndpoint u.toEndpoint created).Has k' ↔ s.Has k' ∨ k' = u := by
  unfold CoreProject.createLink at hcre
  split_ifs at hcre with hadmits
  obtain ⟨⟨-, -, hfree⟩, -⟩ := hadmits
  cases hcre
  let link : ActLink := { conf with id := env.rules.newLinkId s.core }
  have hnew : getActLinkStr link.toLinkConf env.currentDeviceMap = some u := hstr
  have hapart : ∀ k' link', s.cache k' = some link' → ¬k'.Shares u := by
    intro k' link' hlink' hshares
    obtain ⟨hstr', hmem'⟩ := h.agrees.stored k' link' hlink'
    exact hfree link' hmem' ((h.devices.shares_iff hstr' hstr).1 hshares)
  have hcache : ∀ k' link', (s.putLink u u.fromEndpoint u.toEndpoint
      (link, { s.core with
        links := s.core.links ++ [link]
        calls := s.core.calls + 1 })).cache k' = some link' ↔
      (k' = u ∧ link' = link) ∨ s.cache k' = some link' := by
    intro k' link'
    show (if k' = u then some link else s.cache k') = some link' ↔ _
    split_ifs with heq
    · rw [some.injEq]
      constructor
      · rintro rfl
        exact .inl ⟨heq, rfl⟩
      · rintro (⟨-, rfl⟩ | hlink')
        · rfl
        · exact absurd (heq ▸ u.shares_self) (hapart k' link' hlink')
    · exact (or_iff_right fun hne => heq hne.1).symm
  refine ⟨⟨?_, ⟨h.devices.keyed, h.devices.ip_inj, h.devices.inCore⟩, ⟨?_, ?_⟩, ?_, ?_⟩, ?_⟩
  · show (s.core.links ++ [link]).Pairwise _
    rw [pairwise_append]
    refine ⟨h.wellFormed, pairwise_singleton _ _, fun link' hmem' _ hlast => ?_⟩
    rw [mem_singleton.1 hlast]
    exact ⟨env.rules.newLinkId_fresh _ link' hmem', hfree link' hmem'⟩
  · intro k' link' hlink'
    rcases (hcache k' link').1 hlink' with ⟨rfl, rfl⟩ | hlink'
    · exact ⟨hnew, mem_append_right _ mem_cons_self⟩
    · obtain ⟨hstr', hmem'⟩ := h.agrees.stored k' link' hlink'
      exact ⟨hstr', mem_append_left _ hmem'⟩
  · intro link' hmem'
    rcases mem_append.1 hmem' with hmem' | hlast
    · obtain ⟨k', hlink'⟩ := h.agrees.cached link' hmem'
      exact ⟨k', (hcache k' link').2 (.inr hlink')⟩
    · exact ⟨u, (hcache u link').2 (.inl ⟨rfl, mem_singleton.1 hlast⟩)⟩
  · show s.currentLinkMap.set u link = s.cache.set u link
    rw [h.copy]
  · intro endpoint link'
    show (if endpoint = u.toEndpoint then some link
      else if endpoint = u.fromEndpoint then some link
      else s.currentLinkEndpointMap endpoint) = some link' ↔ _
    refine Iff.trans ?_
      (exists_congr fun k' => and_congr_left fun _ => hcache k' link').symm
    have hhere : u.Uses endpoint → (some link = some link' ↔
        ∃ k', ((k' = u ∧ link' = link) ∨ s.cache k' = some link') ∧ k'.Uses endpoint) := by
      intro huses
      rw [some.injEq]
      constructor
      · rintro rfl
        exact ⟨u, .inl ⟨rfl, rfl⟩, huses⟩
      · rintro ⟨k', ⟨-, rfl⟩ | hlink', huses'⟩
        · rfl
        · exact absurd ⟨endpoint, huses', huses⟩ (hapart k' link' hlink')
    split_ifs with hto hfrom
    · exact hhere (.inr hto)
    · exact hhere (.inl hfrom)
    · rw [h.endpoints]
      refine exists_congr fun k' => ⟨fun ⟨hlink', huses⟩ => ⟨.inr hlink', huses⟩, ?_⟩
      rintro ⟨⟨rfl, -⟩ | hlink', huses⟩
      · rcases huses with huses | huses
        · exact absurd huses hfrom
        · exact absurd huses hto
      · exact ⟨hlink', huses⟩
  · intro k'
    unfold LinkPass.Has
    constructor
    · rintro ⟨link', hlink'⟩
      rcases (hcache k' link').1 hlink' with ⟨rfl, -⟩ | hlink'
      · exact .inr rfl
      · exact .inl ⟨link', hlink'⟩
    · rintro (⟨link', hlink'⟩ | rfl)
      · exact ⟨link', (hcache k' link').2 (.inr hlink')⟩
      · exact ⟨link, (hcache k' link).2 (.inl ⟨rfl, rfl⟩)⟩

end PassInv

/-! ### The phases that create the links that are up -/

/-- Both devices of the link are among the devices. -/
def Between (D : GoMap ℤ ActDevice) (k : DiffLink) : Prop :=
  (∃ id device, D id = some device ∧ device.ipAddress = k.ip1) ∧
    ∃ id device, D id = some device ∧ device.ipAddress = k.ip2

/-- The devices are found by their addresses. -/
def IpIndexed (env : PassEnv) : Prop :=
  ∀ ip device, env.currentDeviceIpMap ip = some device ↔
    ∃ id, env.currentDeviceMap id = some device ∧ device.ipAddress = ip

/-- **What is done for a link**: it may enter, links at its ports may leave, and it is there in
the end if both its devices are. -/
structure Placed (env : PassEnv) (u : DiffLink) (s s' : LinkPass) : Prop where
  inv : PassInv env s'
  added : ∀ k, s'.Has k → s.Has k ∨ k = u
  kept : ∀ k, s.Has k → ¬k.Shares u → s'.Has k
  here : env.rules.Accepting → Between env.currentDeviceMap u →
    (env.mafLinks u).isSome = true → s'.Has u

section
variable {env : PassEnv} {s s' : LinkPass} {k u : DiffLink} {endpoint : Endpoint}
  {body : LinkPass → LinkPass}

theorem PassInv.placed (h : PassInv env s) (hu : s.Has u) : Placed env u s s :=
  ⟨h, fun _ hk => .inl hk, fun _ hk _ => hk, fun _ _ _ => hu⟩

/-- **A link may enter** and none leaves; it is there in the end if it has been free to enter. -/
structure Entered (env : PassEnv) (u : DiffLink) (free : Prop) (s s' : LinkPass) : Prop where
  inv : PassInv env s'
  added : ∀ k, s'.Has k → s.Has k ∨ k = u
  kept : ∀ k, s.Has k → s'.Has k
  here : env.rules.Accepting → free → s'.Has u

theorem PassInv.entered (h : PassInv env s) {free : Prop} (hfree : free → s.Has u) :
    Entered env u free s s :=
  ⟨h, fun _ hk => .inl hk, fun _ hk => hk, fun _ hf => hfree hf⟩

/-- **A call of `CreateLink` between two of the devices**, and what is done with its result. -/
theorem PassInv.entered_create (h : PassInv env s) (conf : LinkConf)
    (hstr : getActLinkStr conf env.currentDeviceMap = some u) :
    Entered env u (∀ k, s.Has k → ¬k.Shares u) s
      (match s.core.createLink env.rules conf with
        | none => s
        | some created => s.putLink u u.fromEndpoint u.toEndpoint created) := by
  cases hcre : s.core.createLink env.rules conf with
  | none =>
    refine ⟨h, fun _ hk => .inl hk, fun _ hk => hk, fun hacc hfree => ?_⟩
    obtain ⟨srcDev, dstDev, ⟨hsrc, hdst⟩, -, -⟩ := getActLinkStr_eq_some.1 hstr
    have hadmits : s.core.Admits conf := by
      refine ⟨h.devices.inCore _ _ hsrc, h.devices.inCore _ _ hdst, fun link hmem hshares => ?_⟩
      obtain ⟨k, hlink⟩ := h.agrees.cached link hmem
      rw [← h.devices.shares_iff (h.agrees.stored k link hlink).1 hstr] at hshares
      exact hfree k ⟨link, hlink⟩ hshares
    unfold CoreProject.createLink at hcre
    rw [if_pos ⟨hadmits, hacc.1 _ _⟩] at hcre
    cases hcre
  | some created =>
    obtain ⟨hinv, hhas⟩ := h.putLink hstr hcre
    exact ⟨hinv, fun k hk => (hhas k).1 hk, fun k hk => (hhas k).2 (.inl hk),
      fun _ _ => (hhas u).2 (.inr rfl)⟩

/-- **A link whose ports are free** is created. -/
theorem PassInv.placed_createLink (h : PassInv env s) (hip : IpIndexed env)
    (hvalid : u.isValid = true) (hcanonical : u.Canonical)
    (hfrom : s.currentLinkEndpointMap u.fromEndpoint = none)
    (hto : s.currentLinkEndpointMap u.toEndpoint = none) : Placed env u s (s.createLink env u) := by
  have hports := (DiffLink.isValid_iff.1 hvalid).2.1
  have hsame : (Between env.currentDeviceMap u → (env.mafLinks u).isSome = true → False) →
      Placed env u s s := fun hnot =>
    ⟨h, fun _ hk => .inl hk, fun _ hk _ => hk, fun _ hbetween hmaf => (hnot hbetween hmaf).elim⟩
  unfold LinkPass.createLink
  cases hsrc : env.currentDeviceIpMap u.ip1 with
  | none =>
    refine hsame fun hbetween _ => ?_
    obtain ⟨id, device, hid, hdev⟩ := hbetween.1
    rw [(hip u.ip1 device).2 ⟨id, hid, hdev⟩] at hsrc
    cases hsrc
  | some srcActDevice =>
    cases hdst : env.currentDeviceIpMap u.ip2 with
    | none =>
      refine hsame fun hbetween _ => ?_
      obtain ⟨id, device, hid, hdev⟩ := hbetween.2
      rw [(hip u.ip2 device).2 ⟨id, hid, hdev⟩] at hdst
      cases hdst
    | some dstActDevice =>
      cases hmaf : env.mafLinks u with
      | none => exact hsame fun _ hsome => by rw [hmaf] at hsome; cases hsome
      | some mafLink =>
        obtain ⟨srcId, hsrcId, hsrcIp⟩ := (hip _ _).1 hsrc
        obtain ⟨dstId, hdstId, hdstIp⟩ := (hip _ _).1 hdst
        obtain rfl := h.devices.keyed srcId srcActDevice hsrcId
        obtain rfl := h.devices.keyed dstId dstActDevice hdstId
        dsimp only
        let conf : LinkConf := {
          sourceDeviceId := srcActDevice.id
          sourceInterfaceId := u.port1
          destinationDeviceId := dstActDevice.id
          destinationInterfaceId := u.port2
          speed := mafLink.speed / 1000000 }
        have hstr : getActLinkStr conf env.currentDeviceMap = some u := by
          refine getActLinkStr_eq_some.2 ⟨_, _, ⟨hsrcId, hdstId⟩, hports, ?_⟩
          rw [hsrcIp, hdstIp]
          exact (DiffLink.newDiffLink_of_canonical hcanonical).symm
        have hent := h.entered_create conf hstr
        refine ⟨hent.inv, hent.added, fun k hk _ => hent.kept k hk,
          fun hacc _ _ => hent.here hacc ?_⟩
        rintro k hk ⟨endpoint, huses, rfl | rfl⟩
        · exact (h.endpoint_eq_none _).1 hfrom k hk huses
        · exact (h.endpoint_eq_none _).1 hto k hk huses

/-- The links that do not use the endpoint are left. -/
def ClearedAt (endpoint : Endpoint) (s s' : LinkPass) : Prop :=
  ∀ k link, s'.cache k = some link ↔ s.cache k = some link ∧ ¬k.Uses endpoint

theorem ClearedAt.eq_none (hclear : ClearedAt endpoint s s') (h' : PassInv env s') :
    s'.currentLinkEndpointMap endpoint = none :=
  (h'.endpoint_eq_none endpoint).2 fun k ⟨link, hlink⟩ => ((hclear k link).1 hlink).2

variable (h : PassInv env s)
include h

/-- **The link at a port is removed first.**  What is done for the link then begins with the port
free. -/
theorem PassInv.placed_vacate (huses : u.Uses endpoint)
    (hbody : ∀ s', PassInv env s' → ClearedAt endpoint s s' → Placed env u s' (body s')) :
    Placed env u s (s.vacate env (s.currentLinkEndpointMap endpoint) body) := by
  unfold LinkPass.vacate
  cases hoccupant : s.currentLinkEndpointMap endpoint with
  | none =>
    refine hbody s h fun k link => (and_iff_left_of_imp fun hlink => ?_).symm
    exact (h.endpoint_eq_none endpoint).1 hoccupant k ⟨link, hlink⟩
  | some link =>
    obtain ⟨k, hlink, hk⟩ := (h.endpoints endpoint link).1 hoccupant
    obtain ⟨hrem, hinv, hcache⟩ := h.removeLink hlink
    dsimp only
    rw [hrem]
    cases hdeletes : env.rules.deletesLink s.core link.id with
    | false =>
      exact ⟨h, fun _ hk => .inl hk, fun _ hk _ => hk,
        fun hacc => nomatch hdeletes.symm.trans (hacc.2 _ _)⟩
    | true =>
      rw [if_pos rfl]
      have hclear : ClearedAt endpoint s (s.without k link) := by
        intro k' link'
        rw [hcache]
        constructor
        · rintro ⟨hne, hlink'⟩
          exact ⟨hlink', fun hk' => hne (h.disjoint ⟨_, hlink'⟩ ⟨_, hlink⟩ ⟨endpoint, hk', hk⟩)⟩
        · rintro ⟨hlink', hk'⟩
          exact ⟨fun heq => hk' (heq ▸ hk), hlink'⟩
      have hplaced := hbody _ hinv hclear
      refine ⟨hplaced.inv, fun k' hk' => ?_, fun k' hk' hapart => ?_, hplaced.here⟩
      · rcases hplaced.added k' hk' with ⟨link', hlink'⟩ | rfl
        · exact .inl ⟨link', ((hcache k' link').1 hlink').2⟩
        · exact .inr rfl
      · obtain ⟨link', hlink'⟩ := hk'
        refine hplaced.kept k' ⟨link', (hclear k' link').2 ⟨hlink', fun hk' => ?_⟩⟩ hapart
        exact hapart ⟨endpoint, hk', huses⟩

/-- What is at another endpoint stays, if no link uses both. -/
theorem ClearedAt.eq_of_not_uses {other : Endpoint}  (h' : PassInv env s')
    (hclear : ClearedAt endpoint s s') (hnot : ∀ k, s.Has k → k.Uses endpoint → ¬k.Uses other) :
    s'.currentLinkEndpointMap other = s.currentLinkEndpointMap other := by
  refine ext fun link => ?_
  rw [h'.endpoints, h.endpoints]
  refine exists_congr fun k => ⟨fun ⟨hlink, huses⟩ => ⟨((hclear k link).1 hlink).1, huses⟩,
    fun ⟨hlink, huses⟩ => ⟨(hclear k link).2 ⟨hlink, fun hend => ?_⟩, huses⟩⟩
  exact hnot k ⟨link, hlink⟩ hend huses

theorem PassInv.has_of_isSome (hk : (s.currentLinkMap k).isSome = true) : s.Has k := by
  rw [h.copy] at hk
  exact isSome_iff_exists.1 hk

/-- **Both ports of a link are freed and it is created.** -/
theorem PassInv.placed_both (hip : IpIndexed env) (hvalid : u.isValid = true)
    (hcanonical : u.Canonical) (hu : ¬s.Has u) {last : LinkPass → LinkPass}
    (hlast : ∀ s', PassInv env s' → Placed env u s' (s'.createLink env u) →
      Placed env u s' (last s')) :
    Placed env u s (s.vacate env (s.currentLinkEndpointMap u.fromEndpoint) fun s' =>
      s'.vacate env (s.currentLinkEndpointMap u.toEndpoint) last) := by
  have hnot : ∀ k, s.Has k → k.Uses u.fromEndpoint → ¬k.Uses u.toEndpoint := by
    rintro k ⟨link, hlink⟩ hfrom hto
    have hk := canonical_of_str (h.agrees.stored k link hlink).1
    exact hu (DiffLink.eq_of_uses hvalid hcanonical hk hfrom hto ▸ ⟨link, hlink⟩)
  refine h.placed_vacate u.uses_fromEndpoint fun s₁ h₁ hclear₁ => ?_
  rw [← hclear₁.eq_of_not_uses h h₁ hnot]
  refine h₁.placed_vacate u.uses_toEndpoint fun s₂ h₂ hclear₂ => ?_
  refine hlast s₂ h₂ (h₂.placed_createLink hip hvalid hcanonical ?_ (hclear₂.eq_none h₂))
  refine (h₂.endpoint_eq_none _).2 fun k ⟨link, hlink⟩ => ?_
  exact ((hclear₁ k link).1 ((hclear₂ k link).1 hlink).1).2

theorem PassInv.has_of_sameLink (hvalid : u.isValid = true) (hcanonical : u.Canonical)
    (hsame : LinkPass.sameLink (s.currentLinkEndpointMap u.fromEndpoint)
      (s.currentLinkEndpointMap u.toEndpoint) = true) : s.Has u := by
  unfold LinkPass.sameLink at hsame
  split at hsame
  · rename_i l1 l2 hl1 hl2
    obtain ⟨k, hlink, hfrom⟩ := (h.endpoints _ _).1 hl1
    obtain ⟨k', hlink', hto⟩ := (h.endpoints _ _).1 hl2
    obtain ⟨hstr, hmem⟩ := h.agrees.stored k l1 hlink
    obtain ⟨hstr', hmem'⟩ := h.agrees.stored k' l2 hlink'
    obtain rfl := h.wellFormed.eq_of_id hmem hmem' (beq_iff_eq.1 hsame)
    obtain rfl := some.inj (hstr.symm.trans hstr')
    obtain rfl := DiffLink.eq_of_uses hvalid hcanonical (canonical_of_str hstr) hfrom hto
    exact ⟨l1, hlink⟩
  · cases hsame

/-- **An unchanged link.** -/
theorem PassInv.placed_restoreUnchanged (hip : IpIndexed env)
    (hvalid : u.isValid = true) (hcanonical : u.Canonical) :
    Placed env u s (s.restoreUnchanged env (u, u)) := by
  unfold LinkPass.restoreUnchanged
  dsimp only
  split
  · rename_i hsome
    exact h.placed (h.has_of_isSome hsome)
  · rename_i hsome
    split
    · rename_i hsame
      exact h.placed (h.has_of_sameLink hvalid hcanonical hsame)
    · refine h.placed_both hip hvalid hcanonical (fun hu => hsome ?_) fun s' h' hplaced => ?_
      · rw [h.copy]
        exact isSome_iff_exists.2 hu
      · split
        · exact hplaced
        · rename_i hmaf
          exact ⟨h', fun _ hk => .inl hk, fun _ hk _ => hk, fun _ _ hmaf' => absurd hmaf' hmaf⟩

/-- **A new link that is not rewired.** -/
theorem PassInv.placed_addNew (hip : IpIndexed env)
    (hvalid : u.isValid = true) (hcanonical : u.Canonical)
    (hrewired : env.diffResult.rewiredLinks u = none) : Placed env u s (s.addNew env (u, u)) := by
  unfold LinkPass.addNew
  rw [hrewired, if_neg nofun]
  split_ifs with hsome
  · exact h.placed (h.has_of_isSome hsome)
  · refine h.placed_vacate u.uses_fromEndpoint fun s₁ h₁ hclear₁ => ?_
    refine h₁.placed_vacate u.uses_toEndpoint fun s₂ h₂ hclear₂ => ?_
    refine h₂.placed_createLink hip hvalid hcanonical ?_ (hclear₂.eq_none h₂)
    refine (h₂.endpoint_eq_none _).2 fun k ⟨link, hlink⟩ => ?_
    exact ((hclear₁ k link).1 ((hclear₂ k link).1 hlink).1).2

/-- **A rewired link.** -/
theorem PassInv.placed_addRewired (hip : IpIndexed env)
    (hvalid : u.isValid = true) (hcanonical : u.Canonical) :
    Placed env u s (s.addRewired env (u, u)) := by
  unfold LinkPass.addRewired
  dsimp only
  split_ifs with hsome hsame
  · exact h.placed (h.has_of_isSome hsome)
  · exact h.placed (h.has_of_sameLink hvalid hcanonical hsame)
  · refine h.placed_both hip hvalid hcanonical (fun hu => hsome ?_) fun _ _ hplaced => hplaced
    rw [h.copy]
    exact isSome_iff_exists.2 hu

/-! ### The first phase and the last -/

/-- **A stale link leaves**, and nothing else. -/
theorem PassInv.removeStale (x : DiffLink × ActLink) :
    PassInv env (s.removeStale env x) ∧ (∀ k, (s.removeStale env x).Has k → s.Has k) ∧
    (env.rules.Accepting → (s.removeStale env x).Has x.1 → (env.baselineDiffLinkMap x.1).isSome =
      true ∨
        (env.diffResult.unchangedLinks x.1).isSome = true ∨
        (env.diffResult.newLinks x.1).isSome = true) := by
  unfold LinkPass.removeStale
  rw [h.copy]
  cases hlink : s.cache x.1 with
  | none =>
    refine ⟨h, fun _ hk => hk, fun _ ⟨link, hx⟩ => ?_⟩
    exact nomatch hlink.symm.trans hx
  | some link =>
    dsimp only
    rw [(h.agrees.stored x.1 link hlink).1]
    dsimp only
    split_ifs with hkeep
    · refine ⟨h, fun _ hk => hk, fun _ _ => ?_⟩
      rwa [Bool.or_eq_true, Bool.or_eq_true, (or_assoc : _ ↔ _)] at hkeep
    · obtain ⟨hrem, hinv, hcache⟩ := h.removeLink hlink
      rw [hrem]
      split_ifs with hdeletes
      · refine ⟨hinv, fun k ⟨link', hk⟩ => ⟨link', ((hcache k link').1 hk).2⟩, ?_⟩
        rintro - ⟨link', hx⟩
        exact absurd rfl ((hcache x.1 link').1 hx).1
      · exact ⟨h, fun _ hk => hk, fun hacc => absurd (hacc.2 _ _) hdeletes⟩

omit h

theorem findDeviceId_eq_some {D : GoMap ℤ ActDevice} {core : CoreProject}
    {order : List (ℤ × ActDevice)} {ip : IpAddress} {id : ℤ} (hD : KnownDevices D core)
    (horder : D.Ranges order) : LinkPass.findDeviceId order ip = some id ↔
      ∃ device, D id = some device ∧ device.ipAddress = ip := by
  unfold LinkPass.findDeviceId
  constructor
  · intro h
    obtain ⟨x, hfind, rfl⟩ := map_eq_some_iff.1 h
    have hip := find?_some hfind
    exact ⟨x.2, (horder.mem _ _).1 (mem_of_find?_eq_some hfind), by simpa using hip⟩
  · rintro ⟨device, hdev, rfl⟩
    cases hfind : order.find? fun x => x.2.ipAddress = device.ipAddress with
    | none =>
      have := find?_eq_none.1 hfind _ ((horder.mem id device).2 hdev)
      simp at this
    | some x =>
      have hip := find?_some hfind
      have hx := (horder.mem _ _).1 (mem_of_find?_eq_some hfind)
      rw [map_some, hD.ip_inj x.1 id x.2 device hx hdev (by simpa using hip)]

/-- The devices of a link do not depend on which comes first. -/
theorem between_newDiffLink {D : GoMap ℤ ActDevice} {ip1 ip2 : IpAddress} {port1 port2 : ℤ} :
    Between D (newDiffLink ip1 port1 ip2 port2) ↔
      (∃ id device, D id = some device ∧ device.ipAddress = ip1) ∧
        ∃ id device, D id = some device ∧ device.ipAddress = ip2 := by
  unfold Between newDiffLink
  split_ifs
  · exact and_comm
  · exact Iff.rfl

/-- **A link of the baseline** enters if its devices are there and its ports are free, and nothing
leaves. -/
theorem PassInv.entered_readdBaseline (h : PassInv env s)
    {srcOrder dstOrder : DiffLink → List (ℤ × ActDevice)} {x : DiffLink × ActLink}
    (hsrcOrder : ∀ k, env.currentDeviceMap.Ranges (srcOrder k))
    (hdstOrder : ∀ k, env.currentDeviceMap.Ranges (dstOrder k))
    (hx : getActLinkStr x.2.toLinkConf env.baselineDeviceMap = some x.1) :
    Entered env x.1 (Between env.currentDeviceMap x.1 ∧ ∀ k, s.Has k → k.Shares x.1 → k = x.1) s
      (s.readdBaseline env srcOrder dstOrder x) := by
  unfold LinkPass.readdBaseline
  split
  · rename_i hsome
    exact h.entered fun _ => h.has_of_isSome hsome
  · rename_i hsome
    have hnot : ¬s.Has x.1 := fun hhas => hsome (by
      rw [h.copy]
      exact isSome_iff_exists.2 hhas)
    have hapart : (∀ k, s.Has k → k.Shares x.1 → k = x.1) → ∀ k, s.Has k → ¬k.Shares x.1 :=
      fun halone k hk hshares => hnot (halone k hk hshares ▸ hk)
    rw [getActLinkEndpointsStr_of_str hx]
    dsimp only
    split
    · rename_i hused
      refine h.entered fun hfree => ?_
      have hnone : ∀ endpoint, x.1.Uses endpoint → s.currentLinkEndpointMap endpoint = none :=
        fun endpoint huses => (h.endpoint_eq_none endpoint).2 fun k hk hkuses =>
          hapart hfree.2 k hk ⟨endpoint, hkuses, huses⟩
      rw [hnone _ x.1.uses_fromEndpoint, hnone _ x.1.uses_toEndpoint] at hused
      cases hused
    · obtain ⟨srcActDevice, dstActDevice, ⟨hsrc, hdst⟩, hports, hname⟩ :=
        getActLinkStr_eq_some.1 hx
      rw [hsrc, hdst]
      dsimp only
      cases hsrcId : LinkPass.findDeviceId (srcOrder x.1) srcActDevice.ipAddress with
      | none =>
        refine h.entered fun hfree => ?_
        rw [hname, between_newDiffLink] at hfree
        obtain ⟨id, hid⟩ := hfree.1.1
        rw [(findDeviceId_eq_some h.devices (hsrcOrder x.1)).2 hid] at hsrcId
        cases hsrcId
      | some currentSrcDeviceId =>
        cases hdstId : LinkPass.findDeviceId (dstOrder x.1) dstActDevice.ipAddress with
        | none =>
          refine h.entered fun hfree => ?_
          rw [hname, between_newDiffLink] at hfree
          obtain ⟨id, hid⟩ := hfree.1.2
          rw [(findDeviceId_eq_some h.devices (hdstOrder x.1)).2 hid] at hdstId
          cases hdstId
        | some currentDstDeviceId =>
          obtain ⟨srcDev, hsrcDev, hsrcIp⟩ :=
            (findDeviceId_eq_some h.devices (hsrcOrder x.1)).1 hsrcId
          obtain ⟨dstDev, hdstDev, hdstIp⟩ :=
            (findDeviceId_eq_some h.devices (hdstOrder x.1)).1 hdstId
          dsimp only
          let conf : LinkConf := {
            sourceDeviceId := currentSrcDeviceId
            sourceInterfaceId := x.2.sourceInterfaceId
            destinationDeviceId := currentDstDeviceId
            destinationInterfaceId := x.2.destinationInterfaceId
            speed := x.2.speed }
          have hstr : getActLinkStr conf env.currentDeviceMap = some x.1 := by
            refine getActLinkStr_eq_some.2 ⟨srcDev, dstDev, ⟨hsrcDev, hdstDev⟩, hports, ?_⟩
            rw [hsrcIp, hdstIp]
            exact hname
          have hent := h.entered_create conf hstr
          exact ⟨hent.inv, hent.added, hent.kept,
            fun hacc hfree => hent.here hacc (hapart hfree.2)⟩

end

/-! ### The devices of core -/

section
variable {env : PassEnv} {s s' : LinkPass} {body : LinkPass → LinkPass}

theorem devices_removeLink {link : ActLink} (h : s.removeLink env link = some s') :
    s'.core.devices = s.core.devices := by
  unfold LinkPass.removeLink at h
  obtain ⟨linkStr, -, h⟩ := bind_eq_some_iff.1 h
  obtain ⟨endpoints, -, h⟩ := bind_eq_some_iff.1 h
  obtain ⟨core, hcore, h⟩ := bind_eq_some_iff.1 h
  cases h
  unfold CoreProject.deleteLink at hcore
  split_ifs at hcore
  rw [← some.inj hcore]

theorem devices_putCreated (conf : LinkConf) (linkStr : DiffLink)
    (fromEndpoint toEndpoint : Endpoint) :
    (match s.core.createLink env.rules conf with
      | none => s
      | some created => s.putLink linkStr fromEndpoint toEndpoint created).core.devices =
      s.core.devices := by
  cases hcre : s.core.createLink env.rules conf with
  | none => rfl
  | some created =>
    unfold CoreProject.createLink at hcre
    split_ifs at hcre
    rw [← some.inj hcre]
    rfl

theorem devices_createLink (link : DiffLink) :
    (s.createLink env link).core.devices = s.core.devices := by
  unfold LinkPass.createLink
  split
  · exact devices_putCreated _ _ _ _
  · rfl

theorem devices_vacate (occupant : Option ActLink)
    (hbody : ∀ s : LinkPass, (body s).core.devices = s.core.devices) :
    (s.vacate env occupant body).core.devices = s.core.devices := by
  unfold LinkPass.vacate
  split
  · exact hbody s
  · split
    · rfl
    · rename_i hrem
      exact (hbody _).trans (devices_removeLink hrem)

theorem devices_removeStale (x : DiffLink × ActLink) :
    (s.removeStale env x).core.devices = s.core.devices := by
  unfold LinkPass.removeStale
  split
  · rfl
  · split
    · rfl
    · split
      · rfl
      · rename_i link _ _ _ _ _
        cases hrem : s.removeLink env link with
        | none => rfl
        | some s' => exact devices_removeLink hrem

theorem devices_restoreUnchanged (x : DiffLink × DiffLink) :
    (s.restoreUnchanged env x).core.devices = s.core.devices := by
  unfold LinkPass.restoreUnchanged
  dsimp only
  split
  · rfl
  · split
    · rfl
    · refine devices_vacate _ fun s => devices_vacate _ fun s => ?_
      split
      · exact devices_createLink _
      · rfl

theorem devices_addNew (x : DiffLink × DiffLink) :
    (s.addNew env x).core.devices = s.core.devices := by
  unfold LinkPass.addNew
  split_ifs
  · rfl
  · rfl
  · exact devices_vacate _ fun s => devices_vacate _ fun s => devices_createLink _

theorem devices_addRewired (x : DiffLink × DiffLink) :
    (s.addRewired env x).core.devices = s.core.devices := by
  unfold LinkPass.addRewired
  dsimp only
  split_ifs
  · rfl
  · rfl
  · exact devices_vacate _ fun s => devices_vacate _ fun s => devices_createLink _

theorem devices_readdBaseline (srcOrder dstOrder : DiffLink → List (ℤ × ActDevice))
    (x : DiffLink × ActLink) :
    (s.readdBaseline env srcOrder dstOrder x).core.devices = s.core.devices := by
  unfold LinkPass.readdBaseline
  split
  · rfl
  · split
    · rfl
    · split
      · rfl
      · split
        · split
          · exact devices_putCreated _ _ _ _
          · rfl
        · rfl

/-- **The phases leave the devices of core alone.** -/
theorem devices_phases (orders : LinkOrders) :
    (s.phases env orders).core.devices = s.core.devices := by
  have hkeep : ∀ {α : Type} (step : LinkPass → α → LinkPass) (l : List α) (s' : LinkPass),
      s'.core.devices = s.core.devices →
      (∀ s'' x, (step s'' x).core.devices = s''.core.devices) →
      (l.foldl step s').core.devices = s.core.devices := fun step l s' hs' hstep =>
    foldlRecOn l step (motive := fun s'' : LinkPass => s''.core.devices = s.core.devices) hs'
      fun s'' hs'' x _ => (hstep s'' x).trans hs''
  have hstale := hkeep (LinkPass.removeStale env) orders.stale s rfl
    fun _ x => devices_removeStale x
  have hunch := hkeep (LinkPass.restoreUnchanged env) orders.unchanged _ hstale
    fun _ x => devices_restoreUnchanged x
  have hnew := hkeep (LinkPass.addNew env) orders.new _ hunch fun _ x => devices_addNew x
  have hrewired := hkeep (LinkPass.addRewired env) orders.rewired _ hnew
    fun _ x => devices_addRewired x
  exact hkeep _ orders.readd _ hrewired fun _ x => devices_readdBaseline _ _ x

end

end Monitor
end Sebastian
