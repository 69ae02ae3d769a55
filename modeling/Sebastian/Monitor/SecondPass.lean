/-
# A second pass over the links

A pass of `updateTopologyLink` that follows another, with nothing reported anew, has
nothing to do for the links of the first and the last phase, nor for a link that is
up between current devices: these are there (`Topology.WellKept.settled`).  What is
left are the links that are up and of which a device is not current.  Such a link is
never created, but before it is tried the links at its ports are deleted, and the
last phase creates them again.

A step of a phase leaves everything or has core create or delete a link (`Moves`),
so a pass is quiet exactly when each of its steps leaves the state it begins with
(`phases_core_iff`).  It is so when no such link is at a port that is used
(`quiet_secondPass_iff`).
-/

import Sebastian.Monitor.LinkConvergence

namespace Sebastian
namespace Monitor

open LinkPass Option List GoMap

/-! ### Steps that leave everything -/

/-- Nothing is done, or core has created or deleted a link. -/
def Moves (s s' : LinkPass) : Prop := s' = s ∨ s.core.calls < s'.core.calls

section
variable {α : Type} {env : PassEnv} {s s' s'' : LinkPass} {u : DiffLink} {endpoint : Endpoint}
  {body : LinkPass → LinkPass} {step : LinkPass → α → LinkPass} {l : List α}

theorem Moves.trans (h : Moves s s') (h' : Moves s' s'') : Moves s s'' := by
  rcases h with rfl | h
  · exact h'
  · rcases h' with rfl | h'
    · exact .inr h
    · exact .inr (Nat.lt_trans h h')

theorem Moves.eq_of_calls (h : Moves s s') (hcalls : s'.core.calls = s.core.calls) : s' = s :=
  h.resolve_right fun hlt => by omega

theorem Moves.calls_le (h : Moves s s') : s.core.calls ≤ s'.core.calls := by
  rcases h with rfl | h
  · exact Nat.le_refl _
  · exact Nat.le_of_lt h

/-- **A loop** moves if its steps do. -/
theorem Moves.foldl (hstep : ∀ s x, Moves s (step s x)) (s : LinkPass) (l : List α) :
    Moves s (l.foldl step s) := by
  induction l generalizing s with
  | nil => exact .inl rfl
  | cons x l ih => exact (hstep s x).trans (ih _)

/-- **A loop leaves everything** exactly when each of its steps leaves the state it begins with. -/
theorem foldl_eq_self_iff (hstep : ∀ s x, Moves s (step s x)) (s : LinkPass) (l : List α) :
    l.foldl step s = s ↔ ∀ x ∈ l, step s x = s := by
  induction l with
  | nil => exact iff_of_true rfl nofun
  | cons x l ih =>
    rw [foldl_cons, forall_mem_cons]
    constructor
    · intro h
      have hrest := (Moves.foldl hstep (step s x) l).calls_le
      rw [h] at hrest
      have hx := (hstep s x).eq_of_calls (Nat.le_antisymm hrest (hstep s x).calls_le)
      rw [hx] at h
      exact ⟨hx, ih.1 h⟩
    · rintro ⟨hx, hl⟩
      rw [hx]
      exact ih.2 hl

theorem calls_lt_removeLink {link : ActLink} (h : s.removeLink env link = some s') :
    s.core.calls < s'.core.calls := by
  unfold removeLink at h
  obtain ⟨linkStr, -, h⟩ := bind_eq_some_iff.1 h
  obtain ⟨endpoints, -, h⟩ := bind_eq_some_iff.1 h
  obtain ⟨core, hcore, h⟩ := bind_eq_some_iff.1 h
  cases h
  unfold CoreProject.deleteLink at hcore
  split_ifs at hcore
  rw [← some.inj hcore]
  exact Nat.lt_succ_self _

theorem moves_putCreated (conf : LinkConf) (linkStr : DiffLink)
    (fromEndpoint toEndpoint : Endpoint) :
    Moves s (match s.core.createLink env.rules conf with
      | none => s
      | some created => s.putLink linkStr fromEndpoint toEndpoint created) := by
  cases hcre : s.core.createLink env.rules conf with
  | none => exact .inl rfl
  | some created =>
    unfold CoreProject.createLink at hcre
    split_ifs at hcre
    rw [← some.inj hcre]
    exact .inr (Nat.lt_succ_self _)

theorem moves_createLink (link : DiffLink) : Moves s (s.createLink env link) := by
  unfold createLink
  split
  · exact moves_putCreated _ _ _ _
  · exact .inl rfl

theorem moves_vacate (occupant : Option ActLink) (hbody : ∀ s : LinkPass, Moves s (body s)) :
    Moves s (s.vacate env occupant body) := by
  unfold vacate
  split
  · exact hbody s
  · split
    · exact .inl rfl
    · rename_i hrem
      exact Moves.trans (.inr (calls_lt_removeLink hrem)) (hbody _)

theorem moves_removeStale (s : LinkPass) (x : DiffLink × ActLink) :
    Moves s (s.removeStale env x) := by
  unfold LinkPass.removeStale
  split
  · exact .inl rfl
  · split
    · exact .inl rfl
    · split
      · exact .inl rfl
      · rename_i link _ _ _ _ _
        cases hrem : s.removeLink env link with
        | none => exact .inl rfl
        | some s' => exact .inr (calls_lt_removeLink hrem)

theorem moves_restoreUnchanged (s : LinkPass) (x : DiffLink × DiffLink) :
    Moves s (s.restoreUnchanged env x) := by
  unfold restoreUnchanged
  dsimp only
  split
  · exact .inl rfl
  · split
    · exact .inl rfl
    · refine moves_vacate _ fun s => moves_vacate _ fun s => ?_
      split
      · exact moves_createLink _
      · exact .inl rfl

theorem moves_addNew (s : LinkPass) (x : DiffLink × DiffLink) : Moves s (s.addNew env x) := by
  unfold addNew
  split_ifs
  · exact .inl rfl
  · exact .inl rfl
  · exact moves_vacate _ fun s => moves_vacate _ fun s => moves_createLink _

theorem moves_addRewired (s : LinkPass) (x : DiffLink × DiffLink) :
    Moves s (s.addRewired env x) := by
  unfold addRewired
  dsimp only
  split_ifs
  · exact .inl rfl
  · exact .inl rfl
  · exact moves_vacate _ fun s => moves_vacate _ fun s => moves_createLink _

theorem moves_readdBaseline (srcOrder dstOrder : DiffLink → List (ℤ × ActDevice)) (s : LinkPass)
    (x : DiffLink × ActLink) : Moves s (s.readdBaseline env srcOrder dstOrder x) := by
  unfold readdBaseline
  split
  · exact .inl rfl
  · split
    · exact .inl rfl
    · split
      · exact .inl rfl
      · split
        · split
          · exact moves_putCreated _ _ _ _
          · exact .inl rfl
        · exact .inl rfl

/-- **The phases leave core alone** exactly when every step of each of them leaves the state in
which they begin. -/
theorem phases_core_iff (env : PassEnv) (orders : LinkOrders) (s : LinkPass) :
    (s.phases env orders).core = s.core ↔
      (∀ x ∈ orders.stale, s.removeStale env x = s) ∧
      (∀ x ∈ orders.unchanged, s.restoreUnchanged env x = s) ∧
      (∀ x ∈ orders.new, s.addNew env x = s) ∧
      (∀ x ∈ orders.rewired, s.addRewired env x = s) ∧
      ∀ x ∈ orders.readd, s.readdBaseline env orders.srcDevices orders.dstDevices x = s := by
  rw [← foldl_eq_self_iff moves_removeStale, ← foldl_eq_self_iff moves_restoreUnchanged,
    ← foldl_eq_self_iff moves_addNew, ← foldl_eq_self_iff moves_addRewired,
    ← foldl_eq_self_iff (moves_readdBaseline _ _)]
  unfold phases
  extract_lets s₁ s₂ s₃ s₄
  have h₁ : Moves s s₁ := .foldl moves_removeStale _ _
  have h₂ : Moves s₁ s₂ := .foldl moves_restoreUnchanged _ _
  have h₃ : Moves s₂ s₃ := .foldl moves_addNew _ _
  have h₄ : Moves s₃ s₄ := .foldl moves_addRewired _ _
  have h₅ : Moves s₄ (orders.readd.foldl
    (readdBaseline env orders.srcDevices orders.dstDevices) s₄) :=
    .foldl (moves_readdBaseline _ _) _ _
  constructor
  · intro hcore
    -- the calls only grow, so that no phase adds to them
    have hcalls := congrArg CoreProject.calls hcore
    have hle₁ := h₁.calls_le
    have hle₂ := h₂.calls_le
    have hle₃ := h₃.calls_le
    have hle₄ := h₄.calls_le
    have hle₅ := h₅.calls_le
    have heq₁ : s₁ = s := h₁.eq_of_calls (by omega)
    have heq₂ : s₂ = s := (h₂.eq_of_calls (by omega)).trans heq₁
    have heq₃ : s₃ = s := (h₃.eq_of_calls (by omega)).trans heq₂
    have heq₄ : s₄ = s := (h₄.eq_of_calls (by omega)).trans heq₃
    have heq₅ := (h₅.eq_of_calls (by omega)).trans heq₄
    refine ⟨heq₁, ?_, ?_, ?_, ?_⟩
    · unfold s₂ at heq₂
      rwa [heq₁] at heq₂
    · unfold s₃ at heq₃
      rwa [heq₂] at heq₃
    · unfold s₄ at heq₄
      rwa [heq₃] at heq₄
    · rwa [heq₄] at heq₅
  · rintro ⟨hstale, hunch, hnew, hrewired, hreadd⟩
    unfold s₄ s₃ s₂ s₁
    rw [hstale, hunch, hnew, hrewired, hreadd]

end

/-! ### One step -/

section
variable {env : PassEnv} {s : LinkPass} {u : DiffLink} {endpoint : Endpoint}
  {body : LinkPass → LinkPass}

theorem PassInv.free_iff (h : PassInv env s) : (∀ k, s.Has k → ¬u.Shares k) ↔
    s.currentLinkEndpointMap u.fromEndpoint = none ∧
      s.currentLinkEndpointMap u.toEndpoint = none := by
  rw [h.endpoint_eq_none, h.endpoint_eq_none]
  constructor
  · intro hfree
    exact ⟨fun k hk huses => hfree k hk ⟨_, u.uses_fromEndpoint, huses⟩,
      fun k hk huses => hfree k hk ⟨_, u.uses_toEndpoint, huses⟩⟩
  · rintro ⟨hfrom, hto⟩ k hk ⟨endpoint, rfl | rfl, huses⟩
    · exact hfrom k hk huses
    · exact hto k hk huses

/-- **To make room for a link** leaves everything exactly when the port is free and what follows
leaves everything. -/
theorem PassInv.vacate_eq_self_iff (h : PassInv env s) (haccepts : env.rules.Accepting)
    (hbody : ∀ s : LinkPass, Moves s (body s)) :
    s.vacate env (s.currentLinkEndpointMap endpoint) body = s ↔
      s.currentLinkEndpointMap endpoint = none ∧ body s = s := by
  unfold vacate
  cases hoccupant : s.currentLinkEndpointMap endpoint with
  | none => exact (and_iff_right rfl).symm
  | some link =>
    obtain ⟨k, hlink, -⟩ := (h.endpoints endpoint link).1 hoccupant
    have hrem := (h.removeLink hlink).1
    rw [if_pos (haccepts.2 _ _)] at hrem
    dsimp only
    rw [hrem]
    refine iff_of_false (fun heq => ?_) nofun
    have hcalls := calls_lt_removeLink hrem
    have hrest := (hbody (s.without k link)).calls_le
    dsimp only at heq
    rw [heq] at hrest
    omega

/-- **To make room at both ports and create nothing** leaves everything exactly when both are
free. -/
theorem PassInv.vacateBoth_eq_self_iff (h : PassInv env s) (haccepts : env.rules.Accepting)
    (hbody : ∀ s : LinkPass, body s = s) :
    (s.vacate env (s.currentLinkEndpointMap u.fromEndpoint) fun s' =>
      s'.vacate env (s.currentLinkEndpointMap u.toEndpoint) body) = s ↔
        ∀ k, s.Has k → ¬u.Shares k := by
  have hmoves : ∀ s : LinkPass, Moves s (body s) := fun s => .inl (hbody s)
  rw [h.free_iff, h.vacate_eq_self_iff haccepts fun s => moves_vacate _ hmoves,
    h.vacate_eq_self_iff haccepts hmoves, and_iff_left (hbody s)]

/-- **A link of which a device is not there** is not created. -/
theorem createLink_of_not_between (hip : IpIndexed env) (hu : ¬Between env.currentDeviceMap u)
    (s : LinkPass) : s.createLink env u = s := by
  unfold createLink
  split
  · rename_i srcActDevice dstActDevice _ hsrc hdst _
    obtain ⟨srcId, hsrcId⟩ := (hip _ _).1 hsrc
    obtain ⟨dstId, hdstId⟩ := (hip _ _).1 hdst
    exact absurd ⟨⟨srcId, _, hsrcId⟩, dstId, _, hdstId⟩ hu
  · rfl

variable (h : PassInv env s) (hip : IpIndexed env) (haccepts : env.rules.Accepting)
include h hip haccepts

/-- **A step for a link that cannot be created** leaves everything exactly when nothing is at its
ports. -/
theorem PassInv.addRewired_eq_self_iff (hvalid : u.isValid = true) (hcanonical : u.Canonical)
    (hu : ¬Between env.currentDeviceMap u) :
    s.addRewired env (u, u) = s ↔ ∀ k, s.Has k → ¬u.Shares k := by
  have hnot : ¬s.Has u := fun hhas => hu (h.between hhas)
  unfold addRewired
  dsimp only
  rw [if_neg fun hsome => hnot (h.has_of_isSome hsome),
    if_neg fun hsame => hnot (h.has_of_sameLink hvalid hcanonical hsame)]
  exact h.vacateBoth_eq_self_iff haccepts fun s => createLink_of_not_between hip hu s

theorem PassInv.restoreUnchanged_eq_self_iff (hvalid : u.isValid = true) (hcanonical : u.Canonical)
    (hu : ¬Between env.currentDeviceMap u) :
    s.restoreUnchanged env (u, u) = s ↔ ∀ k, s.Has k → ¬u.Shares k := by
  have hnot : ¬s.Has u := fun hhas => hu (h.between hhas)
  unfold restoreUnchanged
  dsimp only
  rw [if_neg fun hsome => hnot (h.has_of_isSome hsome),
    if_neg fun hsame => hnot (h.has_of_sameLink hvalid hcanonical hsame)]
  refine h.vacateBoth_eq_self_iff haccepts fun s => ?_
  split_ifs
  · exact createLink_of_not_between hip hu s
  · rfl

theorem PassInv.addNew_eq_self_iff (hrewired : env.diffResult.rewiredLinks u = none)
    (hu : ¬Between env.currentDeviceMap u) :
    s.addNew env (u, u) = s ↔ ∀ k, s.Has k → ¬u.Shares k := by
  have hnot : ¬s.Has u := fun hhas => hu (h.between hhas)
  have hmoves : ∀ s : LinkPass, Moves s (s.createLink env u) := fun s => moves_createLink u
  unfold addNew
  rw [hrewired, if_neg nofun, if_neg fun hsome => hnot (h.has_of_isSome hsome), h.free_iff,
    h.vacate_eq_self_iff haccepts fun s => moves_vacate _ hmoves,
    h.vacate_eq_self_iff haccepts hmoves, and_iff_left (createLink_of_not_between hip hu s)]

omit h hip haccepts

/-- A link that is there already is passed over by each of the phases. -/
theorem PassInv.steps_of_has (h : PassInv env s) (hu : s.Has u) :
    s.restoreUnchanged env (u, u) = s ∧ s.addNew env (u, u) = s ∧
      s.addRewired env (u, u) = s := by
  have hsome : (s.currentLinkMap u).isSome = true := by
    rw [h.copy]
    exact isSome_iff_exists.2 hu
  refine ⟨if_pos hsome, ?_, if_pos hsome⟩
  unfold addNew
  split_ifs <;> rfl

/-- **A link that is to stay** is passed over by the first phase. -/
theorem PassInv.removeStale_eq_self (h : PassInv env s) {x : DiffLink × ActLink}
    (hx : s.Has x.1 → (env.baselineDiffLinkMap x.1).isSome = true ∨
      (env.diffResult.unchangedLinks x.1).isSome = true ∨
      (env.diffResult.newLinks x.1).isSome = true) : s.removeStale env x = s := by
  unfold LinkPass.removeStale
  rw [h.copy]
  cases hlink : s.cache x.1 with
  | none => rfl
  | some link =>
    dsimp only
    rw [(h.agrees.stored x.1 link hlink).1]
    refine if_pos ?_
    rw [Bool.or_eq_true, Bool.or_eq_true, (or_assoc : _ ↔ _)]
    exact hx ⟨link, hlink⟩

/-- A link of the baseline that is tried enters, or nothing is done. -/
theorem eq_or_has_readdBaseline (srcOrder dstOrder : DiffLink → List (ℤ × ActDevice))
    (x : DiffLink × ActLink) : s.readdBaseline env srcOrder dstOrder x = s ∨
      (s.readdBaseline env srcOrder dstOrder x).Has x.1 := by
  unfold readdBaseline
  split
  · exact .inl rfl
  · split
    · exact .inl rfl
    · split
      · exact .inl rfl
      · split
        · split
          · split
            · exact .inl rfl
            · exact .inr ⟨_, if_pos rfl⟩
          · exact .inl rfl
        · exact .inl rfl

/-- **A link of the baseline at whose ports there is something**, or of which a device is not
there, is passed over by the last phase. -/
theorem PassInv.readdBaseline_eq_self (h : PassInv env s)
    {srcOrder dstOrder : DiffLink → List (ℤ × ActDevice)} {x : DiffLink × ActLink}
    (hsrcOrder : ∀ k, env.currentDeviceMap.Ranges (srcOrder k))
    (hdstOrder : ∀ k, env.currentDeviceMap.Ranges (dstOrder k))
    (hx : getActLinkStr x.2.toLinkConf env.baselineDeviceMap = some x.1)
    (hfilled : Between env.currentDeviceMap x.1 → ∃ k, s.Has k ∧ k.Shares x.1) :
    s.readdBaseline env srcOrder dstOrder x = s := by
  have hent := h.entered_readdBaseline hsrcOrder hdstOrder hx
  rcases eq_or_has_readdBaseline srcOrder dstOrder x with heq | hhas
  · exact heq
  · -- what is at its ports is then the link itself
    obtain ⟨k, hk, hshares⟩ := hfilled (hent.inv.between hhas)
    obtain rfl := hent.inv.disjoint (hent.kept k hk) hhas hshares
    unfold readdBaseline
    refine if_pos ?_
    rw [h.copy]
    exact isSome_iff_exists.2 hk

end

/-! ### A pass that has nothing to do -/

/-- Core creates no link in the pass and deletes none. -/
def QuietPass (rules : CoreRules) (m : Topology) (orders : LinkOrders) : Prop :=
  (updateTopologyLink rules m orders).core = m.core

/-- The link is up, and one of its devices is not a current one. -/
def Topology.Unplaced (m : Topology) (u : DiffLink) : Prop :=
  m.Up u ∧ ¬Between m.currentDeviceMap u

section
variable {rules : CoreRules} {m : Topology} {orders : LinkOrders} {k u : DiffLink}

/-- A link that is cached when the phases begin is left by the first of them. -/
theorem LinksSettled.removeStale_eq_self (hset : LinksSettled m m) (h : m.WellKept)
    (hords : orders.Walks rules m) (x : DiffLink × ActLink) :
    (init m orders).removeStale (passEnv rules m orders) x = init m orders := by
  refine (h.passInv hords).removeStale_eq_self fun hhas => ?_
  by_cases hbase : m.InBaseline x.1
  · exact .inl (isSome_iff_exists.2
      ⟨_, (baselineDiffLinkMap_iff h hords).2 ⟨rfl, hbase⟩⟩)
  · have hup := (hset.known x.1 hhas).resolve_left hbase
    exact .inr (.inr (isSome_iff_exists.2
      ⟨_, (h.new_iff hords).2 ⟨rfl, hup, hbase⟩⟩))

/-- **A pass over what a pass has left** is quiet exactly when nothing is at the ports of the links
that are up and cannot be there. -/
theorem LinksSettled.quiet_iff (hset : LinksSettled m m) (h : m.WellKept)
    (hords : orders.Walks rules m) (haccepts : rules.Accepting) : QuietPass rules m orders ↔
      ∀ u, m.Unplaced u → ∀ k, (∃ link, m.currentLinkMap k = some link) → ¬u.Shares k := by
  have hinv := h.passInv hords
  have hip := h.ipIndexed hords
  refine (phases_core_iff (passEnv rules m orders) orders (init m orders)).trans ?_
  constructor
  · rintro ⟨-, hunch, hnew, hrewired, -⟩ u ⟨hup, hnot⟩
    -- where a link that is up is walked: by the baseline, and by the ports of the baseline
    by_cases hbase : m.InBaseline u
    · have hmem := (hords.unchanged.mem u u).2
        ((h.unchanged_iff hords).2 ⟨rfl, hup, hbase⟩)
      exact (hinv.restoreUnchanged_eq_self_iff hip haccepts hup.1 hup.canonical hnot).1
        (hunch _ hmem)
    · have hmem := (hords.new.mem u u).2 ((h.new_iff hords).2 ⟨rfl, hup, hbase⟩)
      cases hlink : (passEnv rules m orders).diffResult.rewiredLinks u with
      | none => exact (hinv.addNew_eq_self_iff hip haccepts hlink hnot).1 (hnew _ hmem)
      | some link =>
        have hmem' := (hords.rewired.mem u link).2 hlink
        have hstep := hrewired _ hmem'
        rw [(h.of_mem_rewired hords hmem').1] at hstep
        exact (hinv.addRewired_eq_self_iff hip haccepts hup.1 hup.canonical hnot).1 hstep
  · intro hfree
    have hhas : ∀ u, m.Up u → Between m.currentDeviceMap u → (init m orders).Has u :=
      hset.up
    refine ⟨fun x _ => hset.removeStale_eq_self h hords x, fun x hx => ?_, fun x hx => ?_,
      fun x hx => ?_, fun x hx => ?_⟩
    · obtain ⟨heq, hup, -⟩ := h.of_mem_unchanged hords hx
      rw [heq]
      by_cases hbetween : Between m.currentDeviceMap x.1
      · exact (hinv.steps_of_has (hhas _ hup hbetween)).1
      · exact (hinv.restoreUnchanged_eq_self_iff hip haccepts hup.1 hup.canonical hbetween).2
          (hfree _ ⟨hup, hbetween⟩)
    · obtain ⟨heq, hup, -⟩ := h.of_mem_new hords hx
      rw [heq]
      by_cases hbetween : Between m.currentDeviceMap x.1
      · exact (hinv.steps_of_has (hhas _ hup hbetween)).2.1
      · cases hlink : (passEnv rules m orders).diffResult.rewiredLinks x.1 with
        | none =>
          exact (hinv.addNew_eq_self_iff hip haccepts hlink hbetween).2 (hfree _ ⟨hup, hbetween⟩)
        | some link =>
          unfold addNew
          rw [hlink]
          rfl
    · obtain ⟨heq, hup, -⟩ := h.of_mem_rewired hords hx
      rw [heq]
      by_cases hbetween : Between m.currentDeviceMap x.1
      · exact (hinv.steps_of_has (hhas _ hup hbetween)).2.2
      · exact (hinv.addRewired_eq_self_iff hip haccepts hup.1 hup.canonical hbetween).2
          (hfree _ ⟨hup, hbetween⟩)
    · obtain ⟨hbase, hstr⟩ := h.of_mem_readd hords hx
      exact hinv.readdBaseline_eq_self hords.srcDevices hords.dstDevices hstr
        (hset.filled _ hbase)

theorem LinkOrders.Walks.again (h : orders.Walks rules m)
    (hendpoints : (updateTopologyLink rules m orders).currentLinkMap.Ranges orders.endpoints)
    (hstale : (updateTopologyLink rules m orders).currentLinkMap.Ranges orders.stale) :
    orders.Walks rules (updateTopologyLink rules m orders) :=
  { h with endpoints := hendpoints, stale := hstale }

theorem LinksSettled.again (h : LinksSettled m (updateTopologyLink rules m orders)) :
    LinksSettled (updateTopologyLink rules m orders) (updateTopologyLink rules m orders) :=
  ⟨h.known, h.up, h.filled⟩

end

/-- **A second pass, directly after a first one**, creates no link and deletes none exactly when no
link that is up but lacks a device is at a port of a link that the first one has left.  Where the
links of the baseline share no endpoint, these are the links of the baseline between current
devices whose ports no link that is up between current devices uses. -/
theorem quiet_secondPass_iff (rules : CoreRules) (m : Topology) (orders orders' : LinkOrders)
    (h : m.WellKept) (horders : orders.Walks rules m)
    (horders' : orders'.Walks rules (updateTopologyLink rules m orders))
    (haccepts : rules.Accepting) (hup : Disjoint m.Up) :
    (QuietPass rules (updateTopologyLink rules m orders) orders' ↔
      ∀ u, m.Unplaced u → ∀ k,
        (∃ link, (updateTopologyLink rules m orders).currentLinkMap k = some link) →
          ¬u.Shares k) ∧
    (Disjoint m.InBaseline →
      (QuietPass rules (updateTopologyLink rules m orders) orders' ↔
        ∀ u, m.Unplaced u → ∀ k, m.InBaseline k → Between m.currentDeviceMap k →
          (∀ u', m.Up u' → Between m.currentDeviceMap u' → ¬u'.Shares k) → ¬u.Shares k)) := by
  have hquiet := (h.settled horders haccepts hup).again.quiet_iff (h.after_pass horders)
    horders' haccepts
  refine ⟨hquiet, fun hbase => hquiet.trans ?_⟩
  have hrequired := (converged_updateTopologyLink rules m orders h horders haccepts hbase
    hup).required
  refine forall_congr' fun u => forall_congr' fun hu => ?_
  constructor
  · intro hfree k hk hbetween hunused
    exact hfree k ((hrequired k).2 (.inr ⟨hk, hbetween, hunused⟩))
  · intro hfree k hk hshares
    rcases (hrequired k).1 hk with ⟨hupk, hbetween⟩ | ⟨hbaselinek, hbetween, hunused⟩
    · -- two links that are up are one
      obtain rfl := hup u k hu.1 hupk hshares
      exact hu.2 hbetween
    · exact hfree k hbaselinek hbetween hunused hshares

/-! ### A link to a device that is not current -/

/-- The link from the port of 10.0.0.1 to 10.0.0.3, which is not current. -/
def toMissing (port : ℤ) : DiffLink := ⟨⟨0xffff0a000001⟩, port, ⟨0xffff0a000003⟩, 1⟩

/-- The link as it is reported. -/
def toMissingMafLink (port : ℤ) : MafLink :=
  ⟨⟨0xffff0a000001⟩, port, ⟨0xffff0a000003⟩, 1, 1000000000, true⟩

/-- The link of the baseline is there, at port 1, and the one to the missing device is up. -/
def missingPeer (port : ℤ) : Topology where
  core := ⟨twoDevices.map (·.2), [straightLink 50001 1], 0⟩
  mafLinksCache := GoMap.empty.setAll [(toMissing port, toMissingMafLink port)]
  baselineDeviceMap := GoMap.empty.setAll twoDevices
  baselineLinkMap := GoMap.empty.setAll [(straight 1, straightLink 7 1)]
  currentDeviceMap := GoMap.empty.setAll twoDevices
  currentLinkMap := GoMap.empty.setAll [(straight 1, straightLink 50001 1)]

/-- An order for each of the walks. -/
def missingPeerOrders (port : ℤ) : LinkOrders where
  baselineLinks := [(straight 1, straightLink 7 1)]
  mafLinks := [(toMissing port, toMissingMafLink port)]
  currentDevices := twoDevices
  diff := {
    checkBaseline := [(straight 1, straight 1)]
    checkActual := [(toMissing port, toMissing port)]
    baselineEndpoints := [(straight 1, straight 1)]
    unchanged := [(straight 1, straight 1)]
    new := [(toMissing port, toMissing port)]
    rewired := [(toMissing port, toMissing port)] }
  endpoints := [(straight 1, straightLink 50001 1)]
  stale := [(straight 1, straightLink 50001 1)]
  unchanged := []
  new := [(toMissing port, toMissing port)]
  rewired := if port = 1 then [(toMissing port, toMissing port)] else []
  readd := [(straight 1, straightLink 7 1)]
  srcDevices := fun _ => twoDevices
  dstDevices := fun _ => twoDevices

theorem wellKept_missingPeer (port : ℤ) : (missingPeer port).WellKept where
  wellFormed := pairwise_singleton _ _
  devices := knownDevices_twoDevices _ _
  baseline := fun k link h => forall_setAll
    (P := fun k link => getActLinkStr link.toLinkConf (empty.setAll twoDevices) = some k)
    (by decide) h
  mafLinks := fun k link h => forall_setAll
    (P := fun k link => getMafLinkIdentifier link = k)
    (fun x hx => by rw [mem_singleton.1 hx]; rfl) h
  agrees := {
    stored := fun k link h => forall_setAll
      (P := fun k link => getActLinkStr link.toLinkConf (empty.setAll twoDevices) = some k ∧
        link ∈ [straightLink 50001 1]) (by decide) h
    cached := fun link h => by
      obtain rfl := mem_singleton.1 h
      exact ⟨straight 1, rfl⟩ }

theorem up_missingPeer {port : ℤ} {k : DiffLink} (h : (missingPeer port).Up k) :
    k = toMissing port := by
  obtain ⟨-, x, link, hlink, -, rfl⟩ := h
  exact forall_setAll (P := fun _ link => getMafLinkIdentifier link = toMissing port)
    (fun x hx => by rw [mem_singleton.1 hx]; rfl) hlink

theorem walks_missingPeer {port : ℤ} (hport : port = 1 ∨ port = 2) :
    (missingPeerOrders port).Walks CoreRules.accepting (missingPeer port) := by
  rcases hport with rfl | rfl
  all_goals exact {
    baselineLinks := ranges_setAll (by decide)
    mafLinks := ranges_setAll (by decide)
    currentDevices := ranges_setAll (by decide)
    diff := by constructor <;> exact ranges_of_eq rfl (by decide)
    endpoints := ranges_setAll (by decide)
    stale := ranges_setAll (by decide)
    unchanged := ranges_of_eq rfl (by decide)
    new := ranges_of_eq rfl (by decide)
    rewired := ranges_of_eq rfl (by decide)
    readd := ranges_setAll (by decide)
    srcDevices := fun _ => ranges_setAll (by decide)
    dstDevices := fun _ => ranges_setAll (by decide) }

/-- **With the missing device at a free port** the second pass has nothing to do. -/
theorem quiet_missingPeer_two : QuietPass CoreRules.accepting
    (updateTopologyLink CoreRules.accepting (missingPeer 2) (missingPeerOrders 2))
    (missingPeerOrders 2) := by
  have hwalks := walks_missingPeer (.inr rfl)
  refine (quiet_secondPass_iff CoreRules.accepting (missingPeer 2) (missingPeerOrders 2)
    (missingPeerOrders 2) (wellKept_missingPeer 2) hwalks
    (hwalks.again hwalks.endpoints hwalks.stale) CoreRules.accepting_accepting
    fun _ _ hk hk' _ => (up_missingPeer hk).trans (up_missingPeer hk').symm).1.2 ?_
  rintro u ⟨hup, -⟩ k ⟨link, hlink⟩
  obtain rfl := up_missingPeer hup
  have hk : k = straight 1 := forall_setAll (P := fun k _ => k = straight 1) (by decide) hlink
  rw [hk]
  rintro ⟨_, rfl | rfl, huses⟩
  · exact absurd huses (by decide)
  · exact absurd huses (by decide)

/-- **With the missing device at a port of the baseline** every pass deletes the link that is there
and creates it again. -/
theorem not_quiet_missingPeer_one : (missingPeer 1).WellKept ∧
    (missingPeerOrders 1).Walks CoreRules.accepting (missingPeer 1) ∧
    (missingPeerOrders 1).Walks CoreRules.accepting
      (updateTopologyLink CoreRules.accepting (missingPeer 1) (missingPeerOrders 1)) ∧
    CoreRules.accepting.Accepting ∧ Disjoint (missingPeer 1).Up ∧
    ¬QuietPass CoreRules.accepting
      (updateTopologyLink CoreRules.accepting (missingPeer 1) (missingPeerOrders 1))
      (missingPeerOrders 1) := by
  have hwalks := walks_missingPeer (.inl rfl)
  have hranges : (updateTopologyLink CoreRules.accepting (missingPeer 1)
      (missingPeerOrders 1)).currentLinkMap.Ranges [(straight 1, straightLink 50001 1)] :=
    (hwalks.stale.delete (straight 1)).set rfl _
  refine ⟨wellKept_missingPeer 1, hwalks, hwalks.again hranges hranges,
    CoreRules.accepting_accepting,
    fun _ _ hk hk' _ => (up_missingPeer hk).trans (up_missingPeer hk').symm, fun hquiet => ?_⟩
  have hcalls := congrArg CoreProject.calls hquiet
  exact absurd hcalls (by decide)

end Monitor
end Sebastian
