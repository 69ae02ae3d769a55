/-
# The websocket hub in runs of steps that fit

`sebastian/controller/ws/wsconn/hub.go` and `ws_conn.go`.  In a run of steps that
fit no `Close` that waits for the mutex of the hub holds a write lock that the
call with the mutex has still to take, and that call waits for room only where
the write worker goes on (`Guarded.step`).  So the hub is never stuck
(`notStuck_of_fits`).  In `not_notStuck` a broadcast and a `Close` wait for each
other.
-/

import Sebastian.Wsconn.Hub

namespace Sebastian
namespace Wsconn

open List Function

variable {κ : Type*} [DecidableEq κ] {projectId : κ → ℤ} {hub hub' : Hub κ} {label : Label κ}

/-- The connection is in one of the maps of the hub. -/
def Known (hub : Hub κ) (id : κ) : Prop :=
  id ∈ hub.connections ∨ id ∈ hub.systemMap ∨ ∃ projectId, id ∈ hub.projectIdMap projectId

/-- A connection that does not keep the call with the mutex waiting for ever. -/
structure ConnGuarded (hub : Hub κ) (id : κ) (conn : WsConn) : Prop where
  held : conn.writeLock = some .write ↔
    ∃ rest, hub.mutex = some { todo := id :: rest, locked := true }
  closer : conn.writeLock = some .close ↔ conn.closing = .atHub ∨ conn.closing = .removed
  free : ∀ sender, hub.mutex = some sender → id ∈ sender.todo → conn.closing ≠ .atHub
  room : ∀ rest, hub.mutex = some { todo := id :: rest, locked := true } →
    conn.isClosed = true ∨ conn.writeChan < defaultWriteChannelSize ∨ conn.worker ≠ .stopped
  closers : 0 < conn.closers → conn.closing ≠ .notCalled
  bounded : conn.writeChan ≤ defaultWriteChannelSize
  added : Known hub id ∨ (∃ sender, hub.mutex = some sender ∧ id ∈ sender.todo) →
    conn.added = true

/-- **What holds in a run of steps that fit.** -/
structure Guarded (hub : Hub κ) : Prop where
  todo : ∀ sender, hub.mutex = some sender → sender.todo ≠ []
  conns : ∀ id, ConnGuarded hub id (hub.conns id)

namespace Hub

variable {id : κ} {conn : WsConn} {todo : List κ} {sender : Sender κ}

omit [DecidableEq κ] in
theorem goOn_mutex : (hub.goOn todo).mutex = some sender ↔
    todo ≠ [] ∧ sender = { todo := todo } := by
  cases todo with
  | nil => simp [goOn]
  | cons id rest => simp [goOn, eq_comm]

omit [DecidableEq κ] in
theorem goOn_conns : (hub.goOn todo).conns = hub.conns := by cases todo <;> rfl

omit [DecidableEq κ] in
theorem known_goOn : Known (hub.goOn todo) id ↔ Known hub id := by cases todo <;> rfl

theorem setConn_self : (hub.setConn id conn).conns id = conn := update_self ..

theorem setConn_of_ne {id' : κ} (h : id' ≠ id) : (hub.setConn id conn).conns id' = hub.conns id' :=
  update_of_ne h ..

end Hub

/-- A connection changes in a way that keeps its guards. -/
theorem Guarded.setConn (h : Guarded hub) {id : κ} {conn : WsConn}
    (hconn : ConnGuarded hub id conn) : Guarded (hub.setConn id conn) where
  todo := h.todo
  conns id' := by
    by_cases hid : id' = id
    · subst hid
      rw [Hub.setConn_self]
      exact ⟨hconn.held, hconn.closer, hconn.free, hconn.room, hconn.closers, hconn.bounded,
        hconn.added⟩
    · rw [Hub.setConn_of_ne hid]
      have hold := h.conns id'
      exact ⟨hold.held, hold.closer, hold.free, hold.room, hold.closers, hold.bounded, hold.added⟩

omit [DecidableEq κ] in
/-- A call goes on, or gives the mutex back, with the write locks of all connections free of it. -/
theorem Guarded.goOn {todo : List κ} (hheld : ∀ id, (hub.conns id).writeLock ≠ some .write)
    (hcloser : ∀ id, (hub.conns id).writeLock = some .close ↔
      (hub.conns id).closing = .atHub ∨ (hub.conns id).closing = .removed)
    (hfree : ∀ id ∈ todo, (hub.conns id).closing ≠ .atHub)
    (hclosers : ∀ id, 0 < (hub.conns id).closers → (hub.conns id).closing ≠ .notCalled)
    (hbd : ∀ id, (hub.conns id).writeChan ≤ defaultWriteChannelSize)
    (hadded : ∀ id, Known hub id ∨ id ∈ todo → (hub.conns id).added = true) :
    Guarded (hub.goOn todo) where
  todo sender hsender := by
    obtain ⟨hne, rfl⟩ := Hub.goOn_mutex.1 hsender
    exact hne
  conns id := by
    rw [Hub.goOn_conns]
    have hunlocked : ∀ rest,
        (hub.goOn todo).mutex ≠ some { todo := id :: rest, locked := true } := by
      intro rest hsender
      obtain ⟨-, e⟩ := Hub.goOn_mutex.1 hsender
      cases congrArg Sender.locked e
    refine ⟨iff_of_false (hheld id) fun ⟨rest, hrest⟩ => hunlocked rest hrest, hcloser id,
      fun sender hsender hid => ?_, fun rest hrest => absurd hrest (hunlocked rest), hclosers id,
      hbd id, fun hknown => hadded id ?_⟩
    · obtain ⟨-, rfl⟩ := Hub.goOn_mutex.1 hsender
      exact hfree id hid
    · rcases hknown with hknown | ⟨sender, hsender, hid⟩
      · exact .inl (Hub.known_goOn.1 hknown)
      · obtain ⟨-, rfl⟩ := Hub.goOn_mutex.1 hsender
        exact .inr hid

/-- A connection that is added is marked, and no other one becomes known. -/
theorem known_addConnection {id id' : κ} (h : Known (hub.addConnection projectId id) id') :
    Known hub id' ∨ id' = id := by
  unfold Hub.addConnection at h
  have hins : ∀ {l : List κ}, id' ∈ l.insert id → id' = id ∨ id' ∈ l := mem_insert_iff.1
  split_ifs at h with hnone
  · rcases h with h | h | h
    · exact (hins h).symm.imp_left .inl
    · exact (hins h).symm.imp_left fun h => .inr (.inl h)
    · exact .inl (.inr (.inr h))
  · rcases h with h | h | ⟨p, h⟩
    · exact (hins h).symm.imp_left .inl
    · exact .inl (.inr (.inl h))
    · by_cases hp : p = projectId id
      · subst hp
        simp only [update_self, mem_append, mem_singleton] at h
        exact h.imp_left fun h => .inr (.inr ⟨_, h⟩)
      · simp only [update_of_ne hp] at h
        exact .inl (.inr (.inr ⟨p, h⟩))

theorem addConnection_conns {id : κ} : (hub.addConnection projectId id).conns =
    update hub.conns id { hub.conns id with added := true } := by
  unfold Hub.addConnection
  split_ifs <;> rfl

/-- A call changes nothing before it writes, except that a connection may be added. -/
theorem prepare_conns (projectId : κ → ℤ) (hub : Hub κ) (op : Op κ) (id : κ) : ∃ added,
    (hub.prepare projectId op).conns id = { hub.conns id with added := added } ∧
      ((hub.conns id).added = true → added = true) := by
  cases op with
  | addConnection id' =>
    rw [Hub.prepare, addConnection_conns]
    by_cases hid : id = id'
    · subst hid
      exact ⟨true, update_self .., fun _ => rfl⟩
    · exact ⟨_, update_of_ne hid .., fun h => h⟩
  | _ => exact ⟨_, rfl, fun h => h⟩

theorem added_prepare {op : Op κ} {id : κ} (h : ∀ id, Known hub id → (hub.conns id).added = true)
    (hknown : Known (hub.prepare projectId op) id) :
    ((hub.prepare projectId op).conns id).added = true := by
  obtain ⟨added, hconn, hadded⟩ := prepare_conns projectId hub op id
  cases op with
  | addConnection id' =>
    rcases known_addConnection hknown with hknown | rfl
    · rw [hconn]
      exact hadded (h id hknown)
    · rw [Hub.prepare, addConnection_conns, update_self]
  | _ => exact h id hknown

theorem Hub.Targets.known {op : Op κ} {targets : List κ} {id : κ} (h : hub.Targets targets op)
    (hid : id ∈ targets) : Known hub id := by
  cases op with
  | broadcast => exact .inl (h.mem_iff.1 hid)
  | multicast connIds =>
    obtain rfl : targets = _ := h
    exact .inl (of_decide_eq_true (mem_filter.1 hid).2)
  | unicast connId =>
    obtain rfl : targets = _ := h
    exact .inl (of_decide_eq_true (mem_filter.1 hid).2)
  | multicastToSpecifiedProjectId p =>
    obtain rfl : targets = _ := h
    exact .inr (.inr ⟨p, hid⟩)
  | multicastToSystem => exact .inr (.inl (h.mem_iff.1 hid))
  | count =>
    obtain rfl : targets = _ := h
    exact absurd hid not_mem_nil
  | addConnection _ =>
    obtain rfl : targets = _ := h
    exact absurd hid not_mem_nil

/-- No connection becomes known when one is removed. -/
theorem known_removeConnection {id id' : κ} (h : Known (hub.removeConnection projectId id) id') :
    Known hub id' := by
  unfold Hub.removeConnection at h
  split_ifs at h with hmem hnone
  · exact h.imp mem_of_mem_filter (.imp_left mem_of_mem_filter)
  · refine h.imp mem_of_mem_filter (.imp_right ?_)
    rintro ⟨p, hp⟩
    by_cases hproj : p = projectId id
    · subst hproj
      simp only [update_self] at hp
      exact ⟨_, mem_of_mem_erase hp⟩
    · simp only [update_of_ne hproj] at hp
      exact ⟨p, hp⟩
  · exact h

theorem removeConnection_conns {id : κ} :
    (hub.removeConnection projectId id).conns = hub.conns := by
  unfold Hub.removeConnection
  split_ifs <;> rfl

theorem removeConnection_mutex {id : κ} :
    (hub.removeConnection projectId id).mutex = hub.mutex := by
  unfold Hub.removeConnection
  split_ifs <;> rfl

/-- A call takes the mutex and finds whom it writes to. -/
theorem Guarded.enter {waiting : Multiset (Op κ)} {op : Op κ} {targets : List κ} (h : Guarded hub)
    (hmutex : hub.mutex = none) (htargets : hub.Targets targets op)
    (hfits : Fits hub (.enter op targets)) :
    Guarded (({ hub with waiting := waiting }.prepare projectId op).goOn targets) := by
  have hconn := prepare_conns projectId { hub with waiting := waiting } op
  have hknown : ∀ id, Known { hub with waiting := waiting } id →
      (hub.conns id).added = true := fun id hid => (h.conns id).added (.inl hid)
  refine .goOn (fun id => ?_) (fun id => ?_) (fun id hid => ?_) (fun id => ?_) (fun id => ?_)
    fun id hid => ?_
  · obtain ⟨added, e, -⟩ := hconn id
    rw [e]
    intro hlock
    obtain ⟨rest, hrest⟩ := (h.conns id).held.1 hlock
    rw [hmutex] at hrest
    cases hrest
  · obtain ⟨added, e, -⟩ := hconn id
    rw [e]
    exact (h.conns id).closer
  · obtain ⟨added, e, -⟩ := hconn id
    rw [e]
    exact hfits id hid
  · obtain ⟨added, e, -⟩ := hconn id
    rw [e]
    exact (h.conns id).closers
  · obtain ⟨added, e, -⟩ := hconn id
    rw [e]
    exact (h.conns id).bounded
  · rcases hid with hid | hid
    · exact added_prepare hknown hid
    · obtain ⟨added, e, hadded⟩ := hconn id
      rw [e]
      exact hadded (hknown id (htargets.known hid))

/-- The call with the mutex takes the write lock of its next connection. -/
theorem Guarded.lock {id : κ} {rest : List κ} (h : Guarded hub)
    (hmutex : hub.mutex = some { todo := id :: rest }) (hlock : (hub.conns id).writeLock = none)
    (hfits : Fits hub .lock) :
    Guarded ({ hub with mutex := some { todo := id :: rest, locked := true } }.setConn id
      { hub.conns id with writeLock := some .write }) := by
  have hold := h.conns id
  have hmem : id ∈ ({ todo := id :: rest } : Sender κ).todo := mem_cons_self
  have hnotClose : ¬((hub.conns id).closing = .atHub ∨ (hub.conns id).closing = .removed) := by
    rw [← hold.closer, hlock]
    nofun
  refine ⟨fun sender hsender => ?_, fun id' => ?_⟩
  · rw [← Option.some.inj hsender]
    nofun
  by_cases hid : id' = id
  · subst hid
    rw [Hub.setConn_self]
    refine ⟨iff_of_true rfl ⟨rest, rfl⟩, iff_of_false nofun hnotClose,
      fun _ _ _ => hold.free _ hmutex hmem, fun _ _ => hfits _ hmutex id' rfl, hold.closers,
      hold.bounded, fun _ => hold.added (.inr ⟨_, hmutex, hmem⟩)⟩
  · rw [Hub.setConn_of_ne hid]
    have hold' := h.conns id'
    refine ⟨iff_of_false (fun hwrite => ?_) (fun ⟨rest', hrest⟩ => ?_), hold'.closer,
      fun sender hsender hmem' => ?_, fun rest' hrest => ?_, hold'.closers, hold'.bounded,
      fun hadded => ?_⟩
    · obtain ⟨rest', hrest⟩ := hold'.held.1 hwrite
      rw [hmutex] at hrest
      cases hrest
    · cases hrest
      exact hid rfl
    · rw [← Option.some.inj hsender] at hmem'
      exact hold'.free _ hmutex hmem'
    · cases hrest
      exact absurd rfl hid
    · refine hold'.added (hadded.imp_right ?_)
      rintro ⟨sender, hsender, hmem'⟩
      rw [← Option.some.inj hsender] at hmem'
      exact ⟨_, hmutex, hmem'⟩

/-- The call with the mutex writes to a connection, gives its write lock back and goes on. -/
theorem Guarded.write {id : κ} {rest : List κ} (h : Guarded hub)
    (hmutex : hub.mutex = some { todo := id :: rest, locked := true })
    (hroom : (hub.conns id).isClosed ∨ (hub.conns id).writeChan < defaultWriteChannelSize) :
    Guarded ((hub.write id).goOn rest) := by
  have hlock : (hub.conns id).writeLock = some .write := (h.conns id).held.2 ⟨rest, hmutex⟩
  have hothers : ∀ id', id' ≠ id → (hub.conns id').writeLock ≠ some .write := by
    intro id' hid hwrite
    obtain ⟨rest', hrest⟩ := (h.conns id').held.1 hwrite
    rw [hmutex] at hrest
    cases hrest
    exact hid rfl
  have hconn : ∀ id', ((hub.write id).conns id').closing = (hub.conns id').closing ∧
      ((hub.write id).conns id').closers = (hub.conns id').closers ∧
      ((hub.write id).conns id').added = (hub.conns id').added := by
    intro id'
    by_cases hid : id' = id
    · subst hid
      rw [Hub.write, Hub.setConn_self]
      exact ⟨rfl, rfl, rfl⟩
    · rw [Hub.write, Hub.setConn_of_ne hid]
      exact ⟨rfl, rfl, rfl⟩
  refine .goOn (fun id' => ?_) (fun id' => ?_) (fun id' hid => ?_) (fun id' => ?_)
    (fun id' => ?_) fun id' hid => ?_
  · by_cases hid : id' = id
    · subst hid
      rw [Hub.write, Hub.setConn_self]
      nofun
    · rw [Hub.write, Hub.setConn_of_ne hid]
      exact hothers id' hid
  · rw [(hconn id').1, ← (h.conns id').closer]
    by_cases hid : id' = id
    · subst hid
      rw [Hub.write, Hub.setConn_self, hlock]
      exact iff_of_false nofun nofun
    · rw [Hub.write, Hub.setConn_of_ne hid]
  · rw [(hconn id').1]
    exact (h.conns id').free _ hmutex (mem_cons_of_mem _ hid)
  · rw [(hconn id').1, (hconn id').2.1]
    exact (h.conns id').closers
  · by_cases hid : id' = id
    · subst hid
      rw [Hub.write, Hub.setConn_self]
      show (if (hub.conns id').isClosed = true then _ else _) ≤ _
      split_ifs with hclos
      · exact (h.conns id').bounded
      · exact hroom.resolve_left hclos
    · rw [Hub.write, Hub.setConn_of_ne hid]
      exact (h.conns id').bounded
  · rw [(hconn id').2.2]
    exact (h.conns id').added
      (hid.imp_right fun hid => ⟨_, hmutex, mem_cons_of_mem _ hid⟩)

/-- A connection leaves the maps while no call has the mutex. -/
theorem Guarded.removeConnection {id : κ} (h : Guarded hub) (hmutex : hub.mutex = none) :
    Guarded (hub.removeConnection projectId id) := by
  have hnone : ∀ sender, (hub.removeConnection projectId id).mutex ≠ some sender := by
    intro sender
    rw [removeConnection_mutex, hmutex]
    nofun
  refine ⟨fun sender hsender => absurd hsender (hnone sender), fun id' => ?_⟩
  have hold' := h.conns id'
  rw [removeConnection_conns]
  refine ⟨?_, hold'.closer, fun sender hsender => absurd hsender (hnone sender),
    fun rest hrest => absurd hrest (hnone _), hold'.closers, hold'.bounded, fun hadded => ?_⟩
  · rw [removeConnection_mutex]
    exact hold'.held
  · rcases hadded with hknown | ⟨sender, hsender, -⟩
    · exact hold'.added (.inl (known_removeConnection hknown))
    · exact absurd hsender (hnone sender)

/-- **Every step that fits keeps the guards.** -/
theorem Guarded.step (h : Guarded hub) (hstep : Step projectId hub label hub')
    (hfits : Fits hub label) : Guarded hub' := by
  cases hstep with
  | call op => exact ⟨h.todo, fun id => ⟨(h.conns id).held, (h.conns id).closer, (h.conns id).free,
      (h.conns id).room, (h.conns id).closers, (h.conns id).bounded, (h.conns id).added⟩⟩
  | close id =>
    have hold := h.conns id
    refine h.setConn ?_
    split_ifs with hnot
    · have hlock : (hub.conns id).writeLock ≠ some .close := fun hlock => by
        rcases hold.closer.1 hlock with hc | hc <;> rw [hnot] at hc <;> cases hc
      exact ⟨hold.held, iff_of_false hlock (by rintro (hc | hc) <;> cases hc), nofun, hold.room,
        nofun, hold.bounded, hold.added⟩
    · exact ⟨hold.held, hold.closer, hold.free, hold.room, fun _ => hnot, hold.bounded,
        hold.added⟩
  | enter hmutex _ htargets => exact h.enter hmutex htargets hfits
  | lock hmutex hlock => exact h.lock hmutex hlock hfits
  | write hmutex hroom => exact h.write hmutex hroom
  | @closeLock id hclosing hlock =>
    have hold := h.conns id
    refine h.setConn ⟨iff_of_false nofun fun ⟨rest, hrest⟩ => ?_, iff_of_true rfl (.inl rfl),
      fun sender hsender hid => absurd hid (hfits sender hsender), fun _ _ => .inl rfl, nofun,
      hold.bounded,
      hold.added⟩
    exact hfits _ hrest mem_cons_self
  | @closeRemove id hclosing hmutex =>
    have hremd : Guarded (hub.removeConnection projectId id) := h.removeConnection hmutex
    have hconn := hremd.conns id
    rw [removeConnection_conns] at hconn
    exact hremd.setConn ⟨hconn.held, iff_of_true ((h.conns id).closer.2 (.inl hclosing)) (.inr rfl),
      nofun, hconn.room, nofun, hconn.bounded, hconn.added⟩
  | @closeDone id hclosing =>
    have hold := h.conns id
    refine h.setConn ⟨iff_of_false nofun ?_, iff_of_false nofun (by rintro (hc | hc) <;> cases hc),
      nofun, hold.room, nofun, hold.bounded, hold.added⟩
    rw [← hold.held, hold.closer.2 (.inr hclosing)]
    nofun
  | @closeReturn id hclosing hclosers =>
    have hold := h.conns id
    exact h.setConn ⟨hold.held, hold.closer, hold.free, hold.room,
      fun _ => hold.closers hclosers, hold.bounded, hold.added⟩
  | @start id hworker hadded =>
    have hold := h.conns id
    exact h.setConn ⟨hold.held, hold.closer, hold.free, fun _ _ => .inr (.inr nofun),
      hold.closers, hold.bounded, hold.added⟩
  | @receive id hworker hmsg =>
    have hold := h.conns id
    refine h.setConn ⟨hold.held, hold.closer, hold.free, fun _ _ => .inr (.inr ?_),
      hold.closers, (Nat.sub_le _ _).trans hold.bounded, hold.added⟩
    rw [hworker]
    nofun
  | @stop id hworker =>
    have hold := h.conns id
    exact h.setConn ⟨hold.held, hold.closer, hold.free,
      fun rest hrest => (hfits rest hrest).imp_right .inl, hold.closers, hold.bounded, hold.added⟩

/-! ### The hub is not stuck -/

omit [DecidableEq κ] in
/-- A `Close` that the call with the mutex waits for does not wait. -/
theorem Guarded.not_waitsFor (h : Guarded hub) {id : κ} (hwaits : WaitsFor hub .sender (.closer id))
    {party : Party κ} : ¬WaitsFor hub (.closer id) party := by
  cases hwaits with
  | writeLock hmutex hlock =>
    have hfree := (h.conns id).free _ hmutex mem_cons_self
    intro hcloser
    cases hcloser with
    | hubMutex hclosing => exact hfree hclosing
    | lockedBySender hclosing =>
      rcases (h.conns id).closer.1 hlock with hc | hc <;> rw [hclosing] at hc <;> cases hc

omit [DecidableEq κ] in
/-- **No lock holders wait in a circle.** -/
theorem Guarded.noCycle (h : Guarded hub) (party : Party κ) :
    ¬Relation.TransGen (WaitsFor hub) party party := by
  have hsender : ¬Relation.TransGen (WaitsFor hub) .sender .sender := by
    intro hcycle
    obtain ⟨next, hfirst, hrest⟩ := Relation.TransGen.head'_iff.1 hcycle
    cases next with
    | sender => cases hfirst
    | closer id =>
      rcases Relation.ReflTransGen.cases_head hrest with hend | ⟨next, hnext, -⟩
      · cases hend
      · exact h.not_waitsFor hfirst hnext
  intro hcycle
  cases party with
  | sender => exact hsender hcycle
  | closer id =>
    -- a closer waits for the sender only, so that the circle goes through the sender
    obtain ⟨next, hfirst, hrest⟩ := Relation.TransGen.head'_iff.1 hcycle
    cases next with
    | sender => exact hsender (Relation.TransGen.tail' hrest hfirst)
    | closer _ => cases hfirst

omit [DecidableEq κ] in
theorem Guarded.not_waitsForStopped (h : Guarded hub) : ¬WaitsForStopped hub := by
  rintro ⟨id, rest, hmutex, hopen, hfull, hstopped⟩
  rcases (h.conns id).room rest hmutex with hclos | hroom | hworker
  · rw [hopen] at hclos
    cases hclos
  · omega
  · exact hworker hstopped

/-- Some call has a step to take, after its write worker has made room. -/
def Moves (projectId : κ → ℤ) (hub : Hub κ) : Prop :=
  ∃ run, Along (fun s l t => Step projectId s l t ∧ l.OfWorker) hub run ∧
    ∃ state ∈ statesOfRun hub run, ∃ label next, Step projectId state label next ∧ label.OfCall

theorem Moves.now {next : Hub κ} (hstep : Step projectId hub label next) (hcall : label.OfCall) :
    Moves projectId hub :=
  ⟨[], trivial, hub, mem_cons_self, label, next, hstep, hcall⟩

theorem Moves.worker {next : Hub κ} (hstep : Step projectId hub label next)
    (hworker : label.OfWorker) (h : Moves projectId next) : Moves projectId hub := by
  obtain ⟨run, hrun, state, hstate, hmoves⟩ := h
  exact ⟨(label, next) :: run, ⟨⟨hstep, hworker⟩, hrun⟩, state, mem_cons_of_mem _ hstate,
    hmoves⟩

/-- A call that has a write lock writes, at most after the write worker has received a message. -/
theorem Guarded.moves_of_locked (h : Guarded hub) {id : κ} {rest : List κ}
    (hmutex : hub.mutex = some { todo := id :: rest, locked := true }) :
    Moves projectId hub := by
  have hconn := h.conns id
  by_cases hroom : (hub.conns id).isClosed ∨ (hub.conns id).writeChan < defaultWriteChannelSize
  · exact .now (.write hmutex hroom) trivial
  have hfull : (hub.conns id).writeChan = defaultWriteChannelSize := by
    have hle := hconn.bounded
    have hnot := fun hlt => hroom (.inr hlt)
    omega
  have hrecv : ∀ hub' : Hub κ, hub'.mutex = hub.mutex → (hub'.conns id).worker = .running →
      (hub'.conns id).writeChan = (hub.conns id).writeChan → Moves projectId hub' := by
    intro hub' hmutex' hrunning hchan
    refine .worker (.receive hrunning (by rw [hchan, hfull]; decide)) trivial
      (.now (.write (hmutex'.trans hmutex) (.inr ?_)) trivial)
    rw [Hub.setConn_self, hchan, hfull]
    exact Nat.sub_lt (by decide) (by decide)
  cases hworker : (hub.conns id).worker with
  | running => exact hrecv hub rfl hworker rfl
  | stopped =>
    rcases hconn.room rest hmutex with hclos | hlt | hne
    · exact absurd (.inl hclos) hroom
    · exact absurd (.inr hlt) hroom
    · exact absurd hworker hne
  | notStarted =>
    have hadded := hconn.added (.inr ⟨_, hmutex, mem_cons_self⟩)
    refine .worker (.start hworker hadded) trivial (hrecv _ rfl ?_ ?_) <;>
      rw [Hub.setConn_self]

theorem Hub.exists_targets (hub : Hub κ) (op : Op κ) : ∃ targets, hub.Targets targets op := by
  cases op with
  | broadcast => exact ⟨hub.connections, .refl _⟩
  | multicastToSystem => exact ⟨hub.systemMap, .refl _⟩
  | _ => exact ⟨_, rfl⟩

/-- **A pending call has a step to take**, at most after its write worker has made room. -/
theorem Guarded.moves (h : Guarded hub) (hpending : Pending hub) : Moves projectId hub := by
  cases hmutex : hub.mutex with
  | some sender =>
    obtain ⟨todo, locked⟩ := sender
    cases todo with
    | nil => exact absurd rfl (h.todo _ hmutex)
    | cons id rest =>
      cases locked with
      | true => exact h.moves_of_locked hmutex
      | false =>
        cases hlock : (hub.conns id).writeLock with
        | none => exact .now (.lock hmutex hlock) trivial
        | some writer =>
          cases writer with
          | write =>
            obtain ⟨rest', hrest⟩ := (h.conns id).held.1 hlock
            rw [hmutex] at hrest
            cases hrest
          | close =>
            rcases (h.conns id).closer.1 hlock with hclosing | hclosing
            · exact absurd hclosing ((h.conns id).free _ hmutex mem_cons_self)
            · exact .now (.closeDone hclosing) trivial
  | none =>
    rcases hpending with hwait | hne | ⟨id, hid⟩
    · obtain ⟨op, hop⟩ := Multiset.exists_mem_of_ne_zero hwait
      obtain ⟨waiting, hwait⟩ := Multiset.exists_cons_of_mem hop
      obtain ⟨targets, htargets⟩ := hub.exists_targets op
      exact .now (.enter hmutex hwait htargets) trivial
    · exact absurd hmutex hne
    · have hconn := h.conns id
      cases hclosing : (hub.conns id).closing with
      | notCalled =>
        rcases hid with hid | hid
        · exact absurd (by rw [hclosing]; exact mem_cons_self) hid
        · exact absurd hclosing (hconn.closers hid)
      | atWriteLock =>
        refine .now (.closeLock hclosing ?_) trivial
        cases hlock : (hub.conns id).writeLock with
        | none => rfl
        | some writer =>
          cases writer with
          | write =>
            obtain ⟨rest, hrest⟩ := hconn.held.1 hlock
            rw [hmutex] at hrest
            cases hrest
          | close =>
            rcases hconn.closer.1 hlock with hc | hc <;> rw [hclosing] at hc <;> cases hc
      | atHub => exact .now (.closeRemove hclosing hmutex) trivial
      | removed => exact .now (.closeDone hclosing) trivial
      | done =>
        refine .now (.closeReturn hclosing (hid.resolve_left fun hid => hid ?_)) trivial
        rw [hclosing]
        exact mem_cons_of_mem _ mem_cons_self

omit [DecidableEq κ] in
theorem guarded_newWsConnectionHub : Guarded ({} : Hub κ) where
  todo := nofun
  conns id := by
    refine ⟨iff_of_false nofun nofun, iff_of_false nofun (by rintro (hc | hc) <;> cases hc), nofun,
      nofun, nofun, Nat.zero_le _, ?_⟩
    rintro ((hid | hid | ⟨_, hid⟩) | ⟨_, hsender, -⟩)
    · exact absurd hid not_mem_nil
    · exact absurd hid not_mem_nil
    · exact absurd hid not_mem_nil
    · cases hsender

/-- **The hub is never stuck in a run of steps that fit.** -/
theorem notStuck_of_fits {run : List (Label κ × Hub κ)} (h : Along (Step projectId) {} run)
    (hfits : Along (fun state label _ => Fits state label) {} run) :
    ∀ state ∈ statesOfRun {} run, NotStuck projectId state := by
  have hinv : ∀ state ∈ statesOfRun {} run, Guarded state := by
    refine (Along.and_iff.2 ⟨h, hfits⟩).rule guarded_newWsConnectionHub ?_
    rintro state label next ⟨hstep, hfit⟩ hguarded
    exact hguarded.step hstep hfit
  intro state hstate
  have hguarded := hinv state hstate
  exact ⟨hguarded.noCycle, hguarded.not_waitsForStopped, hguarded.moves⟩

/-! ### A broadcast and a close -/

/-- A connection is added and gets a message. -/
theorem notStuck_of_fits_broadcast : ∃ run : List (Label Unit × Hub Unit),
    (run.map (·.1) = [.call (.addConnection ()), .enter (.addConnection ()) [], .call .broadcast,
      .enter .broadcast [()], .lock, .write] ∧
      Along (Step fun _ => projectIdNone) {} run ∧
      Along (fun state label _ => Fits state label) {} run) ∧
      ∀ state ∈ statesOfRun {} run, NotStuck (fun _ => projectIdNone) state := by
  have hrun : ∃ run : List (Label Unit × Hub Unit),
      run.map (·.1) = [.call (.addConnection ()), .enter (.addConnection ()) [], .call .broadcast,
        .enter .broadcast [()], .lock, .write] ∧
      Along (Step fun _ => projectIdNone) {} run ∧
      Along (fun state label _ => Fits state label) {} run := by
    refine ⟨[(_, _), (_, _), (_, _), (_, _), (_, _), (_, _)], rfl,
      ⟨.call _, @Step.enter _ _ _ _ 0 _ _ rfl rfl rfl, .call _,
        @Step.enter _ _ _ _ 0 _ _ rfl rfl (.refl _), .lock rfl rfl,
        .write rfl (.inr (Nat.succ_pos 15)), trivial⟩,
      trivial, nofun, trivial, fun id _ => ?_, fun sender _ id _ => .inr (.inl ?_), trivial,
      trivial⟩
    · cases id
      nofun
    · cases id
      exact Nat.succ_pos 15
  obtain ⟨run, hlabels, hsteps, hfits⟩ := hrun
  exact ⟨run, ⟨hlabels, hsteps, hfits⟩, notStuck_of_fits hsteps hfits⟩

/-- A broadcast has the mutex of the hub when a connection that it has still to write to is
closed: the one waits for the write lock, the other for the mutex. -/
theorem not_notStuck : ∃ run : List (Label Unit × Hub Unit),
    Along (Step fun _ => projectIdNone) {} run ∧
      ¬∀ state ∈ statesOfRun {} run, NotStuck (fun _ => projectIdNone) state := by
  refine ⟨[(.call (.addConnection ()), _), (.enter (.addConnection ()) [], _),
    (.call .broadcast, _), (.enter .broadcast [()], _), (.close (), _), (.closeLock (), _)],
    ⟨.call _, @Step.enter _ _ _ _ 0 _ _ rfl rfl rfl, .call _,
      @Step.enter _ _ _ _ 0 _ _ rfl rfl (.refl _), .close _, .closeLock rfl rfl, trivial⟩,
    fun hall => ?_⟩
  have hstuck := hall _ (by
    simp only [statesOfRun, map_cons, mem_cons]
    exact .inr (.inr (.inr (.inr (.inr (.inr (.inl rfl)))))))
  refine hstuck.noCycle .sender (.tail (.single (.writeLock rfl rfl)) (.hubMutex rfl rfl))

end Wsconn
end Sebastian
