/-
# Every run of a batch

`sebastian/modules/scan/scanner_default_batch_job_runner.go`.  The dispatching loop
is the only caller of the pool (`Served`), and every job is in one place on its way
from the producer to the workers (`Inv`).  A token of a semaphore belongs to a job
that has not released yet and is in the pool, so a worker has a step to take when
the loop waits for the semaphore, for room in the pool or for its end
(`Inv.progress`).  Every step takes a job further, and their number is bounded
(`Inv.steps_lt`).
-/

import Sebastian.Scan.BatchQuery
import Sebastian.Workerpool.Progress

namespace Sebastian
namespace Scan

open List

open Workerpool (Pool Books Op)

variable {α : Type} {numbers : List ℕ} {job : QueryJob} {tokens : ℕ}
  {walk : List (ℤ × ScannedDevice)}

variable {total perDevice : ℤ} {size workerCount : ℕ} {jobs : List QueryJob} {batch next : Batch}
  {pool pool' : Pool}
  {label : Label}

/-! ### Jobs by their numbers -/

theorem filterMap_range_getElem? (l : List α) : (range l.length).filterMap (l[·]?) = l := by
  induction l with
  | nil => rfl
  | cons a l ih =>
    rw [length_cons, range_succ_eq_map, filterMap_cons, filterMap_map]
    exact congrArg (a :: ·) ih

/-- Different places of a list hold no more than it has. -/
theorem subperm_filterMap_getElem? {l : List α} (hnodup : numbers.Nodup)
    (hlt : ∀ n ∈ numbers, n < l.length) : (numbers.filterMap (l[·]?)).Subperm l := by
  have hsub : numbers.Subperm (range l.length) :=
    hnodup.subperm fun n hn => mem_range.2 (hlt n hn)
  obtain ⟨numbers', hperm, hsublist⟩ := hsub
  refine ⟨numbers'.filterMap (l[·]?), hperm.filterMap _, ?_⟩
  have hsublist' := hsublist.filterMap (l[·]?)
  rwa [filterMap_range_getElem?] at hsublist'

theorem perm_filterMap_getElem? {l : List α} (hnodup : numbers.Nodup)
    (hmem : ∀ n, n ∈ numbers ↔ n < l.length) : (numbers.filterMap (l[·]?)).Perm l := by
  have hperm : numbers.Perm (range l.length) :=
    (perm_ext_iff_of_nodup hnodup nodup_range).2 fun n => by
      rw [mem_range]
      exact hmem n
  have hperm' := hperm.filterMap (l[·]?)
  rwa [filterMap_range_getElem?] at hperm'

/-! ### The pool of a batch -/

/-- The call of the pool in which the dispatching loop is. -/
def Dispatcher.op : Dispatcher → Option Op
  | .addJob _ => some (.addJob (.mk []))
  | .waitAndClose => some .waitAndClose
  | _ => none

/-- One call at most has been made, from outside, and it waits for the mutex or holds it. -/
def Calling (op : Option Op) (pool : Pool) : Prop :=
  match op with
  | none => pool.waiting = 0 ∧ pool.holder = none
  | some op => pool.waiting = {{ op := op }} ∧ pool.holder = none ∨
    pool.waiting = 0 ∧ pool.holder = some { op := op }

/-- **The pool of a batch**: the dispatching loop is its one caller, its jobs add no jobs, and its
workers stay until it is closed. -/
structure Served (workerCount : ℕ) (dispatcher : Dispatcher) (pool : Pool) : Prop where
  books : Books pool
  jobs : ∀ job ∈ pool.jobs, job.2 = .mk []
  workers : ∀ job, .running job ∈ pool.workers → job.adds = []
  calling : Calling dispatcher.op pool
  card_le : pool.workers.card ≤ workerCount
  opened : dispatcher ≠ .done →
    pool.isClosed = false ∧ pool.cancelled = false ∧ pool.workers.card = workerCount
  rest : dispatcher = .done → pool.jobs = [] ∧ pool.active = 0

/-- The same jobs have been taken in, begun and finished. -/
structure SameBooks (pool pool' : Pool) : Prop where
  accepted : pool'.accepted = pool.accepted
  started : pool'.started = pool.started
  finished : pool'.finished = pool.finished

variable {dispatcher : Dispatcher}

theorem Served.active_eq (h : Served workerCount dispatcher pool) :
    pool.active = (pool.workers.map Workerpool.Worker.jobs).sum := by
  have hcalling := h.calling
  unfold Workerpool.Pool.active
  cases hop : dispatcher.op with
  | none =>
    rw [hop] at hcalling
    obtain ⟨hwait, hhold⟩ := hcalling
    rw [hwait, hhold]
    simp
  | some op =>
    rw [hop] at hcalling
    rcases hcalling with ⟨hwait, hhold⟩ | ⟨hwait, hhold⟩ <;>
    · rw [hwait, hhold]
      simp

/-- **The jobs that run are no more than the workers.** -/
theorem Served.card_active_le (h : Served workerCount dispatcher pool) :
    pool.active.card ≤ workerCount := by
  have hsum : ∀ workers : Multiset Workerpool.Worker,
      (workers.map Workerpool.Worker.jobs).sum.card ≤ workers.card := by
    intro workers
    induction workers using Multiset.induction with
    | empty => exact le_rfl
    | cons worker workers ih =>
      rw [Multiset.map_cons, Multiset.sum_cons, Multiset.card_add, Multiset.card_cons]
      cases worker with
      | idle => simpa using ih.trans (Nat.le_succ _)
      | running job =>
        rw [Workerpool.Worker.jobs_running, Multiset.card_singleton]
        omega
  rw [h.active_eq]
  exact (hsum _).trans h.card_le

/-- A job that is taken in and not finished is in the channel or on a worker. -/
theorem Served.mem_places (h : Served workerCount dispatcher pool) {number : ℕ}
    (hlt : number < pool.accepted) (hnot : number ∉ pool.finished) :
    pool.jobs ≠ [] ∨ pool.active ≠ 0 := by
  by_contra hnone
  rw [not_or, not_not, not_not] at hnone
  have hmem : number ∈ Multiset.range pool.accepted := Multiset.mem_range.2 hlt
  rw [← h.books.places, hnone.1, hnone.2] at hmem
  exact hnot (by simpa using hmem)

theorem Served.lt_of_started (h : Served workerCount dispatcher pool) {number : ℕ}
    (hmem : number ∈ pool.started) : number < pool.accepted := by
  rw [h.books.started] at hmem
  rw [← Multiset.mem_range, ← h.books.places, add_assoc]
  exact Multiset.mem_add.2 (.inr hmem)

theorem Served.call (h : Served workerCount dispatcher pool) (hnone : dispatcher.op = none)
    (hdone : dispatcher ≠ .done) (dispatcher' : Dispatcher) {op : Op}
    (hop : dispatcher'.op = some op) (hstep : Workerpool.Step size pool (.call op) pool') :
    Served workerCount dispatcher' pool' ∧ SameBooks pool pool' := by
  have hbooks := h.books.step hstep
  have hcalling := h.calling
  rw [hnone] at hcalling
  cases hstep with
  | call =>
    refine ⟨⟨hbooks, h.jobs, h.workers, ?_, h.card_le, fun _ => h.opened hdone, ?_⟩, rfl, rfl, rfl⟩
    · rw [hop]
      exact .inl ⟨by rw [hcalling.1]; rfl, hcalling.2⟩
    · rintro rfl
      cases hop

theorem eq_of_cons_eq_singleton {a b : α} {s : Multiset α} (h : a ::ₘ s = {b}) : a = b ∧ s = 0 := by
  have hcard := congrArg Multiset.card h
  rw [Multiset.card_cons, Multiset.card_singleton] at hcard
  obtain rfl := Multiset.card_eq_zero.1 (Nat.succ.inj hcard)
  exact ⟨Multiset.singleton_inj.1 h, rfl⟩

theorem Calling.of_waiting {op : Option Op} {call : Workerpool.Call}
    {waiting : Multiset Workerpool.Call} (h : Calling op pool)
    (hwait : pool.waiting = call ::ₘ waiting) :
    ∃ o, op = some o ∧ call = { op := o } ∧ waiting = 0 := by
  cases op with
  | none =>
    obtain ⟨hnone, -⟩ := h
    rw [hwait] at hnone
    exact absurd hnone Multiset.cons_ne_zero
  | some o =>
    rcases h with ⟨hone, -⟩ | ⟨hnone, -⟩
    · rw [hwait] at hone
      obtain ⟨rfl, rfl⟩ := eq_of_cons_eq_singleton hone
      exact ⟨o, rfl, rfl, rfl⟩
    · rw [hwait] at hnone
      exact absurd hnone Multiset.cons_ne_zero

theorem Calling.of_holder {op : Option Op} {call : Workerpool.Call} (h : Calling op pool)
    (hhold : pool.holder = some call) :
    ∃ o, op = some o ∧ call = { op := o } ∧ pool.waiting = 0 := by
  cases op with
  | none =>
    obtain ⟨-, hnone⟩ := h
    cases hhold.symm.trans hnone
  | some o =>
    rcases h with ⟨-, hnone⟩ | ⟨hwait, hheld⟩
    · cases hhold.symm.trans hnone
    · obtain rfl := Option.some.inj (hhold.symm.trans hheld)
      exact ⟨o, rfl, rfl, hwait⟩

theorem ne_done_of_op {op : Op} (h : dispatcher.op = some op) : dispatcher ≠ .done := by
  rintro rfl
  cases h

theorem Served.enter (h : Served workerCount dispatcher pool) {call : Workerpool.Call}
    (hstep : Workerpool.Step size pool (.enter call) pool') :
    Served workerCount dispatcher pool' ∧ SameBooks pool pool' ∧ pool.isClosed = false := by
  have hbooks := h.books.step hstep
  cases hstep with
  | @enter waiting _ hhold hwait =>
    obtain ⟨op, hop, rfl, rfl⟩ := h.calling.of_waiting hwait
    have hopen := h.opened (ne_done_of_op hop)
    have hrest : ∀ pool' : Pool, dispatcher = .done → pool'.jobs = [] ∧ pool'.active = 0 :=
      fun _ hdone => absurd hdone (ne_done_of_op hop)
    -- it is one of the two calls that the loop makes, of a pool that is not closed
    have henter : ∃ wg, Pool.enter { pool with waiting := 0 } { op := op } =
        { pool with waiting := 0, wg := wg, holder := some { op := op } } := by
      cases dispatcher <;> cases hop
      · exact ⟨pool.wg + 1, by simp [Pool.enter, hopen.1]⟩
      · exact ⟨pool.wg, by simp [Pool.enter, hopen.1]⟩
    obtain ⟨wg, henter⟩ := henter
    rw [henter] at hbooks ⊢
    refine ⟨⟨hbooks, h.jobs, h.workers, ?_, h.card_le, fun _ => hopen, hrest _⟩, ⟨rfl, rfl, rfl⟩,
      hopen.1⟩
    rw [hop]
    exact .inr ⟨rfl, rfl⟩

theorem Served.send (h : Served workerCount (.addJob job) pool)
    (hstep : Workerpool.Step size pool .send pool') :
    Served workerCount .range pool' ∧ pool'.accepted = pool.accepted + 1 ∧
      pool'.started = pool.started ∧ pool'.finished = pool.finished := by
  have hbooks := h.books.step hstep
  have hopen := h.opened nofun
  cases hstep with
  | send hhold hop _ =>
    obtain ⟨_, ho, rfl, hwait⟩ := h.calling.of_holder hhold
    cases ho
    obtain rfl := Op.addJob.inj hop
    refine ⟨⟨hbooks, fun x hx => ?_, h.workers, ⟨hwait, rfl⟩, h.card_le, fun _ => hopen, nofun⟩,
      rfl, rfl, rfl⟩
    rcases mem_append.1 hx with hx | hx
    · exact h.jobs x hx
    · rw [mem_singleton.1 hx]

theorem Served.wake (h : Served workerCount dispatcher pool)
    (hstep : Workerpool.Step size pool .wake pool') :
    dispatcher = .waitAndClose ∧ Served workerCount .done pool' ∧ SameBooks pool pool' := by
  have hbooks := h.books.step hstep
  cases hstep with
  | wake hhold hop hwg =>
    obtain ⟨op, ho, rfl, hwait⟩ := h.calling.of_holder hhold
    have hdisp : dispatcher = .waitAndClose := by
      cases dispatcher <;> cases ho
      · exact absurd hop (by rintro (h | h) <;> cases h)
      · rfl
    subst hdisp
    cases ho
    have hcounted := h.books.counted
    have hjobs : pool.jobs = [] := eq_nil_of_length_eq_zero (by omega)
    have hact : pool.active = 0 := Multiset.card_eq_zero.1 (by omega)
    have hact' := h.active_eq.symm.trans hact
    refine ⟨rfl, ⟨hbooks, h.jobs, h.workers, ⟨hwait, rfl⟩, h.card_le, fun hne => absurd rfl hne,
      fun _ => ⟨hjobs, ?_⟩⟩, rfl, rfl, rfl⟩
    change (pool.workers.map Workerpool.Worker.jobs).sum +
      (pool.waiting.map Workerpool.Call.jobs).sum + 0 = 0
    rw [hact', hwait]
    rfl

theorem Served.receive (h : Served workerCount dispatcher pool)
    (hstep : Workerpool.Step size pool .receive pool') :
    Served workerCount dispatcher pool' ∧ pool'.accepted = pool.accepted ∧
      (∀ number ∈ pool.started, number ∈ pool'.started) ∧ pool'.finished = pool.finished := by
  have hbooks := h.books.step hstep
  cases hstep with
  | receive hjobs hwork =>
    have hcard : ∀ worker worker' : Workerpool.Worker, ∀ workers : Multiset Workerpool.Worker,
        (worker ::ₘ workers).card = (worker' ::ₘ workers).card := by
      intro worker worker' workers
      rw [Multiset.card_cons, Multiset.card_cons]
    refine ⟨⟨hbooks, fun x hx => h.jobs x (hjobs ▸ mem_cons_of_mem _ hx), fun job hjob => ?_,
      h.calling, ?_, fun hne => ?_, fun hdone => ?_⟩, rfl,
      fun _ hmem => Multiset.mem_cons_of_mem hmem, rfl⟩
    · rcases Multiset.mem_cons.1 hjob with hjob | hjob
      · rw [Workerpool.Worker.running.inj hjob]
        exact Workerpool.Job.mk.inj (h.jobs _ (hjobs ▸ mem_cons_self))
      · exact h.workers job (hwork ▸ Multiset.mem_cons_of_mem hjob)
    · exact (hcard _ .idle _).trans_le (hwork ▸ h.card_le)
    · obtain ⟨hclos, hcancelled, hall⟩ := h.opened hne
      exact ⟨hclos, hcancelled, (hcard _ .idle _).trans (hwork ▸ hall)⟩
    · rw [(h.rest hdone).1] at hjobs
      cases hjobs

theorem Served.finish (h : Served workerCount dispatcher pool)
    (hstep : Workerpool.Step size pool .finish pool') :
    Served workerCount dispatcher pool' ∧ pool'.accepted = pool.accepted ∧
      pool'.started = pool.started := by
  have hbooks := h.books.step hstep
  cases hstep with
  | finish hwork =>
    refine ⟨⟨hbooks, h.jobs, fun job hjob => ?_, h.calling, ?_, fun hne => ?_, fun hdone => ?_⟩,
      rfl, rfl⟩
    · rcases Multiset.mem_cons.1 hjob with hjob | hjob
      · cases hjob
      · exact h.workers job (hwork ▸ Multiset.mem_cons_of_mem hjob)
    · have hcard := h.card_le
      rw [hwork, Multiset.card_cons] at hcard
      rwa [Multiset.card_cons]
    · obtain ⟨hclos, hcancelled, hall⟩ := h.opened hne
      rw [hwork, Multiset.card_cons] at hall
      exact ⟨hclos, hcancelled, (Multiset.card_cons _ _).trans hall⟩
    · have hact := (h.rest hdone).2
      rw [h.active_eq, hwork, Multiset.map_cons, Multiset.sum_cons] at hact
      have hcard := congrArg Multiset.card hact
      rw [Multiset.card_add, Workerpool.Worker.jobs_running, Multiset.card_singleton,
        Multiset.card_zero] at hcard
      omega

theorem Served.exit (h : Served workerCount dispatcher pool)
    (hstep : Workerpool.Step size pool .exit pool') :
    Served workerCount dispatcher pool' ∧ SameBooks pool pool' := by
  have hbooks := h.books.step hstep
  cases hstep with
  | @exit workers hwork hclos =>
    have hdone : dispatcher = .done := by
      by_contra hne
      obtain ⟨hopen, hcancelled, -⟩ := h.opened hne
      rcases hclos with hclos | ⟨hclos, -⟩
      · rw [hcancelled] at hclos
        cases hclos
      · rw [hopen] at hclos
        cases hclos
    have hcalling := h.calling
    refine ⟨⟨hbooks, h.jobs, fun job hjob => ?_, h.calling, ?_, fun hne => absurd hdone hne,
      fun _ => ⟨(h.rest hdone).1, ?_⟩⟩, rfl, rfl, rfl⟩
    · exact h.workers job (hwork ▸ Multiset.mem_cons_of_mem hjob)
    · have hcard := h.card_le
      rw [hwork, Multiset.card_cons] at hcard
      exact (Nat.le_succ _).trans hcard
    · have hact := (h.rest hdone).2
      simpa [Workerpool.Pool.active, hwork] using hact

/-! ### Where the jobs are -/

theorem countOf_append (l l' : List QueryJob) (actDeviceId : ℤ) :
    countOf (l ++ l') actDeviceId = countOf l actDeviceId + countOf l' actDeviceId :=
  countP_append

theorem countOf_singleton (job : QueryJob) (actDeviceId : ℤ) :
    countOf [job] actDeviceId = if job.actDeviceId = actDeviceId then 1 else 0 := by
  unfold countOf
  rw [countP_singleton]
  simp only [beq_iff_eq]

/-- The job that the dispatching loop has at hand. -/
def Dispatcher.atHand : Dispatcher → List QueryJob
  | .acquire job => [job]
  | .addJob job => [job]
  | _ => []

/-- **Every job is in one place**, in the order of the producer, and its device has a semaphore. -/
structure Flow (jobs : List QueryJob) (batch : Batch) : Prop where
  order : batch.sent ++ (batch.dispatcher.atHand ++ (batch.jobChan ++ batch.unproduced)) = jobs
  known : ∀ job ∈ jobs, ∃ tokens, batch.semaphores job.actDeviceId = some tokens
  closed : batch.isClosed = true → batch.unproduced = []
  ended : batch.dispatcher = .waitAndClose ∨ batch.dispatcher = .done →
    batch.jobChan = [] ∧ batch.unproduced = []

/-- **The tokens in a semaphore** are those of the jobs that have acquired it and not released. -/
def Tokens (perDevice : ℕ) (semaphores : GoMap ℤ ℕ) (acquired releases : List QueryJob) : Prop :=
  ∀ actDeviceId tokens, semaphores actDeviceId = some tokens →
    countOf acquired actDeviceId = countOf releases actDeviceId + tokens ∧ tokens ≤ perDevice

/-- **A job is run, ends, releases and is finished** in this order, and once. -/
structure Logs (pool : Pool) (sent : List QueryJob) (ended released : List ℕ) : Prop where
  accepted : pool.accepted = sent.length
  nodup : ended.Nodup ∧ released.Nodup
  begun : ∀ number ∈ ended, number ∈ pool.started
  past : ∀ number ∈ released, number ∈ ended
  gone : ∀ number ∈ pool.finished, number ∈ released

/-- **What holds in every state of a batch.** -/
structure Inv (total perDevice : ℤ) (jobs : List QueryJob) (batch : Batch) : Prop where
  served : Served total.toNat batch.dispatcher batch.pool
  flow : Flow jobs batch
  tokens : Tokens perDevice.toNat batch.semaphores batch.acquired (batch.jobsOf batch.released)
  logs : Logs batch.pool batch.sent batch.ended batch.released

theorem Logs.congr {sent : List QueryJob} {ended released : List ℕ}
    (h : Logs pool sent ended released) (hsame : SameBooks pool pool') :
    Logs pool' sent ended released where
  accepted := hsame.accepted.trans h.accepted
  nodup := h.nodup
  begun number hmem := hsame.started ▸ h.begun number hmem
  past := h.past
  gone number hmem := h.gone number (hsame.finished ▸ hmem)

theorem Inv.lt_of_ended (h : Inv total perDevice jobs batch) {number : ℕ}
    (hmem : number ∈ batch.ended) : number < batch.sent.length :=
  h.logs.accepted ▸ h.served.lt_of_started (h.logs.begun number hmem)

/-- The loop has nothing at hand that it could not call the pool with. -/
theorem Served.congr (h : Served workerCount dispatcher pool) {dispatcher' : Dispatcher}
    (hop : dispatcher'.op = dispatcher.op) (hdone : dispatcher' = .done ↔ dispatcher = .done) :
    Served workerCount dispatcher' pool where
  books := h.books
  jobs := h.jobs
  workers := h.workers
  calling := hop ▸ h.calling
  card_le := h.card_le
  opened hne := h.opened fun heq => hne (hdone.2 heq)
  rest heq := h.rest (hdone.1 heq)

theorem filterMap_append_getElem? {l l' : List α} (hlt : ∀ n ∈ numbers, n < l.length) :
    numbers.filterMap ((l ++ l')[·]?) = numbers.filterMap (l[·]?) :=
  filterMap_congr fun n hn => getElem?_append_left (hlt n hn)

/-- The jobs at these numbers are no more of a device than those that were acquired, and fewer if
one is missing. -/
theorem Inv.countOf_released_lt (h : Inv total perDevice jobs batch) {number : ℕ}
    (hnot : number ∉ batch.released) (hjob : batch.sent[number]? = some job) :
    countOf (batch.jobsOf batch.released) job.actDeviceId < countOf batch.sent job.actDeviceId := by
  have hsub : ((number :: batch.released).filterMap (batch.sent[·]?)).Subperm batch.sent := by
    refine subperm_filterMap_getElem? (nodup_cons.2 ⟨hnot, h.logs.nodup.2⟩) fun n hn => ?_
    rcases List.mem_cons.1 hn with rfl | hn
    · exact (List.getElem?_eq_some_iff.1 hjob).1
    · exact h.lt_of_ended (h.logs.past n hn)
  have hcount := hsub.countP_le (·.actDeviceId == job.actDeviceId)
  rw [filterMap_cons, hjob, countP_cons_of_pos (by simp)] at hcount
  exact hcount

/-- The semaphore of a job that has not released holds a token. -/
theorem Inv.tokens_pos (h : Inv total perDevice jobs batch) {number : ℕ}
    (hnot : number ∉ batch.released) (hjob : batch.sent[number]? = some job)
    (htokens : batch.semaphores job.actDeviceId = some tokens) : 0 < tokens := by
  have hlt := h.countOf_released_lt hnot hjob
  have hacquired : countOf batch.sent job.actDeviceId ≤ countOf batch.acquired job.actDeviceId := by
    unfold Batch.acquired
    split
    · rw [countOf_append]
      exact Nat.le_add_right _ _
    · exact le_rfl
  have heq := (h.tokens _ _ htokens).1
  omega

theorem Flow.mem_of_sent (h : Flow jobs batch) (hjob : job ∈ batch.sent) : job ∈ jobs := by
  rw [← h.order]
  exact mem_append_left _ hjob

theorem Served.mem_started (h : Served workerCount dispatcher pool) {job : Workerpool.Running}
    (hmem : .running job ∈ pool.workers) : job.job ∈ pool.started := by
  obtain ⟨workers, hwork⟩ := Multiset.exists_cons_of_mem hmem
  rw [h.books.started, h.active_eq, hwork, Multiset.map_cons, Multiset.sum_cons]
  exact Multiset.mem_add.2 (.inl (Multiset.mem_add.2 (.inl (Multiset.mem_singleton_self _))))

/-! ### Every step keeps the invariant -/

theorem Batch.acquired_of_addJob (h : batch.dispatcher = .addJob job) :
    batch.acquired = batch.sent ++ [job] := by
  unfold acquired
  rw [h]

theorem Batch.acquired_eq_sent (h : ∀ job, batch.dispatcher ≠ .addJob job) :
    batch.acquired = batch.sent := by
  unfold acquired
  split
  · next job hjob => exact absurd hjob (h job)
  · rfl

variable (h : Inv total perDevice jobs batch)
include h

theorem Inv.receive {rest : List QueryJob}
    (hdisp : batch.dispatcher = .range) (hchan : batch.jobChan = job :: rest) :
    Inv total perDevice jobs { batch with
      jobChan := rest
      dispatcher :=
        match batch.semaphores job.actDeviceId with
        | some _ => .acquire job
        | none => .range } := by
  have horder := h.flow.order
  rw [hdisp, hchan] at horder
  have hjob : job ∈ jobs := by
    rw [← horder]
    exact mem_append_right _ (mem_append_right _ mem_cons_self)
  obtain ⟨tokens, htokens⟩ := h.flow.known job hjob
  rw [htokens]
  have hserved := h.served
  have hacquired := h.tokens
  rw [Batch.acquired_eq_sent (by rw [hdisp]; nofun)] at hacquired
  rw [hdisp] at hserved
  exact ⟨hserved.congr rfl (iff_of_false nofun nofun),
    ⟨horder, h.flow.known, h.flow.closed, by rintro (h | h) <;> cases h⟩, hacquired, h.logs⟩

/-- The loop acquires the semaphore and calls `AddJob`. -/
theorem Inv.acquire (hdisp : batch.dispatcher = .acquire job)
    (htokens : batch.semaphores job.actDeviceId = some tokens) (hlt : tokens < perDevice.toNat)
    (hstep : Workerpool.Step size batch.pool (.call (.addJob (.mk []))) pool) :
    Inv total perDevice jobs { batch with
      semaphores := batch.semaphores.set job.actDeviceId (tokens + 1)
      dispatcher := .addJob job
      pool := pool } := by
  have horder := h.flow.order
  have hserved := h.served
  have hacquired := h.tokens
  rw [Batch.acquired_eq_sent (by rw [hdisp]; nofun)] at hacquired
  rw [hdisp] at horder hserved
  obtain ⟨hserved', hsame⟩ := hserved.call rfl nofun (.addJob job) rfl hstep
  refine ⟨hserved', ⟨horder, fun x hx => ?_, h.flow.closed, by rintro (h | h) <;> cases h⟩,
    fun actDeviceId tokens' htokens' => ?_, h.logs.congr hsame⟩
  · dsimp only
    rw [GoMap.set_apply]
    split_ifs
    · exact ⟨_, rfl⟩
    · exact h.flow.known x hx
  · dsimp only at htokens'
    rw [GoMap.set_apply] at htokens'
    change countOf (batch.sent ++ [job]) actDeviceId =
      countOf (batch.jobsOf batch.released) actDeviceId + tokens' ∧ _
    rw [countOf_append, countOf_singleton]
    split_ifs at htokens' with hsame'
    · subst hsame'
      cases htokens'
      have hold := (hacquired _ _ htokens).1
      rw [if_pos rfl]
      omega
    · rw [if_neg (Ne.symm hsame')]
      exact hacquired actDeviceId tokens' htokens'

/-- `AddJob` sends the job, which gets the next number. -/
theorem Inv.send (hdisp : batch.dispatcher = .addJob job)
    (hstep : Workerpool.Step size batch.pool .send pool) : Inv total perDevice jobs { batch with
      dispatcher := batch.dispatcher.ret
      pool := pool
      sent := batch.sent ++ [job] } := by
  have horder := h.flow.order
  have hserved := h.served
  have hacquired := h.tokens
  rw [Batch.acquired_of_addJob hdisp] at hacquired
  rw [hdisp] at horder hserved ⊢
  obtain ⟨hserved', haccepted, hstart, hfin⟩ := hserved.send hstep
  refine ⟨hserved', ⟨?_, h.flow.known, h.flow.closed, by rintro (h | h) <;> cases h⟩, ?_,
    ⟨?_, h.logs.nodup, fun n hn => hstart ▸ h.logs.begun n hn, h.logs.past,
      fun n hn => h.logs.gone n (hfin ▸ hn)⟩⟩
  · rw [← horder]
    exact append_assoc _ _ _
  · have hsame : (batch.released.filterMap ((batch.sent ++ [job])[·]?)) =
        batch.jobsOf batch.released :=
      filterMap_append_getElem? fun n hn => h.lt_of_ended (h.logs.past n hn)
    change Tokens perDevice.toNat batch.semaphores (batch.sent ++ [job])
      (batch.released.filterMap ((batch.sent ++ [job])[·]?))
    rwa [hsame]
  · rw [length_append, length_singleton, haccepted, h.logs.accepted]

/-- A job releases the semaphore of its device. -/
theorem Inv.release {number : ℕ}
    (hended : number ∈ batch.ended) (hnot : number ∉ batch.released)
    (hjob : batch.sent[number]? = some job)
    (htokens : batch.semaphores job.actDeviceId = some tokens) (hpos : 0 < tokens) :
    Inv total perDevice jobs { batch with
      semaphores := batch.semaphores.set job.actDeviceId (tokens - 1)
      released := batch.released ++ [number] } := by
  refine ⟨h.served, ⟨h.flow.order, fun x hx => ?_, h.flow.closed, h.flow.ended⟩,
    fun actDeviceId tokens' htokens' => ?_, ⟨h.logs.accepted, ⟨h.logs.nodup.1, ?_⟩, h.logs.begun,
      fun n hn => ?_, fun n hn => mem_append_left _ (h.logs.gone n hn)⟩⟩
  · dsimp only
    rw [GoMap.set_apply]
    split_ifs
    · exact ⟨_, rfl⟩
    · exact h.flow.known x hx
  · dsimp only at htokens'
    rw [GoMap.set_apply] at htokens'
    have hreleases : batch.jobsOf (batch.released ++ [number]) =
        batch.jobsOf batch.released ++ [job] := by
      unfold Batch.jobsOf
      rw [filterMap_append, filterMap_cons, hjob]
      rfl
    change countOf batch.acquired actDeviceId =
      countOf (batch.jobsOf (batch.released ++ [number])) actDeviceId + tokens' ∧ _
    rw [hreleases, countOf_append, countOf_singleton]
    split_ifs at htokens' with hsame
    · subst hsame
      cases htokens'
      have hold := h.tokens _ _ htokens
      rw [if_pos rfl]
      omega
    · rw [if_neg (Ne.symm hsame)]
      exact h.tokens actDeviceId tokens' htokens'
  · rw [nodup_append_comm, singleton_append, nodup_cons]
    exact ⟨hnot, h.logs.nodup.2⟩
  · rcases mem_append.1 hn with hn | hn
    · exact h.logs.past n hn
    · rw [mem_singleton.1 hn]
      exact hended

/-- **Every step keeps the invariant.** -/
theorem Inv.step
    (hstep : Step total perDevice batch label next) : Inv total perDevice jobs next := by
  cases hstep with
  | produce hjobs _ =>
    refine ⟨h.served, ⟨?_, h.flow.known, fun hclos => ?_, fun hd => ?_⟩, h.tokens, h.logs⟩
    · have horder := h.flow.order
      rw [hjobs] at horder
      rw [← horder, append_assoc batch.jobChan]
      rfl
    · have hnil := h.flow.closed hclos
      rw [hjobs] at hnil
      cases hnil
    · have hnil := (h.flow.ended hd).2
      rw [hjobs] at hnil
      cases hnil
  | close hjobs _ =>
    exact ⟨h.served, ⟨h.flow.order, h.flow.known, fun _ => hjobs, h.flow.ended⟩, h.tokens, h.logs⟩
  | receive hdisp hchan => exact h.receive hdisp hchan
  | rangeEnd hdisp hchan hclos hcall =>
    have horder := h.flow.order
    have hserved := h.served
    have hacquired := h.tokens
    rw [Batch.acquired_eq_sent (by rw [hdisp]; nofun)] at hacquired
    rw [hdisp] at horder hserved
    obtain ⟨hserved', hsame⟩ := hserved.call rfl nofun .waitAndClose rfl hcall
    exact ⟨hserved', ⟨horder, h.flow.known, h.flow.closed, fun _ => ⟨hchan, h.flow.closed hclos⟩⟩,
      hacquired, h.logs.congr hsame⟩
  | acquire hdisp htokens hlt hcall => exact h.acquire hdisp htokens hlt hcall
  | enter henter =>
    obtain ⟨hserved, hsame, hopen⟩ := h.served.enter henter
    rw [hopen, if_neg Bool.false_ne_true]
    exact ⟨hserved, ⟨h.flow.order, h.flow.known, h.flow.closed, h.flow.ended⟩, h.tokens,
      h.logs.congr hsame⟩
  | send hdisp hsend => exact h.send hdisp hsend
  | wake hwake =>
    obtain ⟨hdisp, hserved, hsame⟩ := h.served.wake hwake
    have horder := h.flow.order
    have hacquired := h.tokens
    rw [Batch.acquired_eq_sent (by rw [hdisp]; nofun)] at hacquired
    rw [hdisp] at horder ⊢
    exact ⟨hserved, ⟨horder, h.flow.known, h.flow.closed, fun _ => h.flow.ended (.inl hdisp)⟩,
      hacquired, h.logs.congr hsame⟩
  | start hrecv =>
    obtain ⟨hserved, haccepted, hstart, hfin⟩ := h.served.receive hrecv
    exact ⟨hserved, ⟨h.flow.order, h.flow.known, h.flow.closed, h.flow.ended⟩, h.tokens,
      ⟨haccepted.trans h.logs.accepted, h.logs.nodup, fun n hn => hstart n (h.logs.begun n hn),
        h.logs.past, fun n hn => h.logs.gone n (hfin ▸ hn)⟩⟩
  | jobFunc outcome hrunning hnot =>
    refine ⟨h.served, ⟨h.flow.order, h.flow.known, h.flow.closed, h.flow.ended⟩, h.tokens,
      ⟨h.logs.accepted, ⟨?_, h.logs.nodup.2⟩, fun n hn => ?_,
        fun n hn => mem_append_left _ (h.logs.past n hn), h.logs.gone⟩⟩
    · rw [nodup_append_comm, singleton_append, nodup_cons]
      exact ⟨hnot, h.logs.nodup.1⟩
    · rcases mem_append.1 hn with hn | hn
      · exact h.logs.begun n hn
      · rw [mem_singleton.1 hn]
        exact h.served.mem_started hrunning
  | release hended hnot hjob htokens hpos => exact h.release hended hnot hjob htokens hpos
  | @finish number pool hreleased hfinish hnumber =>
    obtain ⟨hserved, haccepted, hstart⟩ := h.served.finish hfinish
    refine ⟨hserved, ⟨h.flow.order, h.flow.known, h.flow.closed, h.flow.ended⟩, h.tokens,
      ⟨haccepted.trans h.logs.accepted, h.logs.nodup, fun n hn => hstart ▸ h.logs.begun n hn,
        h.logs.past, fun n hn => ?_⟩⟩
    rw [hnumber] at hn
    rcases Multiset.mem_cons.1 hn with rfl | hn
    · exact hreleased
    · exact h.logs.gone n hn
  | exit hexit =>
    obtain ⟨hserved, hsame⟩ := h.served.exit hexit
    exact ⟨hserved, ⟨h.flow.order, h.flow.known, h.flow.closed, h.flow.ended⟩, h.tokens,
      h.logs.congr hsame⟩

/-! ### No state is stuck -/

/-- **As long as a job is in the pool a worker has a step to take.** -/
theorem Inv.exists_worker_step (htotal : 0 < total.toNat)
    (hdone : batch.dispatcher ≠ .done) (hleft : batch.pool.jobs ≠ [] ∨ batch.pool.active ≠ 0) :
    ∃ label next, Step total perDevice batch label next := by
  by_cases hrunning : ∃ job, .running job ∈ batch.pool.workers
  · obtain ⟨⟨number, adds⟩, hrunning⟩ := hrunning
    obtain rfl : adds = [] := h.served.workers _ hrunning
    by_cases hended : number ∈ batch.ended
    swap
    · exact ⟨_, _, .jobFunc .ok hrunning hended⟩
    by_cases hreleased : number ∈ batch.released
    swap
    · have hlt := h.lt_of_ended hended
      have hjob : batch.sent[number]? = some batch.sent[number] := getElem?_eq_getElem hlt
      obtain ⟨tokens, htokens⟩ :=
        h.flow.known _ (h.flow.mem_of_sent (mem_of_getElem? hjob))
      exact ⟨_, _, .release hended hreleased hjob htokens (h.tokens_pos hreleased hjob htokens)⟩
    · obtain ⟨workers, hwork⟩ := Multiset.exists_cons_of_mem hrunning
      exact ⟨_, _, .finish hreleased (.finish hwork) rfl⟩
  · -- all workers are idle, and one of them receives a job from the channel
    have hidle : ∀ worker ∈ batch.pool.workers, worker = .idle := by
      intro worker hworker
      cases worker with
      | idle => rfl
      | running job => exact absurd ⟨job, hworker⟩ hrunning
    have hact : batch.pool.active = 0 := by
      rw [h.served.active_eq]
      refine Multiset.sum_eq_zero fun x hx => ?_
      obtain ⟨worker, hworker, rfl⟩ := Multiset.mem_map.1 hx
      rw [hidle worker hworker]
      rfl
    obtain ⟨⟨number, ⟨adds⟩⟩, queue, hq⟩ :=
      exists_cons_of_ne_nil (hleft.resolve_right fun hne => hne hact)
    have hwork : batch.pool.workers ≠ 0 := by
      intro hzero
      have hcard := (h.served.opened hdone).2.2
      rw [hzero, Multiset.card_zero] at hcard
      omega
    obtain ⟨worker, hworker⟩ := Multiset.exists_mem_of_ne_zero hwork
    obtain ⟨workers, hcons⟩ := Multiset.exists_cons_of_mem hworker
    rw [hidle worker hworker] at hcons
    exact ⟨_, _, .start (.receive hq hcons)⟩

omit h

theorem Calling.enter_or_holds {op : Op} (h : Calling (some op) batch.pool) :
    (∃ next, Step total perDevice batch .enter next) ∨ batch.pool.holder = some { op := op } := by
  rcases h with ⟨hwait, hhold⟩ | ⟨-, hhold⟩
  · exact .inl ⟨_, .enter (.enter hhold hwait)⟩
  · exact .inr hhold

/-- The limits with which a batch begins. -/
structure Limits (total perDevice : ℤ) : Prop where
  workers : 0 < total.toNat
  tokens : 0 < perDevice.toNat
  jobChan : 0 < (jobChanSize total perDevice).toNat
  jobQueue : 0 < (jobQueueSize total perDevice).toNat

/-- **Progress.**  Until `WaitAndClose` has returned there is a step to take. -/
theorem Inv.progress (h : Inv total perDevice jobs batch) (hlimits : Limits total perDevice)
    (hdone : batch.dispatcher ≠ .done) : ∃ label next, Step total perDevice batch label next := by
  have hcalling := h.served.calling
  cases hdisp : batch.dispatcher with
  | range =>
    cases hchan : batch.jobChan with
    | cons job rest => exact ⟨_, _, .receive hdisp hchan⟩
    | nil =>
      cases hjobs : batch.unproduced with
      | cons job rest =>
        refine ⟨_, _, .produce hjobs ?_⟩
        rw [hchan]
        exact hlimits.jobChan
      | nil =>
        cases hclos : batch.isClosed with
        | false => exact ⟨_, _, .close hjobs hclos⟩
        | true => exact ⟨_, _, .rangeEnd hdisp hchan hclos (.call _)⟩
  | acquire job =>
    have hjob : job ∈ jobs := by
      rw [← h.flow.order, hdisp]
      exact mem_append_right _ (mem_append_left _ (mem_singleton_self job))
    obtain ⟨tokens, htokens⟩ := h.flow.known job hjob
    by_cases hlt : tokens < perDevice.toNat
    · exact ⟨_, _, .acquire hdisp htokens hlt (.call _)⟩
    · -- the tokens are those of jobs that are in the pool
      refine h.exists_worker_step hlimits.workers hdone ?_
      have hcount := (h.tokens _ _ htokens).1
      rw [Batch.acquired_eq_sent (by rw [hdisp]; nofun)] at hcount
      have hex : ∃ number < batch.sent.length, number ∉ batch.released := by
        by_contra hnone
        push Not at hnone
        have hperm : (batch.jobsOf batch.released).Perm batch.sent :=
          perm_filterMap_getElem? h.logs.nodup.2 fun n =>
            ⟨fun hn => h.lt_of_ended (h.logs.past n hn), hnone n⟩
        have hsame : countOf (batch.jobsOf batch.released) job.actDeviceId =
          countOf batch.sent job.actDeviceId := hperm.countP_eq _
        have hperDevice := hlimits.tokens
        omega
      obtain ⟨number, hnumber, hnot⟩ := hex
      exact h.served.mem_places (h.logs.accepted ▸ hnumber) fun hgone => hnot (h.logs.gone _ hgone)
  | addJob job =>
    rw [hdisp] at hcalling
    rcases Calling.enter_or_holds hcalling with ⟨next, henter⟩ | hhold
    · exact ⟨_, next, henter⟩
    by_cases hroom : batch.pool.jobs.length < (jobQueueSize total perDevice).toNat
    · exact ⟨_, _, .send hdisp (.send hhold rfl hroom)⟩
    · refine h.exists_worker_step hlimits.workers hdone (.inl fun hnil => hroom ?_)
      rw [hnil]
      exact hlimits.jobQueue
  | waitAndClose =>
    rw [hdisp] at hcalling
    rcases Calling.enter_or_holds hcalling with ⟨next, henter⟩ | hhold
    · exact ⟨_, next, henter⟩
    by_cases hwg : batch.pool.wg = 0
    · exact ⟨_, _, .wake (.wake hhold (.inr rfl) hwg)⟩
    · refine h.exists_worker_step hlimits.workers hdone ?_
      by_contra hnone
      rw [not_or, not_not, not_not] at hnone
      have hcounted := h.served.books.counted
      have hunsent : batch.pool.unsent = 0 := by
        unfold Workerpool.Pool.unsent
        rw [hhold]
      rw [hnone.1, hnone.2, hunsent] at hcounted
      exact hwg hcounted
  | done => exact absurd hdisp hdone

/-! ### No run goes on for ever -/

/-- The steps that the dispatching loop has to take for what it has at hand, and for its end. -/
def Dispatcher.steps : Dispatcher → ℕ
  | .range => 3
  | .acquire _ => 10
  | .addJob _ => 5
  | _ => 0

/-- A bound on the steps that are left. -/
def Batch.steps (batch : Batch) : ℕ :=
  9 * batch.unproduced.length + 8 * batch.jobChan.length + (if batch.isClosed then 0 else 1) +
    batch.dispatcher.steps + batch.pool.steps + (batch.sent.length - batch.ended.length) +
    (batch.sent.length - batch.released.length)

theorem length_le_of_nodup {n : ℕ} (hnodup : numbers.Nodup) (hlt : ∀ number ∈ numbers, number < n) :
    numbers.length ≤ n := by
  have hsub : numbers.Subperm (range n) :=
    hnodup.subperm fun number hmem => mem_range.2 (hlt number hmem)
  exact hsub.length_le.trans_eq length_range

/-- **Every step is one of those that were left.** -/
theorem Inv.steps_lt (h : Inv total perDevice jobs batch)
    (hstep : Step total perDevice batch label next) : next.steps < batch.steps := by
  have hpool : ∀ {label : Workerpool.Label} {pool : Pool},
      Workerpool.Step (jobQueueSize total perDevice).toNat batch.pool label pool → (∀ op,
        label ≠ .call op) →
      pool.steps < batch.pool.steps := fun hstep hinternal =>
    Workerpool.InternalStep.steps_lt ⟨hstep, hinternal⟩
  have hcall : ∀ {op : Op} {pool : Pool},
      Workerpool.Step (jobQueueSize total perDevice).toNat batch.pool (.call op) pool →
      pool.steps = batch.pool.steps + (2 + op.steps) := by
    intro op pool hstep
    cases hstep
    simp only [Workerpool.Pool.steps, Multiset.map_cons, Multiset.sum_cons, Workerpool.Call.steps]
    omega
  unfold Batch.steps
  cases hstep with
  | produce hjobs _ =>
    rw [hjobs]
    simp only [length_append, length_cons, length_nil]
    omega
  | close _ hclos =>
    rw [hclos]
    simp
  | @receive job rest hdisp hchan =>
    rw [hdisp, hchan]
    simp only [length_cons]
    cases batch.semaphores job.actDeviceId <;>
    · simp only [Dispatcher.steps]
      omega
  | rangeEnd hdisp _ _ hstep =>
    have hsteps := hcall hstep
    rw [hdisp]
    simp only [Dispatcher.steps, Op.steps] at hsteps ⊢
    omega
  | acquire hdisp _ _ hstep =>
    have hsteps := hcall hstep
    rw [hdisp]
    simp only [Dispatcher.steps, Op.steps, Workerpool.Job.steps,
      Workerpool.Job.stepsOfAdds] at hsteps ⊢
    omega
  | enter hstep =>
    have hlt := hpool hstep fun _ h => by cases h
    rw [(h.served.enter hstep).2.2, if_neg Bool.false_ne_true]
    dsimp only
    omega
  | send hdisp hstep =>
    have hlt := hpool hstep fun _ h => by cases h
    rw [hdisp]
    simp only [Dispatcher.ret, Dispatcher.steps, length_append, length_cons,
      length_nil]
    omega
  | wake hstep =>
    have hlt := hpool hstep fun _ h => by cases h
    rw [(h.served.wake hstep).1]
    simp only [Dispatcher.ret, Dispatcher.steps]
    omega
  | start hstep =>
    have hlt := hpool hstep fun _ h => by cases h
    dsimp only
    omega
  | @jobFunc number outcome hrunning hnot =>
    have hlt : (number :: batch.ended).length ≤ batch.sent.length := by
      refine length_le_of_nodup (nodup_cons.2 ⟨hnot, h.logs.nodup.1⟩) fun n hn => ?_
      rcases List.mem_cons.1 hn with rfl | hn
      · exact h.logs.accepted ▸ h.served.lt_of_started (h.served.mem_started hrunning)
      · exact h.lt_of_ended hn
    simp only [length_cons, length_append, length_nil] at hlt ⊢
    omega
  | @release number job tokens hended hnot hjob _ _ =>
    have hlt : (number :: batch.released).length ≤ batch.sent.length := by
      refine length_le_of_nodup (nodup_cons.2 ⟨hnot, h.logs.nodup.2⟩) fun n hn => ?_
      rcases List.mem_cons.1 hn with rfl | hn
      · exact h.lt_of_ended hended
      · exact h.lt_of_ended (h.logs.past n hn)
    simp only [length_cons, length_append, length_nil] at hlt ⊢
    omega
  | finish _ hstep _ =>
    have hlt := hpool hstep fun _ h => by cases h
    dsimp only
    omega
  | exit hstep =>
    have hlt := hpool hstep fun _ h => by cases h
    dsimp only
    omega

/-! ### What a batch does -/

/-- The jobs of the producer are about devices of the batch. -/
theorem exists_mem_of_mem_produceQueryJobs {mapper : Topomanager.DeviceIdMapper}
    (h : job ∈ produceQueryJobs mapper walk) : ∃ device, (job.actDeviceId, device) ∈ walk := by
  obtain ⟨⟨actDeviceId, device⟩, hmem, hjob⟩ := mem_flatMap.1 h
  dsimp only at hjob
  split at hjob
  · cases hjob
  · obtain ⟨query, -, rfl⟩ := mem_map.1 hjob
    exact ⟨device, hmem⟩

/-- Every device of the batch has a semaphore, and all of them are free. -/
theorem makeSemaphores_eq_some {actDeviceMap : GoMap ℤ ScannedDevice}
    (hwalk : actDeviceMap.Ranges walk) {actDeviceId : ℤ} :
    makeSemaphores walk actDeviceId = some tokens ↔
      tokens = 0 ∧ ∃ device, actDeviceMap actDeviceId = some device := by
  have hkeys : (walk.map fun x => (x.1, (0 : ℕ))).map (·.1) = walk.map (·.1) := by
    rw [map_map]
    rfl
  rw [makeSemaphores, ← (GoMap.ranges_setAll (hkeys ▸ hwalk.nodup)).mem, mem_map]
  constructor
  · rintro ⟨⟨id, device⟩, hmem, hx⟩
    obtain ⟨rfl, rfl⟩ := Prod.mk.inj hx
    exact ⟨rfl, device, (hwalk.mem _ _).1 hmem⟩
  · rintro ⟨rfl, device, hdev⟩
    exact ⟨(actDeviceId, device), (hwalk.mem _ _).2 hdev, rfl⟩

theorem served_newWorkerPoolWaitable (total : ℕ) :
    Served total .range (Workerpool.newWorkerPoolWaitable total) where
  books := Workerpool.books_newWorkerPoolWaitable total
  jobs := forall_mem_nil _
  workers job hjob := by cases Multiset.eq_of_mem_replicate hjob
  calling := ⟨rfl, rfl⟩
  card_le := (Multiset.card_replicate _ _).le
  opened _ := ⟨rfl, rfl, Multiset.card_replicate _ _⟩
  rest := nofun

theorem jobChanSize_pos (hchan : 0 ≤ jobChanSize total perDevice)
    (hq : 0 < jobQueueSize total perDevice) : 0 < jobChanSize total perDevice := by
  unfold jobChanSize jobQueueSize Int.bmod at *
  generalize total * perDevice = x at *
  dsimp only at *
  split_ifs at * <;> omega

theorem inv_batchQuery {actDeviceMap : GoMap ℤ ScannedDevice} {walk' : List (ℤ × ScannedDevice)}
    (hwalk : actDeviceMap.Ranges walk) (hwalk' : actDeviceMap.Ranges walk')
    {mapper : Topomanager.DeviceIdMapper}
    (hbatch : batchQuery total perDevice walk walk' (.ok mapper) = .returned (some batch)) :
    Limits total perDevice ∧ Inv total perDevice (produceQueryJobs mapper walk') batch := by
  unfold batchQuery at hbatch
  split_ifs at hbatch with hempty htotal hperDevice hchan hq
  · cases Ending.returned.inj hbatch
  obtain rfl := Option.some.inj (Ending.returned.inj hbatch)
  have hsize := jobChanSize_pos (not_lt.1 hchan) (not_le.1 hq)
  refine ⟨⟨by omega, by omega, by omega, by omega⟩, served_newWorkerPoolWaitable _,
    ⟨rfl, fun job hjob => ⟨0, ?_⟩, nofun, by rintro (h | h) <;> cases h⟩,
    fun actDeviceId tokens htokens => ?_, ⟨rfl, ⟨.nil, .nil⟩, nofun, nofun, nofun⟩⟩
  · obtain ⟨device, hmem⟩ := exists_mem_of_mem_produceQueryJobs hjob
    exact (makeSemaphores_eq_some hwalk).2 ⟨rfl, device, (hwalk'.mem _ _).1 hmem⟩
  · obtain ⟨rfl, -⟩ := (makeSemaphores_eq_some hwalk).1 htokens
    exact ⟨rfl, Nat.zero_le _⟩

/-- **A device keeps to its limit.** -/
theorem Inv.countOf_acquired_le (h : Inv total perDevice jobs batch) (actDeviceId : ℤ) :
    countOf batch.acquired actDeviceId ≤
      countOf (batch.jobsOf batch.released) actDeviceId + perDevice.toNat := by
  cases htokens : batch.semaphores actDeviceId with
  | some tokens =>
    obtain ⟨heq, hle⟩ := h.tokens _ _ htokens
    omega
  | none =>
    -- there is no job of a device without a semaphore
    have hzero : countOf batch.acquired actDeviceId = 0 := by
      refine countP_eq_zero.2 fun job hjob hid => ?_
      have hmem : job ∈ jobs := by
        rw [← h.flow.order]
        unfold Batch.acquired at hjob
        split at hjob
        · next job' hdisp =>
          rw [hdisp]
          rcases mem_append.1 hjob with hjob | hjob
          · exact mem_append_left _ hjob
          · exact mem_append_right _ (mem_append_left _ hjob)
        · exact mem_append_left _ hjob
      obtain ⟨tokens, hsome⟩ := h.flow.known job hmem
      rw [eq_of_beq hid, htokens] at hsome
      cases hsome
    omega

/-- **No job is executed twice.** -/
theorem Inv.subperm (h : Inv total perDevice jobs batch) :
    (batch.jobsOf batch.ended).Subperm jobs := by
  have hsub : (batch.jobsOf batch.ended).Subperm batch.sent :=
    subperm_filterMap_getElem? h.logs.nodup.1 fun _ => h.lt_of_ended
  refine hsub.trans (List.Sublist.subperm ?_)
  rw [← h.flow.order]
  exact sublist_append_left _ _

/-- **When `WaitAndClose` returns** all jobs have been executed. -/
theorem Inv.perm (h : Inv total perDevice jobs batch) (hdone : batch.dispatcher = .done) :
    (batch.jobsOf batch.ended).Perm jobs := by
  have hsent : batch.sent = jobs := by
    have horder := h.flow.order
    obtain ⟨hchan, hjobs⟩ := h.flow.ended (.inr hdone)
    rw [hdone, hchan, hjobs] at horder
    exact (append_nil _).symm.trans horder
  obtain ⟨hpool, hact⟩ := h.served.rest hdone
  rw [← hsent]
  refine perm_filterMap_getElem? h.logs.nodup.1 fun n => ⟨h.lt_of_ended, fun hlt => ?_⟩
  by_contra hnot
  rcases h.served.mem_places (h.logs.accepted ▸ hlt)
    (fun hgone => hnot (h.logs.past n (h.logs.gone n hgone))) with hne | hne
  · exact hne hpool
  · exact hne hact

/-- **A batch works**, whatever the order of its devices and of its steps. -/
theorem batchQuery_works {actDeviceMap : GoMap ℤ ScannedDevice}
    {walk walk' : List (ℤ × ScannedDevice)} (hwalk : actDeviceMap.Ranges walk)
    (hwalk' : actDeviceMap.Ranges walk') {mapper : Topomanager.DeviceIdMapper}
    (hbatch : batchQuery total perDevice walk walk' (.ok mapper) = .returned (some batch))
    {run : List (Label × Batch)} (hrun : Along (Step total perDevice) batch run) :
    Works total perDevice (produceQueryJobs mapper walk') batch run := by
  obtain ⟨hlimits, hinv⟩ := inv_batchQuery hwalk hwalk' hbatch
  have hall : ∀ {run}, Along (Step total perDevice) batch run →
      ∀ state ∈ statesOfRun batch run,
        Inv total perDevice (produceQueryJobs mapper walk') state :=
    fun hrun => hrun.rule hinv fun _ _ _ hstep h => h.step hstep
  exact {
    limited := fun state hstate => (hall hrun state hstate).served.card_active_le
    limitedPerDevice := fun state hstate => (hall hrun state hstate).countOf_acquired_le
    once := fun state hstate => (hall hrun state hstate).subperm
    complete := fun state hstate hdone => (hall hrun state hstate).perm hdone
    notStuck := fun state hstate => (hall hrun state hstate).progress hlimits
    ends := ⟨batch.steps, fun run hrun => (hrun.mono_states (hall hrun) fun _ _ _ h hstep =>
      And.intro h hstep).length_le Batch.steps fun _ _ _ h => h.1.steps_lt h.2⟩ }

/-- A batch with one device and limits of 1, after its first step. -/
theorem batchQuery_works_oneDevice :
    let walk : List (ℤ × ScannedDevice) := [(7, { interfaces := [1, 2] })]
    let mapper := Topomanager.DeviceIdMapper.addDeviceMapping {} 7 "device"
    ∃ batch next, batchQuery 1 1 walk walk (.ok mapper) = .returned (some batch) ∧
      Along (Step 1 1) batch [(.produce, next)] ∧
      Works 1 1 (produceQueryJobs mapper walk) batch [(.produce, next)] := by
  intro walk mapper
  let batch : Batch := {
    unproduced := produceQueryJobs mapper walk
    semaphores := makeSemaphores walk
    pool := Workerpool.newWorkerPoolWaitable 1 }
  have hwalk : (GoMap.empty.setAll walk).Ranges walk := GoMap.ranges_setAll (by decide)
  have hbatch : batchQuery 1 1 walk walk (.ok mapper) = .returned (some batch) := rfl
  have hproduce : Step 1 1 batch .produce _ := .produce rfl (by decide)
  exact ⟨batch, _, hbatch, ⟨hproduce, trivial⟩,
    batchQuery_works hwalk hwalk hbatch ⟨hproduce, trivial⟩⟩

end Scan
end Sebastian
