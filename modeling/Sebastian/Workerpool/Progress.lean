/-
# The waitable worker pool in runs of steps that fit

`sebastian/common/workerpool/worker_pool_waitable.go`.  In a run of steps that fit
the call that holds the mutex waits for nothing that needs the mutex
(`Guarded.step`), so that some step is left as long as a call waits
(`Guarded.progress`).  With the books that is all the pool is to do
(`works_of_fits`).  In `not_works` a wait takes the mutex while a job has still
to add one.
-/

import Sebastian.Workerpool.Books

namespace Sebastian
namespace Workerpool

open Multiset

variable {size : ℕ} {pool pool' : Pool} {label : Label}

/-! ### What the calls can rely on -/

/-- A worker is left, in its loop or in a call. -/
def Live (pool : Pool) : Prop :=
  pool.workers ≠ 0 ∨ (∃ call ∈ pool.waiting, call.worker ≠ none) ∨
    ∃ call, pool.holder = some call ∧ call.worker ≠ none

/-- **What holds in a run of steps that fit**: workers leave only a closed pool, and none with
jobs unless it was cancelled; and what the call with the mutex waits for, workers can do without
the mutex. -/
structure Guarded (size : ℕ) (pool : Pool) : Prop where
  bounded : pool.jobs.length ≤ size
  closed : pool.cancelled = true → pool.isClosed = true
  drained : pool.cancelled = true → pool.cancelCalled = true ∨ pool.jobs = []
  live : Live pool ∨ pool.cancelCalled = true ∨ pool.isClosed = true ∧ pool.jobs = []
  held : ∀ call, pool.holder = some call →
    (∃ job, call.op = .addJob job) ∧ pool.isClosed = false ∨ call.op.Waits
  byJob : ∀ call, call ∈ pool.waiting ∨ pool.holder = some call → call.worker ≠ none →
    ∃ job, call.op = .addJob job
  room : ∀ call job, pool.holder = some call → call.op = .addJob job →
    pool.jobs.length < size ∨ CanReceive pool
  quiet : ∀ call, pool.holder = some call → call.op.Waits → Quiet pool

theorem not_waits_addJob {job : Job} : ¬(Op.addJob job).Waits := by
  rintro (h | h) <;> cases h

theorem Pool.workers_ret (pool : Pool) (call : Call) : pool.workers ≤ (pool.ret call).workers ∧
    (call.worker ≠ none → (pool.ret call).workers ≠ 0) := by
  obtain ⟨op, worker⟩ := call
  cases worker with
  | none => exact ⟨le_rfl, fun h => absurd rfl h⟩
  | some job => exact ⟨le_cons_self _ _, fun _ => cons_ne_zero⟩

/-- A worker stays when the mutex is given back. -/
theorem Live.ret {call : Call} (waiting : Multiset Call) {pool' : Pool} (h : Live pool)
    (hcalls : ∀ c, c ∈ pool.waiting ∨ pool.holder = some c → c ∈ waiting ∨ c = call)
    (hwork : pool'.workers = pool.workers) (hwait : pool'.waiting = waiting) :
    Live (pool'.ret call) := by
  obtain ⟨hle, hret⟩ := pool'.workers_ret call
  have hcall : ∀ c, c ∈ waiting ∨ c = call → c.worker ≠ none → Live (pool'.ret call) := by
    rintro c (hc | rfl) hworker
    · refine .inr (.inl ⟨c, ?_, hworker⟩)
      rw [Pool.ret_waiting, hwait]
      exact hc
    · exact .inl (hret hworker)
  rcases h with hw | ⟨c, hc, hworker⟩ | ⟨c, hc, hworker⟩
  · refine .inl fun hzero => hw ?_
    rw [hwork, hzero] at hle
    exact le_zero.1 hle
  · exact hcall c (hcalls c (.inl hc)) hworker
  · exact hcall c (hcalls c (.inr hc)) hworker

theorem Guarded.enter {call : Call} {waiting : Multiset Call} (h : Guarded size pool)
    (hhold : pool.holder = none) (hwait : pool.waiting = call ::ₘ waiting)
    (hfits : Fits size pool (.enter call)) :
    Guarded size ({ pool with waiting := waiting }.enter call) := by
  have hmem : ∀ c, c ∈ waiting → c ∈ pool.waiting := fun c hc => by
    rw [hwait]
    exact mem_cons_of_mem hc
  have hcall : call ∈ pool.waiting := by
    rw [hwait]
    exact mem_cons_self _ _
  have hlive : ∀ pool' : Pool, pool'.workers = pool.workers → pool'.waiting = waiting →
      pool'.holder = some call → Live pool → Live pool' := by
    rintro pool' hwork hw hh (hl | ⟨c, hc, hl⟩ | ⟨c, hc, -⟩)
    · exact .inl (hwork ▸ hl)
    · rw [hwait] at hc
      rcases mem_cons.1 hc with rfl | hc
      · exact .inr (.inr ⟨c, hh, hl⟩)
      · exact .inr (.inl ⟨c, hw ▸ hc, hl⟩)
    · rw [hhold] at hc
      cases hc
  rcases Pool.enter_cases { pool with waiting := waiting } call with
    ⟨closed, cancelled, called, hclos, hcalled, e⟩ | ⟨job, hop, hopen, e⟩ | ⟨hop, hopen, e⟩
  · rw [e]
    have hnone : ∀ c, (Pool.ret { pool with
        waiting := waiting
        isClosed := closed
        cancelled := cancelled
        cancelCalled := called } call).holder ≠ some c := by
      intro c
      rw [Pool.ret_holder, hhold]
      nofun
    refine ⟨?_, fun hc => ?_, fun hc => ?_, ?_, fun c hc => absurd hc (hnone c), fun c hc => ?_,
      fun c _ hc => absurd hc (hnone c), fun c hc => absurd hc (hnone c)⟩
    · rw [Pool.ret_jobs]
      exact h.bounded
    · rw [Pool.ret_cancelled] at hc
      rw [Pool.ret_isClosed]
      rcases hcalled with ⟨-, hcl⟩ | ⟨-, hca⟩
      · exact hcl
      · exact hclos (h.closed (hca ▸ hc))
    · rw [Pool.ret_cancelled] at hc
      rw [Pool.ret_cancelCalled, Pool.ret_jobs]
      rcases hcalled with ⟨hca, -⟩ | ⟨hca, hcan⟩
      · exact .inl hca
      · exact (h.drained (hcan ▸ hc)).imp (fun x => hca.trans x) id
    · rw [Pool.ret_cancelCalled, Pool.ret_isClosed, Pool.ret_jobs]
      rcases h.live with hl | hl | ⟨hcl, hjobs⟩
      · refine .inl (hl.ret waiting (fun c hc => ?_) rfl rfl)
        rcases hc with hc | hc
        · rw [hwait] at hc
          exact (mem_cons.1 hc).symm
        · rw [hhold] at hc
          cases hc
      · refine .inr (.inl ?_)
        rcases hcalled with ⟨hca, -⟩ | ⟨hca, -⟩
        · exact hca
        · exact hca.trans hl
      · exact .inr (.inr ⟨hclos hcl, hjobs⟩)
    · rcases hc with hc | hc
      · rw [Pool.ret_waiting] at hc
        exact h.byJob c (.inl (hmem c hc))
      · exact absurd hc (hnone c)
  · rw [e]
    have hsome : ∀ c, some call = some c → c = call := fun c hc => (Option.some.inj hc).symm
    refine ⟨h.bounded, h.closed, h.drained, h.live.imp_left (hlive _ rfl rfl rfl), fun c hc => ?_,
      fun c hc => ?_, fun c j hc _ => ?_, fun c hc hw => ?_⟩
    · rw [hsome c hc]
      exact .inl ⟨⟨job, hop⟩, hopen⟩
    · rcases hc with hc | hc
      · exact h.byJob c (.inl (hmem c hc))
      · rw [hsome c hc]
        exact h.byJob call (.inl hcall)
    · simp only [Fits, hop] at hfits
      rcases hfits with hcl | hroom
      · rw [hopen] at hcl
        cases hcl
      · exact hroom
    · rw [hsome c hc, hop] at hw
      exact absurd hw not_waits_addJob
  · rw [e]
    have hsome : ∀ c, some call = some c → c = call := fun c hc => (Option.some.inj hc).symm
    refine ⟨h.bounded, h.closed, h.drained, h.live.imp_left (hlive _ rfl rfl rfl), fun c hc => ?_,
      fun c hc => ?_, fun c j hc hj => ?_, fun c hc hw => ?_⟩
    · rw [hsome c hc]
      exact .inr hop
    · rcases hc with hc | hc
      · exact h.byJob c (.inl (hmem c hc))
      · rw [hsome c hc]
        exact h.byJob call (.inl hcall)
    · rw [hsome c hc] at hj
      rw [hj] at hop
      exact absurd hop not_waits_addJob
    · have hquiet : Quiet pool := by
        rcases hop with hop | hop
        · simpa only [Fits, hop] using hfits
        · have hclos : pool.isClosed = false := hopen hop
          simpa [Fits, hop, hclos] using hfits
      exact ⟨hquiet.jobs, hquiet.workers, fun c hc => hquiet.calls c (hmem c hc), hquiet.live⟩

/-- `AddJob` sends its job and gives the mutex back. -/
theorem Guarded.send {call : Call} {job : Job} (h : Guarded size pool)
    (hhold : pool.holder = some call) (hop : call.op = .addJob job)
    (hroom : pool.jobs.length < size) :
    Guarded size ({ pool with
      holder := none
      jobs := pool.jobs ++ [(pool.accepted, job)]
      accepted := pool.accepted + 1 }.ret call) := by
  have hopen : pool.isClosed = false := by
    rcases h.held call hhold with ⟨-, hopen⟩ | hw
    · exact hopen
    · rw [hop] at hw
      exact absurd hw not_waits_addJob
  have hcancelled : pool.cancelled = true → False := fun hc => by
    rw [h.closed hc] at hopen
    cases hopen
  have hnone : ∀ c, (Pool.ret { pool with
      holder := none
      jobs := pool.jobs ++ [(pool.accepted, job)]
      accepted := pool.accepted + 1 } call).holder ≠ some c := by
    intro c
    rw [Pool.ret_holder]
    nofun
  refine ⟨?_, fun hc => absurd hc (by rw [Pool.ret_cancelled]; exact hcancelled),
    fun hc => absurd hc (by rw [Pool.ret_cancelled]; exact hcancelled), ?_,
    fun c hc => absurd hc (hnone c), fun c hc => ?_, fun c _ hc => absurd hc (hnone c),
    fun c hc => absurd hc (hnone c)⟩
  · rw [Pool.ret_jobs, List.length_append, List.length_singleton]
    exact hroom
  · rw [Pool.ret_cancelCalled]
    rcases h.live with hl | hl | ⟨hcl, -⟩
    · refine .inl (hl.ret pool.waiting (fun c hc => ?_) rfl rfl)
      rcases hc with hc | hc
      · exact .inl hc
      · rw [hhold] at hc
        exact .inr (Option.some.inj hc).symm
    · exact .inr (.inl hl)
    · rw [hopen] at hcl
      cases hcl
  · rcases hc with hc | hc
    · rw [Pool.ret_waiting] at hc
      exact h.byJob c (.inl hc)
    · exact absurd hc (hnone c)

/-- A wait is over when no job is left. -/
theorem Guarded.wake {call : Call} (h : Guarded size pool) (hbooks : Books pool)
    (hhold : pool.holder = some call) (hop : call.op.Waits) (hwg : pool.wg = 0) :
    Guarded size (({ pool with holder := none }.waitDone call.op).ret call) := by
  have hjobs : pool.jobs = [] := by
    have hcounted := hbooks.counted
    exact List.eq_nil_of_length_eq_zero (by omega)
  have hlive : ∀ pool' : Pool, pool'.workers = pool.workers → pool'.waiting = pool.waiting →
      Live pool → Live (pool'.ret call) := by
    intro pool' hwork hwait hl
    refine hl.ret pool.waiting (fun c hc => hc.imp_right fun hc => ?_) hwork hwait
    rw [hhold] at hc
    exact (Option.some.inj hc).symm
  have hbyJob : ∀ c ∈ pool.waiting, c.worker ≠ none → ∃ job, c.op = .addJob job :=
    fun c hc => h.byJob c (.inl hc)
  rcases hop with hop | hop
  · rw [hop]
    refine ⟨?_, fun hc => ?_, fun _ => .inr ?_, ?_, fun c hc => ?_, fun c hc => ?_,
      fun c _ hc => ?_, fun c hc => ?_⟩ <;>
      simp only [Pool.waitDone, Pool.ret_jobs, Pool.ret_cancelled, Pool.ret_isClosed,
        Pool.ret_cancelCalled, Pool.ret_holder, Pool.ret_waiting, reduceCtorEq, or_false] at *
    · exact h.bounded
    · exact h.closed hc
    · exact hjobs
    · exact h.live.imp_left (hlive { pool with holder := none } rfl rfl)
    · exact hbyJob c hc
  · rw [hop]
    refine ⟨?_, fun hc => ?_, fun _ => .inr ?_, ?_, fun c hc => ?_, fun c hc => ?_,
      fun c _ hc => ?_, fun c hc => ?_⟩ <;>
      simp only [Pool.waitDone, Pool.ret_jobs, Pool.ret_cancelled, Pool.ret_isClosed,
        Pool.ret_cancelCalled, Pool.ret_holder, Pool.ret_waiting, reduceCtorEq, or_false] at *
    · exact h.bounded
    · exact hjobs
    · exact .inr (.inr ⟨trivial, hjobs⟩)
    · exact hbyJob c hc

/-- A worker takes a job. -/
theorem Guarded.receive {jobs : List (ℕ × Job)} {workers : Multiset Worker} {job : ℕ}
    {adds : List Job} (h : Guarded size pool) (hjobs : pool.jobs = (job, .mk adds) :: jobs)
    (hwork : pool.workers = .idle ::ₘ workers) :
    Guarded size { pool with
      jobs := jobs
      workers := .running { job := job, adds := adds } ::ₘ workers
      started := job ::ₘ pool.started } := by
  have hmem : ∀ x ∈ jobs, x ∈ pool.jobs := fun x hx => by
    rw [hjobs]
    exact List.mem_cons_of_mem _ hx
  have hlen : jobs.length < size := by
    have hbd := h.bounded
    rw [hjobs, List.length_cons] at hbd
    omega
  refine ⟨hlen.le, h.closed, fun hc => ?_, .inl (.inl cons_ne_zero), h.held, h.byJob,
    fun _ _ _ _ => .inl hlen, fun c hc hw => ?_⟩
  · refine (h.drained hc).imp_right fun hnil => ?_
    rw [hnil] at hjobs
    cases hjobs
  · have hquiet := h.quiet c hc hw
    refine ⟨fun x hx => hquiet.jobs x (hmem x hx), fun r hr => ?_, hquiet.calls,
      fun _ => cons_ne_zero⟩
    rcases mem_cons.1 hr with hr | hr
    · have hadds := hquiet.jobs _ (hjobs ▸ List.mem_cons_self)
      rw [Worker.running.inj hr]
      exact Job.mk.inj hadds
    · exact hquiet.workers r (hwork ▸ mem_cons_of_mem hr)

/-- A worker leaves its loop. -/
theorem Guarded.exit {workers : Multiset Worker} (h : Guarded size pool)
    (hwork : pool.workers = .idle ::ₘ workers)
    (hdone : pool.cancelled ∨ pool.isClosed ∧ pool.jobs = []) (hfits : Fits size pool .exit) :
    Guarded size { pool with workers := workers } := by
  have hclos : pool.isClosed = true := by
    rcases hdone with hc | ⟨hc, -⟩
    · exact h.closed hc
    · exact hc
  refine ⟨h.bounded, h.closed, h.drained, .inr ?_, h.held, h.byJob, fun c j hc hj => ?_,
    fun c hc hw => ?_⟩
  · rcases hdone with hc | hdone
    · exact (h.drained hc).imp_right fun hjobs => ⟨hclos, hjobs⟩
    · exact .inr hdone
  · rcases h.held c hc with ⟨-, hopen⟩ | hw
    · rw [hclos] at hopen
      cases hopen
    · rw [hj] at hw
      exact absurd hw not_waits_addJob
  · have hquiet := h.quiet c hc hw
    refine ⟨hquiet.jobs, fun r hr => ?_, hquiet.calls, fun hjobs hzero => ?_⟩
    · exact hquiet.workers r (hwork ▸ mem_cons_of_mem hr)
    · have hcard := hfits ⟨c, hc, hw⟩ hjobs
      obtain rfl : workers = 0 := hzero
      rw [hwork] at hcard
      simp at hcard

/-- **Every step that fits keeps the guards.** -/
theorem Guarded.step (h : Guarded size pool) (hbooks : Books pool)
    (hstep : Step size pool label pool') (hfits : Fits size pool label) : Guarded size pool' := by
  cases hstep with
  | call op =>
    refine ⟨h.bounded, h.closed, h.drained, ?_, h.held, ?_, h.room, fun c hc hw => ?_⟩
    · refine h.live.imp_left fun hl => ?_
      rcases hl with hl | ⟨c, hc, hl⟩ | hl
      · exact .inl hl
      · exact .inr (.inl ⟨c, mem_cons_of_mem hc, hl⟩)
      · exact .inr (.inr hl)
    · rintro c (hc | hc) hworker
      · rcases mem_cons.1 hc with rfl | hc
        · exact absurd rfl hworker
        · exact h.byJob c (.inl hc) hworker
      · exact h.byJob c (.inr hc) hworker
    · have hquiet := h.quiet c hc hw
      refine ⟨hquiet.jobs, hquiet.workers, fun c' hc' => ?_, hquiet.live⟩
      rcases mem_cons.1 hc' with rfl | hc'
      · rfl
      · exact hquiet.calls c' hc'
  | @jobCall workers job add adds hwork =>
    refine ⟨h.bounded, h.closed, h.drained,
      .inl (.inr (.inl ⟨_, mem_cons_self _ _, nofun⟩)), h.held, ?_, fun c j hc hj => ?_,
      fun c hc hw => ?_⟩
    · rintro c (hc | hc) hworker
      · rcases mem_cons.1 hc with rfl | hc
        · exact ⟨add, rfl⟩
        · exact h.byJob c (.inl hc) hworker
      · exact h.byJob c (.inr hc) hworker
    · rcases h.room c j hc hj with hroom | ⟨w, hw, hfree⟩
      · exact .inl hroom
      · rw [hwork] at hw
        rcases mem_cons.1 hw with rfl | hw
        · rcases hfree with hfree | ⟨_, hfree⟩ <;> cases hfree
        · exact .inr ⟨w, hw, hfree⟩
    · have hnone := (h.quiet c hc hw).workers _ (hwork ▸ mem_cons_self _ _)
      cases hnone
  | enter hhold hwait => exact h.enter hhold hwait hfits
  | send hhold hop hroom => exact h.send hhold hop hroom
  | wake hhold hop hwg => exact h.wake hbooks hhold hop hwg
  | receive hjobs hwork => exact h.receive hjobs hwork
  | @finish workers job hwork =>
    refine ⟨h.bounded, h.closed, h.drained, .inl (.inl cons_ne_zero), h.held, h.byJob,
      fun _ _ _ _ => .inr ⟨.idle, mem_cons_self _ _, .inl rfl⟩, fun c hc hw => ?_⟩
    have hquiet := h.quiet c hc hw
    refine ⟨hquiet.jobs, fun r hr => ?_, hquiet.calls, fun _ => cons_ne_zero⟩
    rcases mem_cons.1 hr with hr | hr
    · cases hr
    · exact hquiet.workers r (hwork ▸ mem_cons_of_mem hr)
  | exit hwork hdone => exact h.exit hwork hdone hfits

/-! ### The pool goes on -/

/-- A worker that can receive has a step to take, or there is room in the channel. -/
theorem CanReceive.exists_step (size : ℕ) (h : CanReceive pool) :
    pool.jobs = [] ∨ ∃ label next, InternalStep size pool label next := by
  obtain ⟨worker, hworker, rfl | ⟨job, rfl⟩⟩ := h
  · obtain ⟨workers, hwork⟩ := exists_cons_of_mem hworker
    cases hjobs : pool.jobs with
    | nil => exact .inl rfl
    | cons job jobs =>
      obtain ⟨number, ⟨adds⟩⟩ := job
      exact .inr ⟨_, _, .receive hjobs hwork, nofun⟩
  · obtain ⟨workers, hwork⟩ := exists_cons_of_mem hworker
    exact .inr ⟨_, _, .finish hwork, nofun⟩

/-- Where no job adds one, workers can receive as long as there is one. -/
theorem canReceive_of_ne_zero (hwork : pool.workers ≠ 0)
    (hadds : ∀ job, .running job ∈ pool.workers → job.adds = []) : CanReceive pool := by
  obtain ⟨worker, hworker⟩ := exists_mem_of_ne_zero hwork
  refine ⟨worker, hworker, ?_⟩
  cases worker with
  | idle => exact .inl rfl
  | running job =>
    obtain ⟨number, adds⟩ := job
    exact .inr ⟨number, by rw [← hadds _ hworker]⟩

/-- Some worker is on a job, if there is an active job and no call has it. -/
theorem exists_running_of_active (hact : pool.active ≠ 0)
    (hcalls : ∀ call, call ∈ pool.waiting ∨ pool.holder = some call → call.worker = none) :
    ∃ job, .running job ∈ pool.workers := by
  by_contra hnone
  have hjobs : ∀ call, call ∈ pool.waiting ∨ pool.holder = some call → call.jobs = 0 := by
    intro call hcall
    unfold Call.jobs
    rw [hcalls call hcall]
  refine hact ?_
  have hwork : (pool.workers.map Worker.jobs).sum = 0 := by
    refine sum_eq_zero fun x hx => ?_
    obtain ⟨worker, hworker, rfl⟩ := mem_map.1 hx
    cases worker with
    | idle => rfl
    | running job => exact absurd ⟨job, hworker⟩ hnone
  have hwait : (pool.waiting.map Call.jobs).sum = 0 := by
    refine sum_eq_zero fun x hx => ?_
    obtain ⟨call, hcall, rfl⟩ := mem_map.1 hx
    exact hjobs call (.inl hcall)
  have hhold : (pool.holder.map Call.jobs).getD 0 = 0 := by
    cases hh : pool.holder with
    | none => rfl
    | some call => exact hjobs call (.inr hh)
  rw [Pool.active, hwork, hwait, hhold]
  rfl

/-- **Progress.**  Under the guards some worker or call has a step to take, or no call waits, no
job is on a worker and none is left in the channel of a pool that was not cancelled. -/
theorem Guarded.progress (h : Guarded size pool) (hbooks : Books pool) (hsize : 0 < size) :
    (∃ label next, InternalStep size pool label next) ∨
      pool.holder = none ∧ pool.waiting = 0 ∧ pool.active = 0 ∧
        (pool.cancelCalled = true ∨ pool.jobs = []) := by
  cases hhold : pool.holder with
  | some call =>
    refine .inl ?_
    rcases h.held call hhold with ⟨⟨job, hop⟩, -⟩ | hop
    · have hsend : pool.jobs.length < size → ∃ label next, InternalStep size pool label next :=
        fun hroom => ⟨_, _, .send hhold hop hroom, nofun⟩
      rcases h.room call job hhold hop with hroom | hrecv
      · exact hsend hroom
      · rcases hrecv.exists_step size with hnil | hstep
        · exact hsend (by rw [hnil]; exact hsize)
        · exact hstep
    · have hquiet := h.quiet call hhold hop
      by_cases hwg : pool.wg = 0
      · exact ⟨_, _, .wake hhold hop hwg, nofun⟩
      by_cases hjobs : pool.jobs = []
      · have hunsent : pool.unsent = 0 := by
          obtain ⟨op, worker⟩ := call
          unfold Pool.unsent
          rw [hhold]
          rcases hop with hop | hop <;> obtain rfl : op = _ := hop <;> rfl
        have hact : pool.active ≠ 0 := by
          intro hzero
          have hcounted := hbooks.counted
          rw [hjobs, hzero, hunsent] at hcounted
          exact hwg hcounted
        obtain ⟨job, hjob⟩ := exists_running_of_active hact fun c hc => by
          by_contra hworker
          obtain ⟨add, hadd⟩ := h.byJob c hc hworker
          rcases hc with hc | hc
          · exact hworker (hquiet.calls c hc)
          · rw [hhold] at hc
            rw [← Option.some.inj hc] at hadd
            rw [hadd] at hop
            exact not_waits_addJob hop
        obtain ⟨workers, hwork⟩ := exists_cons_of_mem hjob
        obtain ⟨number, adds⟩ := job
        obtain rfl : adds = [] := hquiet.workers _ hjob
        exact ⟨_, _, .finish hwork, nofun⟩
      · exact ((canReceive_of_ne_zero (hquiet.live hjobs)
          hquiet.workers).exists_step size).resolve_left hjobs
  | none =>
    by_cases hwait : pool.waiting = 0
    swap
    · obtain ⟨call, hcall⟩ := exists_mem_of_ne_zero hwait
      obtain ⟨waiting, hwait⟩ := exists_cons_of_mem hcall
      exact .inl ⟨_, _, .enter hhold hwait, nofun⟩
    by_cases hrunning : ∃ job, .running job ∈ pool.workers
    · obtain ⟨⟨number, adds⟩, hjob⟩ := hrunning
      obtain ⟨workers, hwork⟩ := exists_cons_of_mem hjob
      cases adds with
      | nil => exact .inl ⟨_, _, .finish hwork, nofun⟩
      | cons add adds => exact .inl ⟨_, _, .jobCall hwork, nofun⟩
    have hact : pool.active = 0 := by
      by_contra hact
      refine hrunning (exists_running_of_active hact fun c hc => ?_)
      rcases hc with hc | hc
      · rw [hwait] at hc
        exact absurd hc (notMem_zero c)
      · rw [hhold] at hc
        cases hc
    by_cases hjobs : pool.jobs = []
    · exact .inr ⟨rfl, hwait, hact, .inr hjobs⟩
    rcases h.live with (hl | ⟨c, hc, -⟩ | ⟨c, hc, -⟩) | hcalled | ⟨-, hnil⟩
    · exact .inl (((canReceive_of_ne_zero hl fun job hjob =>
        absurd ⟨job, hjob⟩ hrunning).exists_step size).resolve_left hjobs)
    · rw [hwait] at hc
      exact absurd hc (notMem_zero c)
    · rw [hhold] at hc
      cases hc
    · exact .inr ⟨rfl, hwait, hact, .inl hcalled⟩
    · exact absurd hnil hjobs

theorem Books.allFinished (h : Books pool) (hjobs : pool.jobs = []) (hact : pool.active = 0) :
    AllFinished pool := by
  intro job hjob
  have hplaces := h.places
  rw [hjobs, hact, List.map_nil, coe_nil, zero_add, zero_add] at hplaces
  rw [hplaces]
  exact mem_range.2 hjob

/-! ### Runs of steps that fit -/

theorem books_newWorkerPoolWaitable (workerCount : ℕ) :
    Books (newWorkerPoolWaitable workerCount) := by
  have hact : (newWorkerPoolWaitable workerCount).active = 0 := by
    simp [Pool.active, newWorkerPoolWaitable]
  refine ⟨?_, ?_, ?_⟩ <;> rw [hact] <;> rfl

theorem guarded_newWorkerPoolWaitable (size : ℕ) {workerCount : ℕ} (hwork : 0 < workerCount) :
    Guarded size (newWorkerPoolWaitable workerCount) where
  bounded := Nat.zero_le _
  closed := nofun
  drained := nofun
  live := by
    refine .inl (.inl fun hzero => ?_)
    have hcard := congrArg card hzero
    rw [newWorkerPoolWaitable, card_replicate, card_zero] at hcard
    omega
  held := nofun
  byJob call hcall := by
    rcases hcall with hcall | hcall
    · exact absurd hcall (notMem_zero call)
    · cases hcall
  room := nofun
  quiet := nofun

/-- What holds in every state of a run of steps that fit. -/
theorem invariant_of_fits {workerCount : ℕ} (hwork : 0 < workerCount)
    {run : List (Label × Pool)} (h : Along (Step size) (newWorkerPoolWaitable workerCount) run)
    (hfits : Along (fun state label _ => Fits size state label) (newWorkerPoolWaitable workerCount)
      run) : ∀ state ∈ statesOfRun (newWorkerPoolWaitable workerCount) run,
      Books state ∧ Guarded size state := by
  refine (Along.and_iff.2 ⟨h, hfits⟩).rule
    ⟨books_newWorkerPoolWaitable workerCount, guarded_newWorkerPoolWaitable size hwork⟩ ?_
  rintro state label next ⟨hstep, hfit⟩ ⟨hbooks, hguarded⟩
  exact ⟨hbooks.step hstep, hguarded.step hbooks hstep hfit⟩

/-- **The pool works in a run of steps that fit.** -/
theorem works_of_fits {size workerCount : ℕ} (hsize : 0 < size) (hworkers : 0 < workerCount)
    {run : List (Label × Pool)} (h : Along (Step size) (newWorkerPoolWaitable workerCount) run)
    (hfits : Along (fun state label _ => Fits size state label) (newWorkerPoolWaitable workerCount)
      run) : Works size (newWorkerPoolWaitable workerCount) run := by
  have hinv := invariant_of_fits hworkers h hfits
  refine ⟨fun state hstate => ?_, fun state _ => ⟨state.steps, fun after hafter => ?_⟩,
    fun state hstate hrest => ?_, ?_, fun state hstate hcall => ?_⟩
  · obtain ⟨hbooks, -⟩ := hinv state hstate
    have hnodup : (range state.accepted).Nodup := nodup_range _
    rw [← hbooks.places, add_assoc, ← hbooks.started] at hnodup
    exact nodup_of_le (le_add_left _ _) hnodup
  · exact hafter.length_le Pool.steps fun _ _ _ hstep => hstep.steps_lt
  · obtain ⟨hbooks, hguarded⟩ := hinv state hstate
    rcases hguarded.progress hbooks hsize with ⟨label, next, hstep⟩ | ⟨-, -, hact, hleft⟩
    · exact absurd hstep (hrest label next)
    · exact hleft.imp_right fun hjobs => hbooks.allFinished hjobs hact
  · refine (Along.and_iff.2 ⟨h, hfits⟩).mono_states hinv ?_
    rintro state label next ⟨hbooks, -⟩ ⟨hstep, hfit⟩ hreturns
    cases hstep with
    | wake hhold hop hwg =>
      have hcounted := hbooks.counted
      refine hbooks.allFinished (List.eq_nil_of_length_eq_zero (by omega)) ?_
      exact card_eq_zero.1 (by omega)
    | enter =>
      obtain ⟨hop, hclos⟩ := hreturns
      simpa [Fits, hop, hclos] using hfit
    | _ => exact hreturns.elim
  · obtain ⟨hbooks, hguarded⟩ := hinv state hstate
    rcases hguarded.progress hbooks hsize with hstep | ⟨hhold, hwait, -⟩
    · exact hstep
    · rcases hcall with hcall | hcall
      · exact absurd hhold hcall
      · exact absurd hwait hcall

/-! ### A pool that waits for a job that adds one -/

/-- One worker has a job that adds another one, and a wait takes the mutex before it does. -/
def waitBeforeAdd : List (Label × Pool) :=
  let add : Job := .mk []
  let job : Job := .mk [add]
  let adder : Worker := .running { job := 0, adds := [add] }
  [(.call (.addJob job), { workers := {.idle}, waiting := {{ op := .addJob job }} }),
    (.enter { op := .addJob job },
      { workers := {.idle}, wg := 1, holder := some { op := .addJob job } }),
    (.send, { workers := {.idle}, wg := 1, jobs := [(0, job)], accepted := 1 }),
    (.receive, { workers := {adder}, wg := 1, accepted := 1, started := {0} }),
    (.call .wait,
      { workers := {adder}, wg := 1, accepted := 1, started := {0}, waiting := {{ op := .wait }} }),
    (.enter { op := .wait },
      { workers := {adder}, wg := 1, accepted := 1, started := {0}
        holder := some { op := .wait } }),
    (.jobCall,
      { workers := 0, wg := 1, accepted := 1, started := {0}
        holder := some { op := .wait }
        waiting := {{ op := .addJob add, worker := some { job := 0, adds := [] } }} })]

theorem step_send_waitBeforeAdd : Step 1
    { workers := {.idle}, wg := 1, holder := some { op := .addJob (.mk [.mk []]) } } .send
    { workers := {.idle}, wg := 1, jobs := [(0, .mk [.mk []])], accepted := 1 } :=
  @Step.send 1 _ { op := .addJob (.mk [.mk []]) } _ rfl rfl Nat.one_pos

/-- Every step up to the wait fits. -/
theorem works_of_fits_waitBeforeAdd :
    (Along (Step 1) (newWorkerPoolWaitable 1) (waitBeforeAdd.take 5) ∧
      Along (fun state label _ => Fits 1 state label) (newWorkerPoolWaitable 1)
        (waitBeforeAdd.take 5)) ∧
      Works 1 (newWorkerPoolWaitable 1) (waitBeforeAdd.take 5) := by
  have hrun : Along (Step 1) (newWorkerPoolWaitable 1) (waitBeforeAdd.take 5) :=
    ⟨.call _, .enter rfl rfl, step_send_waitBeforeAdd, .receive rfl rfl, .call _, trivial⟩
  have hfits : Along (fun state label _ => Fits 1 state label) (newWorkerPoolWaitable 1)
      (waitBeforeAdd.take 5) :=
    ⟨trivial, .inr (.inl Nat.one_pos), trivial, trivial, trivial, trivial⟩
  exact ⟨⟨hrun, hfits⟩, works_of_fits Nat.one_pos Nat.one_pos hrun hfits⟩

/-- The wait holds the mutex that the job needs, and nobody can take a step. -/
theorem not_works : ∃ run, Along (Step 1) (newWorkerPoolWaitable 1) run ∧
    ¬Works 1 (newWorkerPoolWaitable 1) run := by
  refine ⟨waitBeforeAdd, ⟨.call _, .enter rfl rfl, step_send_waitBeforeAdd, .receive rfl rfl,
    .call _, .enter rfl rfl, .jobCall rfl, trivial⟩, fun hworks => ?_⟩
  obtain ⟨label, next, hstep, hinternal⟩ := hworks.notStuck _
    (List.mem_of_getLast? (l := statesOfRun (newWorkerPoolWaitable 1) waitBeforeAdd) rfl)
    (.inl nofun)
  cases hstep with
  | call op => exact hinternal op rfl
  | jobCall hwork => exact zero_ne_cons hwork
  | enter hhold => cases hhold
  | send hhold hop =>
    cases hhold
    cases hop
  | wake _ _ hwg => cases hwg
  | receive hjobs => cases hjobs
  | finish hwork => exact zero_ne_cons hwork
  | exit hwork => exact zero_ne_cons hwork

/-! ### Runs of any steps -/

/-- **Jobs are safe in every run**, also in one that gets stuck: each one that was sent is in one
place and runs once, `wg.Wait` is over when all have finished, and the pool comes to rest. -/
theorem jobsSafe_of_along {workerCount : ℕ} {run : List (Label × Pool)}
    (h : Along (Step size) (newWorkerPoolWaitable workerCount) run) :
    (∀ state ∈ statesOfRun (newWorkerPoolWaitable workerCount) run,
      (state.jobs.map (·.1) : Multiset ℕ) + state.active + state.finished =
        range state.accepted ∧ state.started.Nodup ∧
      ∀ after, Along (InternalStep size) state after → after.length ≤ state.steps) ∧
    Along (fun state label _ => label = .wake → AllFinished state)
      (newWorkerPoolWaitable workerCount) run := by
  have hbooks : ∀ state ∈ statesOfRun (newWorkerPoolWaitable workerCount) run, Books state :=
    h.rule (books_newWorkerPoolWaitable workerCount) fun _ _ _ hstep hbooks => hbooks.step hstep
  refine ⟨fun state hstate => ⟨(hbooks state hstate).places, ?_, fun after hafter =>
    hafter.length_le Pool.steps fun _ _ _ hstep => hstep.steps_lt⟩, h.mono_states hbooks ?_⟩
  · have hnodup : (range state.accepted).Nodup := nodup_range _
    rw [← (hbooks state hstate).places, add_assoc, ← (hbooks state hstate).started] at hnodup
    exact nodup_of_le (le_add_left _ _) hnodup
  · rintro state label next hstate hstep rfl
    cases hstep with
    | wake hhold hop hwg =>
      have hcounted := hstate.counted
      refine hstate.allFinished (List.eq_nil_of_length_eq_zero (by omega)) ?_
      exact card_eq_zero.1 (by omega)

theorem jobsSafe_of_along_waitBeforeAdd :
    ∀ state ∈ statesOfRun (newWorkerPoolWaitable 1) waitBeforeAdd, state.started.Nodup := by
  have hrun : Along (Step 1) (newWorkerPoolWaitable 1) waitBeforeAdd :=
    ⟨.call _, .enter rfl rfl, step_send_waitBeforeAdd, .receive rfl rfl, .call _, .enter rfl rfl,
      .jobCall rfl, trivial⟩
  exact fun state hstate => ((jobsSafe_of_along hrun).1 state hstate).2.1

end Workerpool
end Sebastian
