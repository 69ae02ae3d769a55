/-
# The books of the worker pool

`sebastian/common/workerpool/worker_pool_waitable.go`.  Every job that was added
is in one place: in the channel, on a worker, or finished; and the counter of
the wait group counts those that have not finished (`Books.step`).  What is left
to the workers and to the calls that have been made is finite, since a job adds
finitely many jobs, and every step takes one off it (`InternalStep.steps_lt`).
-/

import Mathlib.Algebra.BigOperators.Group.Multiset.Basic
import Mathlib.Tactic.Abel
import Sebastian.Workerpool.WorkerPoolWaitable

namespace Sebastian
namespace Workerpool

open Multiset Option Pool

/-! ### Counting the jobs -/

/-- The job on a worker, and the job that makes a call. -/
def Worker.jobs : Worker → Multiset ℕ
  | .idle => 0
  | .running job => {job.job}

def Call.jobs (call : Call) : Multiset ℕ :=
  match call.worker with
  | none => 0
  | some job => {job.job}

@[simp] theorem Worker.jobs_idle : Worker.idle.jobs = 0 := rfl

@[simp] theorem Worker.jobs_running (job : Running) :
    (Worker.running job).jobs = {job.job} := rfl

@[simp] theorem Call.jobs_none (op : Op) : ({ op := op } : Call).jobs = 0 := rfl

@[simp] theorem Call.jobs_some (op : Op) (job : Running) :
    ({ op := op, worker := some job } : Call).jobs = {job.job} := rfl

namespace Pool

/-- The jobs that workers have received and not finished. -/
def active (pool : Pool) : Multiset ℕ :=
  (pool.workers.map Worker.jobs).sum + (pool.waiting.map Call.jobs).sum +
    (pool.holder.map Call.jobs).getD 0

/-- The job that `AddJob` has counted and not sent. -/
def unsent (pool : Pool) : ℕ :=
  match pool.holder with
  | some { op := .addJob _, .. } => 1
  | _ => 0

variable {pool : Pool} {call : Call}

@[simp] theorem ret_jobs : (pool.ret call).jobs = pool.jobs := by unfold ret; split <;> rfl

@[simp] theorem ret_wg : (pool.ret call).wg = pool.wg := by unfold ret; split <;> rfl

@[simp] theorem ret_isClosed : (pool.ret call).isClosed = pool.isClosed := by
  unfold ret; split <;> rfl

@[simp] theorem ret_cancelled : (pool.ret call).cancelled = pool.cancelled := by
  unfold ret; split <;> rfl

@[simp] theorem ret_waiting : (pool.ret call).waiting = pool.waiting := by
  unfold ret; split <;> rfl

@[simp] theorem ret_holder : (pool.ret call).holder = pool.holder := by unfold ret; split <;> rfl

@[simp] theorem ret_accepted : (pool.ret call).accepted = pool.accepted := by
  unfold ret; split <;> rfl

@[simp] theorem ret_started : (pool.ret call).started = pool.started := by
  unfold ret; split <;> rfl

@[simp] theorem ret_finished : (pool.ret call).finished = pool.finished := by
  unfold ret; split <;> rfl

@[simp] theorem ret_cancelCalled : (pool.ret call).cancelCalled = pool.cancelCalled := by
  unfold ret; split <;> rfl

/-- The job of a call that returns stays one of the active jobs. -/
theorem active_ret : (pool.ret call).active = pool.active + call.jobs := by
  obtain ⟨op, worker⟩ := call
  cases worker with
  | none => simp [ret]
  | some job =>
    simp only [ret, active, map_cons, sum_cons, Worker.jobs_running,
      Call.jobs_some]
    abel

@[simp] theorem unsent_ret : (pool.ret call).unsent = pool.unsent := by
  unfold unsent
  rw [ret_holder]

end Pool

/-- **The books of the pool.**  The counter counts the jobs in the channel, those on a worker and
the one that is being sent, and every job that was added is in exactly one place. -/
structure Books (pool : Pool) : Prop where
  counted : pool.wg = pool.jobs.length + pool.active.card + pool.unsent
  places : (pool.jobs.map (·.1) : Multiset ℕ) + pool.active + pool.finished =
    Multiset.range pool.accepted
  started : pool.started = pool.active + pool.finished

variable {size : ℕ} {pool pool' : Pool} {label : Label}

/-- What a call does when it takes the mutex: it returns at once, or it stays and waits. -/
theorem Pool.enter_cases (pool : Pool) (call : Call) :
    (∃ closed cancelled called, (pool.isClosed = true → closed = true) ∧
      (called = true ∧ closed = true ∨ called = pool.cancelCalled ∧ cancelled = pool.cancelled) ∧
      pool.enter call = { pool with
        isClosed := closed
        cancelled := cancelled
        cancelCalled := called }.ret call) ∨
    (∃ job, call.op = .addJob job ∧ pool.isClosed = false ∧
      pool.enter call = { pool with wg := pool.wg + 1, holder := some call }) ∨
    (call.op.Waits ∧ (call.op = .waitAndClose → pool.isClosed = false) ∧
      pool.enter call = { pool with holder := some call }) := by
  obtain ⟨op, worker⟩ := call
  cases op with
  | addJob job =>
    cases hclos : pool.isClosed with
    | true =>
      exact .inl ⟨true, pool.cancelled, pool.cancelCalled, fun _ => rfl, .inr ⟨rfl, rfl⟩,
        by simp [enter, ← hclos]⟩
    | false => exact .inr (.inl ⟨job, rfl, rfl, by simp [enter, hclos]⟩)
  | cancelAndClose => exact .inl ⟨true, true, true, fun _ => rfl, .inl ⟨rfl, rfl⟩, rfl⟩
  | close =>
    exact .inl ⟨true, pool.cancelled, pool.cancelCalled, fun _ => rfl, .inr ⟨rfl, rfl⟩, rfl⟩
  | wait => exact .inr (.inr ⟨.inl rfl, nofun, rfl⟩)
  | waitAndClose =>
    cases hclos : pool.isClosed with
    | true =>
      exact .inl ⟨true, pool.cancelled, pool.cancelCalled, fun _ => rfl, .inr ⟨rfl, rfl⟩,
        by simp [enter, ← hclos]⟩
    | false => exact .inr (.inr ⟨.inr rfl, fun _ => rfl, by simp [enter, hclos]⟩)

/-- The books do not change when a job moves from the caller's hands to the one or the other. -/
theorem Books.of_eq (h : Books pool) (hunsent : pool'.wg + pool.unsent = pool.wg + pool'.unsent)
    (hact : pool'.active = pool.active) (hjobs : pool'.jobs = pool.jobs)
    (haccepted : pool'.accepted = pool.accepted) (hstart : pool'.started = pool.started)
    (hfin : pool'.finished = pool.finished) : Books pool' where
  counted := by
    have hcounted := h.counted
    rw [hact, hjobs]
    omega
  places := by
    rw [hjobs, hact, hfin, haccepted]
    exact h.places
  started := by
    rw [hact, hstart, hfin]
    exact h.started

/-- A call that takes the mutex takes nothing out of the books. -/
theorem Books.enter {call : Call} {waiting : Multiset Call} (h : Books pool)
    (hhold : pool.holder = none) (hwait : pool.waiting = call ::ₘ waiting) :
    Books ({ pool with waiting := waiting }.enter call) := by
  have hunsent : pool.unsent = 0 := by
    unfold unsent
    rw [hhold]
  have hact : pool.active = (pool.workers.map Worker.jobs).sum +
      (waiting.map Call.jobs).sum + call.jobs := by
    unfold active
    rw [hhold, hwait, map_cons, sum_cons]
    simp only [map_none, getD_none]
    abel
  rcases enter_cases { pool with waiting := waiting } call with
    ⟨closed, cancelled, called, -, -, e⟩ | ⟨job, hop, -, e⟩ | ⟨hop, -, e⟩
  · rw [e]
    refine h.of_eq ?_ ?_ (by simp) (by simp) (by simp) (by simp)
    · rw [ret_wg, unsent_ret]
      rfl
    · rw [active_ret, hact]
      simp [active, hhold]
  · obtain ⟨op, worker⟩ := call
    obtain rfl : op = _ := hop
    rw [e]
    refine h.of_eq ?_ ?_ rfl rfl rfl rfl
    · rw [hunsent]
      rfl
    · rw [hact]
      rfl
  · rw [e]
    refine h.of_eq ?_ ?_ rfl rfl rfl rfl
    · rw [hunsent]
      obtain ⟨op, worker⟩ := call
      rcases hop with hop | hop <;> obtain rfl : op = _ := hop <;> rfl
    · rw [hact]
      rfl

/-- **Every step keeps the books.** -/
theorem Books.step (h : Books pool) (hstep : Step size pool label pool') : Books pool' := by
  cases hstep with
  | call op => exact h.of_eq rfl (by simp [active]) rfl rfl rfl rfl
  | @jobCall workers job add adds hwork =>
    refine h.of_eq rfl ?_ rfl rfl rfl rfl
    simp only [active, hwork, map_cons, sum_cons, Worker.jobs_running,
      Call.jobs_some]
    abel
  | enter hhold hwait => exact h.enter hhold hwait
  | @send call job hhold hop hroom =>
    obtain ⟨op, worker⟩ := call
    obtain rfl : op = _ := hop
    have hunsent : pool.unsent = 1 := by
      unfold unsent
      rw [hhold]
    have hact : (ret { pool with
        holder := none
        jobs := pool.jobs ++ [(pool.accepted, job)]
        accepted := pool.accepted + 1 } ⟨.addJob job, worker⟩).active = pool.active := by
      rw [active_ret]
      simp [active, hhold]
    have hcounted := h.counted
    refine ⟨?_, ?_, ?_⟩
    · rw [hact, unsent_ret, ret_wg, ret_jobs, List.length_append,
        List.length_singleton]
      simp only [unsent]
      omega
    · rw [hact, ret_jobs, ret_finished, ret_accepted, range_succ,
        ← h.places, List.map_append, ← coe_add]
      simp only [List.map_cons, List.map_nil, coe_singleton, ← singleton_add]
      abel
    · rw [hact, ret_started, ret_finished]
      exact h.started
  | @wake call hhold hop hwg =>
    obtain ⟨op, worker⟩ := call
    rcases hop with hop | hop <;> obtain rfl : op = _ := hop <;>
    · refine h.of_eq ?_ ?_ (by simp [waitDone]) (by simp [waitDone])
        (by simp [waitDone]) (by simp [waitDone])
      · rw [ret_wg, unsent_ret]
        simp [waitDone, unsent, hhold]
      · rw [active_ret]
        simp [waitDone, active, hhold]
  | @receive jobs workers job adds hjobs hwork =>
    have hact : active { pool with
        jobs := jobs
        workers := .running { job := job, adds := adds } ::ₘ workers
        started := job ::ₘ pool.started } = job ::ₘ pool.active := by
      simp only [active, hwork, map_cons, sum_cons, Worker.jobs_running,
        Worker.jobs_idle, zero_add, singleton_add, cons_add]
    obtain ⟨hcounted, hplaces, hstart⟩ := h
    rw [hjobs] at hcounted hplaces
    refine ⟨?_, ?_, ?_⟩
    · rw [hact, card_cons, hcounted, List.length_cons]
      simp only [unsent]
      omega
    · rw [hact, ← hplaces, List.map_cons, ← cons_coe]
      simp only [add_cons, cons_add]
    · rw [hact, hstart, cons_add]
  | @finish workers job hwork =>
    have hact : pool.active = job ::ₘ active { pool with
        wg := pool.wg - 1
        workers := .idle ::ₘ workers
        finished := job ::ₘ pool.finished } := by
      simp only [active, hwork, map_cons, sum_cons, Worker.jobs_running,
        Worker.jobs_idle, zero_add, singleton_add, cons_add]
    obtain ⟨hcounted, hplaces, hstart⟩ := h
    rw [hact] at hcounted hplaces hstart
    refine ⟨?_, ?_, ?_⟩
    · rw [card_cons] at hcounted
      simp only [unsent] at hcounted ⊢
      omega
    · rw [← hplaces]
      simp only [add_cons, cons_add]
    · refine hstart.trans ?_
      simp only [add_cons, cons_add]
  | @exit workers hwork hdone =>
    refine h.of_eq rfl ?_ rfl rfl rfl rfl
    simp [active, hwork]

/-! ### The pool comes to rest -/

mutual

/-- The steps that a job in the channel can take, with those of the jobs it adds. -/
def Job.steps : Job → ℕ
  | .mk adds => 2 + Job.stepsOfAdds adds

/-- The steps of the jobs to be added, from the calls that add them. -/
def Job.stepsOfAdds : List Job → ℕ
  | [] => 0
  | add :: adds => 3 + add.steps + Job.stepsOfAdds adds

end

/-- The steps of a worker in its loop; the last one is to leave it. -/
def Worker.steps : Worker → ℕ
  | .idle => 1
  | .running job => 2 + Job.stepsOfAdds job.adds

/-- The steps that follow from a call. -/
def Op.steps : Op → ℕ
  | .addJob job => job.steps
  | _ => 0

/-- The steps of a call that has the mutex, with those of the job that made it. -/
def Call.steps (call : Call) : ℕ :=
  1 + call.op.steps +
    match call.worker with
    | none => 0
    | some job => 2 + Job.stepsOfAdds job.adds

/-- All steps that are left to the workers and the calls that have been made. -/
def Pool.steps (pool : Pool) : ℕ :=
  (pool.jobs.map fun job => job.2.steps).sum + (pool.workers.map Worker.steps).sum +
    (pool.waiting.map fun call => 1 + call.steps).sum + (pool.holder.map Call.steps).getD 0

/-- A call that returns leaves the steps of its job. -/
theorem Pool.steps_ret (pool : Pool) (call : Call) :
    (pool.ret call).steps + 1 + call.op.steps = pool.steps + call.steps := by
  obtain ⟨op, worker⟩ := call
  cases worker with
  | none =>
    simp only [ret, Call.steps]
    omega
  | some job =>
    simp only [ret, steps, Call.steps, map_cons, sum_cons, Worker.steps]
    omega

theorem Pool.steps_of_holder {call : Call} (hhold : pool.holder = some call) :
    pool.steps = steps { pool with holder := none } + call.steps := by
  simp only [steps, hhold, map_none, map_some, getD_none,
    getD_some, Nat.add_zero]

/-- **Every step that is not a new call is one of those that were left.** -/
theorem InternalStep.steps_lt (h : InternalStep size pool label pool') :
    pool'.steps < pool.steps := by
  obtain ⟨hstep, hinternal⟩ := h
  cases hstep with
  | call op => exact absurd rfl (hinternal op)
  | @jobCall workers job add adds hwork =>
    simp only [steps, hwork, map_cons, sum_cons, Worker.steps,
      Call.steps, Op.steps, Job.stepsOfAdds]
    omega
  | @enter waiting call hhold hwait =>
    have hsteps : pool.steps = steps { pool with waiting := waiting } + (1 + call.steps) := by
      simp only [steps, hwait, map_cons, sum_cons]
      omega
    rw [hsteps]
    rcases enter_cases { pool with waiting := waiting } call with
      ⟨closed, cancelled, called, -, -, e⟩ | ⟨job, -, -, e⟩ | ⟨-, -, e⟩
    · have hret := steps_ret { pool with
        waiting := waiting
        isClosed := closed
        cancelled := cancelled
        cancelCalled := called } call
      rw [e]
      simp only [steps] at hret ⊢
      omega
    · rw [e]
      simp only [steps, hhold, map_none, map_some, getD_none,
        getD_some]
      omega
    · rw [e]
      simp only [steps, hhold, map_none, map_some, getD_none,
        getD_some]
      omega
  | @send call job hhold hop hroom =>
    have hret := steps_ret { pool with
      holder := none
      jobs := pool.jobs ++ [(pool.accepted, job)]
      accepted := pool.accepted + 1 } call
    have hsent : steps { pool with
        holder := none
        jobs := pool.jobs ++ [(pool.accepted, job)]
        accepted := pool.accepted + 1 } =
        steps { pool with holder := none } + job.steps := by
      simp only [steps, List.map_append, List.sum_append, List.map_cons, List.map_nil,
        List.sum_cons, List.sum_nil]
      omega
    rw [hsent, hop, Op.steps] at hret
    rw [steps_of_holder hhold]
    omega
  | @wake call hhold hop hwg =>
    have hret := steps_ret (({ pool with holder := none } : Pool).waitDone call.op) call
    have hdone : (({ pool with holder := none } : Pool).waitDone call.op).steps =
        steps { pool with holder := none } := by
      rcases hop with hop | hop <;> rw [hop] <;> rfl
    rw [hdone] at hret
    rw [steps_of_holder hhold]
    omega
  | @receive jobs workers job adds hjobs hwork =>
    simp only [steps, hjobs, hwork, List.map_cons, List.sum_cons, map_cons,
      sum_cons, Worker.steps, Job.steps]
    omega
  | @finish workers job hwork =>
    simp only [steps, hwork, map_cons, sum_cons, Worker.steps,
      Job.stepsOfAdds]
    omega
  | @exit workers hwork hdone =>
    simp only [steps, hwork, map_cons, sum_cons, Worker.steps]
    omega

end Workerpool
end Sebastian
