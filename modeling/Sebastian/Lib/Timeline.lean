/-
# A bounded linear history

What undo and redo are for.  A `Timeline` is a line of states with a cursor:
the states before the cursor, the present one, and those after it.  `undo` and
`redo` move the cursor and leave the line alone (`line_of_undo`,
`line_of_redo`), a redo takes back an undo (`redo_of_undo`), and `commit` cuts
the line at the cursor and adds a state to the past, of which the last `limit`
ones are kept (`undo_commit`).  That no more than `limit` states lie outside the
present is part of the type.

A `Session` is a timeline in use: a transaction remembers the state it was
opened at, edits replace the present, and the commit of a transaction with
edits counts as one step of the line, however many edits it had and however
many requests shared it.
-/

import Mathlib.Data.List.DropRight

namespace Sebastian

open List Option

/-- A line of states with a cursor.  Both halves are stacks with their top at
the end of the list: `past` begins with the oldest state, `future` with the
latest. -/
structure Timeline (α : Type*) (limit : ℕ) where
  past : List α
  present : α
  future : List α
  bound : past.length + future.length ≤ limit

namespace Timeline

variable {α : Type*} {limit : ℕ}

@[ext] theorem ext {t u : Timeline α limit} (hp : t.past = u.past) (hc : t.present = u.present)
    (hf : t.future = u.future) : t = u := by
  cases t; cases u; congr

/-- A line of one state. -/
def start (a : α) : Timeline α limit := ⟨[], a, [], Nat.zero_le _⟩

/-- Replace the present, without a trace. -/
def edit (t : Timeline α limit) (a : α) : Timeline α limit := { t with present := a }

/-- Make a step of the line: `before` becomes the newest past state, states past
the limit are forgotten from the oldest end, and there is no future. -/
def commit (t : Timeline α limit) (before : α) : Timeline α limit where
  past := (t.past ++ [before]).rtake limit
  present := t.present
  future := []
  bound := by rw [List.rtake, List.length_drop, List.length_nil]; omega

/-- Move the cursor one state back. -/
def undo (t : Timeline α limit) : Option (Timeline α limit) :=
  if h : t.past = [] then none
  else some
    { past := t.past.dropLast
      present := t.past.getLast h
      future := t.future ++ [t.present]
      bound := by
        have hpos := List.length_pos_iff.2 h
        have hb := t.bound
        rw [List.length_dropLast, List.length_append, List.length_singleton]
        omega }

/-- Move the cursor one state on. -/
def redo (t : Timeline α limit) : Option (Timeline α limit) :=
  if h : t.future = [] then none
  else some
    { past := t.past ++ [t.present]
      present := t.future.getLast h
      future := t.future.dropLast
      bound := by
        have hpos := List.length_pos_iff.2 h
        have hb := t.bound
        rw [List.length_dropLast, List.length_append, List.length_singleton]
        omega }

/-- All the states, oldest first. -/
def line (t : Timeline α limit) : List α := t.past ++ t.present :: t.future.reverse

/-- Where in the line the present stands. -/
def cursor (t : Timeline α limit) : ℕ := t.past.length

variable {t u : Timeline α limit}

theorem exists_undo (h : t.past ≠ []) : ∃ u, t.undo = some u := by
  rw [undo, dif_neg h]
  exact ⟨_, rfl⟩

theorem exists_redo (h : t.future ≠ []) : ∃ u, t.redo = some u := by
  rw [redo, dif_neg h]
  exact ⟨_, rfl⟩

theorem undo_eq_some_iff : t.undo = some u ↔
    t.past = u.past ++ [u.present] ∧ u.future = t.future ++ [t.present] := by
  unfold undo
  split_ifs with h
  · refine iff_of_false (by simp) ?_
    rintro ⟨hp, -⟩
    simp [h] at hp
  · rw [some.injEq]
    refine ⟨?_, ?_⟩
    · rintro rfl
      exact ⟨(dropLast_append_getLast h).symm, rfl⟩
    · rintro ⟨hp, hf⟩
      ext1
      · simp [hp]
      · simp [hp]
      · exact hf.symm

theorem redo_eq_some_iff : t.redo = some u ↔
    t.future = u.future ++ [u.present] ∧ u.past = t.past ++ [t.present] := by
  unfold redo
  split_ifs with h
  · refine iff_of_false (by simp) ?_
    rintro ⟨hf, -⟩
    simp [h] at hf
  · rw [some.injEq]
    refine ⟨?_, ?_⟩
    · rintro rfl
      exact ⟨(dropLast_append_getLast h).symm, rfl⟩
    · rintro ⟨hf, hp⟩
      ext1
      · exact hp.symm
      · simp [hf]
      · simp [hf]

/-- **A redo after an undo restores the timeline**, the undone state included. -/
theorem redo_of_undo (h : t.undo = some u) : u.redo = some t := by
  obtain ⟨hp, hf⟩ := undo_eq_some_iff.1 h
  exact redo_eq_some_iff.2 ⟨hf, hp⟩

theorem line_of_undo (h : t.undo = some u) : u.line = t.line ∧ u.cursor + 1 = t.cursor := by
  obtain ⟨hp, hf⟩ := undo_eq_some_iff.1 h
  simp [line, cursor, hp, hf]

theorem line_of_redo (h : t.redo = some u) : u.line = t.line ∧ u.cursor = t.cursor + 1 := by
  obtain ⟨hf, hp⟩ := redo_eq_some_iff.1 h
  simp [line, cursor, hp, hf]

theorem past_commit (t : Timeline α limit) (before : α) :
    (t.commit before).past = (t.past ++ [before]).rtake limit := rfl

theorem past_commit_of_lt {before : α} (h : t.past.length < limit) :
    (t.commit before).past = t.past ++ [before] := by
  rw [past_commit, rtake, length_append, length_singleton,
    Nat.sub_eq_zero_of_le h, drop_zero]

/-- **At the limit a step forgets the oldest state only.** -/
theorem past_commit_of_length_eq {before : α} (h : t.past.length = limit) (hpos : 0 < limit) :
    (t.commit before).past = t.past.tail ++ [before] := by
  rw [past_commit, rtake, length_append, length_singleton, h,
    Nat.add_sub_cancel_left, drop_one, tail_append_of_ne_nil]
  exact ne_nil_of_length_pos (by omega)

/-- The past after a step, as a program that makes room first computes it. -/
theorem past_commit_eq (t : Timeline α limit) {before : α} (hpos : 0 < limit) :
    (t.commit before).past =
      (if t.past.length ≥ limit then t.past.tail else t.past) ++ [before] := by
  have hb := t.bound
  split_ifs with h
  · exact past_commit_of_length_eq (by omega) hpos
  · exact past_commit_of_lt (by omega)

theorem mem_past_commit {before a : α} (h : a ∈ (t.commit before).past) :
    a ∈ t.past ∨ a = before := by
  rw [past_commit] at h
  simpa using mem_of_mem_drop h

/-- **An undo after a step restores the state before it.** -/
theorem undo_commit (t : Timeline α limit) (before : α) (hpos : 0 < limit) :
    ∃ u, (t.commit before).undo = some u ∧ u.present = before := by
  have hne : (t.commit before).past ≠ [] := by
    rw [past_commit, rtake, ne_eq, drop_eq_nil_iff, length_append,
      length_singleton]
    omega
  refine ⟨_, by rw [undo, dif_neg hne], ?_⟩
  simp only [past_commit, rtake]
  rw [getLast_drop, getLast_concat]

end Timeline

/-- A timeline in use. -/
structure Session (α : Type*) (limit : ℕ) where
  timeline : Timeline α limit
  /-- The open transaction: the state it was opened at, and whether something
  was edited since. -/
  opened : Option (α × Bool) := none
  /-- Several requests share one transaction: commits are put off. -/
  shared : Bool := false

/-- What a session can be asked to do. -/
inductive Session.Request (α : Type*) where
  | share
  | unshare
  | start
  | stop
  | edit (a : α)
  /-- A request that concerns something else. -/
  | skip
  | commit
  | undo
  | redo

namespace Session

variable {α : Type*} {limit : ℕ}

/-- Whether the request replaces the present. -/
def Request.isEdit : Request α → Bool
  | .edit _ => true
  | _ => false

/-- Open a transaction, or join the open one if it is shared. -/
def startTransaction (s : Session α limit) : Option (Session α limit) :=
  match s.opened with
  | none => some { s with opened := some (s.timeline.present, false) }
  | some _ => if s.shared then some s else none

/-- Close the open transaction: with edits it is one step of the timeline. -/
def commitTransaction (s : Session α limit) : Option (Session α limit) :=
  if s.shared then some s
  else
    match s.opened with
    | none => none
    | some (_, false) => some { s with opened := none }
    | some (before, true) => some { s with timeline := s.timeline.commit before, opened := none }

/-- Replace the present; an open transaction takes note. -/
def edit (s : Session α limit) (a : α) : Session α limit :=
  { s with timeline := s.timeline.edit a, opened := s.opened.map fun o => (o.1, true) }

/-- One request.  `none`: it is refused. -/
def step (s : Session α limit) : Request α → Option (Session α limit)
  | .share => if s.shared then none else startTransaction { s with shared := true }
  | .unshare => if s.shared then some { s with shared := false } else none
  | .start => s.startTransaction
  | .stop => s.opened.map fun _ => { s with opened := none }
  | .edit a => some (s.edit a)
  | .skip => some s
  | .commit => s.commitTransaction
  | .undo => s.timeline.undo.map fun t => { s with timeline := t }
  | .redo => s.timeline.redo.map fun t => { s with timeline := t }

/-- A sequence of requests, none of them refused. -/
def run (s : Session α limit) (requests : List (Request α)) : Option (Session α limit) :=
  requests.foldlM step s

theorem run_concat (s : Session α limit) (requests : List (Request α)) (r : Request α) :
    s.run (requests ++ [r]) = (s.run requests).bind (·.step r) := by
  simp [run, foldlM_append]

/-! ### A transaction is one step -/

variable {s t : Session α limit} {before : α} {dirty : Bool}

/-- What an open transaction leaves alone: the state it was opened at, and both
halves of the timeline. -/
structure Holds (s : Session α limit) (past future : List α) (before : α) (dirty : Bool) :
    Prop where
  past : s.timeline.past = past
  future : s.timeline.future = future
  opened : s.opened = some (before, dirty)

/-- A request that opens a transaction opens it at the present state. -/
theorem Holds.of_step {r : Request α} (hclos : s.opened = none) (hstep : s.step r = some t)
    (hopened : t.opened.isSome = true) :
    t.Holds s.timeline.past s.timeline.future s.timeline.present false := by
  cases r with
  | share =>
    simp only [Session.step, startTransaction, hclos] at hstep
    split_ifs at hstep
    cases hstep
    exact ⟨rfl, rfl, rfl⟩
  | start =>
    simp only [Session.step, startTransaction, hclos] at hstep
    cases hstep
    exact ⟨rfl, rfl, rfl⟩
  | unshare =>
    rw [Session.step] at hstep
    split_ifs at hstep
    cases hstep
    rw [hclos] at hopened
    cases hopened
  | stop =>
    rw [Session.step, hclos] at hstep
    cases hstep
  | edit a =>
    cases hstep
    rw [edit, hclos] at hopened
    cases hopened
  | skip =>
    cases hstep
    rw [hclos] at hopened
    cases hopened
  | commit =>
    rw [Session.step, commitTransaction, hclos] at hstep
    split_ifs at hstep
    cases hstep
    rw [hclos] at hopened
    cases hopened
  | undo =>
    obtain ⟨u, -, rfl⟩ := map_eq_some_iff.1 hstep
    rw [hclos] at hopened
    cases hopened
  | redo =>
    obtain ⟨u, -, rfl⟩ := map_eq_some_iff.1 hstep
    rw [hclos] at hopened
    cases hopened

/-- **Inside a transaction only the present moves:** a request that is neither
an undo nor a redo and leaves the transaction open keeps the past, the future
and the state the transaction was opened at; an edit marks it, and nothing
unmarks it. -/
theorem Holds.step {past future : List α} {r : Request α} (h : s.Holds past future before dirty)
    (hstep : s.step r = some t) (hundo : r ≠ .undo) (hredo : r ≠ .redo) (hopen : t.opened ≠ none) :
    t.Holds past future before (dirty || r.isEdit) := by
  obtain ⟨hp, hf, ho⟩ := h
  cases r with
  | share =>
    simp only [Session.step, startTransaction, ho] at hstep
    split_ifs at hstep
    cases hstep
    exact ⟨hp, hf, by simp [Request.isEdit]⟩
  | unshare =>
    simp only [Session.step] at hstep
    split_ifs at hstep
    cases hstep
    exact ⟨hp, hf, by simp [Request.isEdit, ho]⟩
  | start =>
    simp only [Session.step, startTransaction, ho] at hstep
    split_ifs at hstep
    cases hstep
    exact ⟨hp, hf, by simp [Request.isEdit, ho]⟩
  | stop =>
    simp only [Session.step, ho, map_some, some.injEq] at hstep
    exact absurd (by rw [← hstep]) hopen
  | edit a =>
    cases hstep
    exact ⟨hp, hf, by simp [edit, Request.isEdit, ho]⟩
  | skip =>
    cases hstep
    exact ⟨hp, hf, by simp [Request.isEdit, ho]⟩
  | commit =>
    simp only [Session.step, commitTransaction, ho] at hstep
    split_ifs at hstep
    · cases hstep
      exact ⟨hp, hf, by simp [Request.isEdit, ho]⟩
    · cases dirty <;> simp only [some.injEq] at hstep <;>
        exact absurd (by rw [← hstep]) hopen
  | undo => exact absurd rfl hundo
  | redo => exact absurd rfl hredo

/-- The commit that closes a transaction with edits makes one step of the
timeline. -/
theorem Holds.commit {past future : List α} (h : s.Holds past future before true)
    (hstep : s.step .commit = some t) (hclos : t.opened = none) :
    t.timeline = s.timeline.commit before := by
  rw [Session.step, commitTransaction, h.opened] at hstep
  split_ifs at hstep
  · cases hstep
    rw [h.opened] at hclos
    cases hclos
  · cases hstep
    rfl

end Session
end Sebastian
