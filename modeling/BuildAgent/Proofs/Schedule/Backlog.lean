import BuildAgent.Schedule.Backlog
import Mathlib.Logic.Function.Iterate

/-!
# Nothing is lost in the backlog

A job that runs may schedule further jobs, so the queue can grow while it is being emptied, and a
job that schedules itself keeps it from ever running dry. What holds all the same is a law of
conservation: the jobs that have run, followed by those that still wait, are the jobs that were ever
scheduled, in the order in which they were.

To state it, a ledger is kept beside the state of the jobs. Every job enters in it that it runs and
what it schedules, and whoever drives the backlog enters what is scheduled from outside. The ledger
is written by the jobs and not by the backlog, and `Drive.record_forget` says that the backlog does
the same whether or not one is kept. One drive keeps the books balanced (`Balanced.record`), so
they are after any number of them. `scheduled_jobs_accounted_for` is the main result.
-/

namespace BuildAgent.Schedule.Backlog

variable {α σ ρ : Type}

/-! ## The ledger -/

/-- The state of the jobs, and beside it all jobs that ran and all that were ever scheduled. -/
structure Ledger (α σ : Type) where
  state : σ
  ran : List α := []
  scheduled : List (Nat × α) := []
  deriving DecidableEq

/-- Lets a job enter in the ledger that it runs and what it schedules. -/
def recording (run : α → σ → σ × List (Nat × α)) (job : α) (ledger : Ledger α σ) :
    Ledger α σ × List (Nat × α) :=
  let (state, jobs) := run job ledger.state
  (⟨state, ledger.ran ++ [job], ledger.scheduled ++ jobs⟩, jobs)

/-- What is left of a result when the ledger is put aside. -/
def forget (result : ρ × Backlog α × Ledger α σ) : ρ × Backlog α × σ :=
  (result.1, result.2.1, result.2.2.state)

/-- What can be asked of a scheduler from outside. -/
inductive Drive (α : Type) where
  | schedule (delay : Nat) (job : α)
  | runNext
  | runUntilIdle (limit : Nat)

/-- What a drive does to the backlog and to the state of the jobs. -/
def Drive.apply (run : α → σ → σ × List (Nat × α)) :
    Drive α → Backlog α × σ → Backlog α × σ
  | .schedule delay job, (backlog, state) => (backlog.schedule delay job, state)
  | .runNext, (backlog, state) => (backlog.runNext run state).2
  | .runUntilIdle limit, (backlog, state) => (Backlog.runUntilIdle run limit backlog state).2

/-- A drive whose jobs keep the ledger. What it schedules itself it enters itself. -/
def Drive.record (run : α → σ → σ × List (Nat × α)) (drive : Drive α)
    (books : Backlog α × Ledger α σ) : Backlog α × Ledger α σ :=
  match drive with
  | .schedule delay job =>
    (books.1.schedule delay job,
      { books.2 with scheduled := books.2.scheduled ++ [(delay, job)] })
  | drive => drive.apply (recording run) books

/-- The backlog and the ledger after some drives, of which the first finds nothing scheduled. -/
def recorded (run : α → σ → σ × List (Nat × α)) (state : σ) (drives : List (Drive α)) :
    Backlog α × Ledger α σ :=
  drives.foldl (fun books drive => drive.record run books) ({}, { state := state })

/-! ## One job -/

theorem scheduleAll_eq (jobs : List (Nat × α)) (backlog : Backlog α) :
    backlog.scheduleAll jobs =
      ⟨backlog.queue ++ jobs, backlog.history ++ jobs.map Prod.fst⟩ := by
  unfold scheduleAll
  induction jobs generalizing backlog with
  | nil => simp
  | cons entry jobs ih =>
      rw [List.foldl_cons, ih]
      simp [schedule]

theorem runNext_of_nil {backlog : Backlog α} (idle : backlog.queue = [])
    (run : α → σ → σ × List (Nat × α)) (state : σ) :
    backlog.runNext run state = (none, backlog, state) := by
  simp [runNext, take?, idle]

theorem runNext_of_cons {backlog : Backlog α} {delay : Nat} {job : α} {rest : List (Nat × α)}
    (waits : backlog.queue = (delay, job) :: rest) (run : α → σ → σ × List (Nat × α)) (state : σ) :
    backlog.runNext run state =
      (some delay,
        ⟨rest ++ (run job state).2, backlog.history ++ (run job state).2.map Prod.fst⟩,
        (run job state).1) := by
  simp [runNext, take?, waits, scheduleAll_eq]

theorem runNext_eq_none_iff {run : α → σ → σ × List (Nat × α)} {backlog : Backlog α} {state : σ} :
    (backlog.runNext run state).1 = none ↔ backlog.queue = [] := by
  rcases waits : backlog.queue with _ | ⟨⟨delay, job⟩, rest⟩
  · simp [runNext_of_nil waits]
  · simp [runNext_of_cons waits]

/-! ## The ledger changes nothing -/

theorem runNext_forget (run : α → σ → σ × List (Nat × α)) (backlog : Backlog α)
    (ledger : Ledger α σ) :
    forget (backlog.runNext (recording run) ledger) = backlog.runNext run ledger.state := by
  rcases waits : backlog.queue with _ | ⟨⟨delay, job⟩, rest⟩
  · simp only [runNext_of_nil waits, forget]
  · simp only [runNext_of_cons waits, forget, recording]

theorem runUntilIdle_succ (run : α → σ → σ × List (Nat × α)) (limit : Nat) (backlog : Backlog α)
    (state : σ) :
    runUntilIdle run (limit + 1) backlog state =
      match (backlog.runNext run state).1 with
      | none => (0, backlog, state)
      | some _ =>
        let drained := runUntilIdle run limit (backlog.runNext run state).2.1
          (backlog.runNext run state).2.2
        (drained.1 + 1, drained.2) := by
  rcases waits : backlog.queue with _ | ⟨⟨delay, job⟩, rest⟩
  · simp only [runUntilIdle, runNext_of_nil waits]
  · simp only [runUntilIdle, runNext_of_cons waits]

theorem runUntilIdle_forget (run : α → σ → σ × List (Nat × α)) (limit : Nat) (backlog : Backlog α)
    (ledger : Ledger α σ) :
    forget (runUntilIdle (recording run) limit backlog ledger) =
      runUntilIdle run limit backlog ledger.state := by
  induction limit generalizing backlog ledger with
  | zero => rfl
  | succ limit ih =>
      have same := runNext_forget run backlog ledger
      simp only [runUntilIdle_succ, ← same, forget]
      split
      · rfl
      · simp only [← ih, forget]

/-- Whether or not the jobs keep a ledger, a drive does the same to the backlog and to their own
state. -/
theorem Drive.record_forget (run : α → σ → σ × List (Nat × α)) (drive : Drive α)
    (books : Backlog α × Ledger α σ) :
    ((drive.record run books).1, (drive.record run books).2.state) =
      drive.apply run (books.1, books.2.state) := by
  cases drive with
  | schedule delay job => rfl
  | runNext => exact congrArg Prod.snd (runNext_forget run books.1 books.2)
  | runUntilIdle limit => exact congrArg Prod.snd (runUntilIdle_forget run limit books.1 books.2)

theorem recorded_forget (run : α → σ → σ × List (Nat × α)) (state : σ) (drives : List (Drive α)) :
    ((recorded run state drives).1, (recorded run state drives).2.state) =
      drives.foldl (fun both drive => drive.apply run both) ({}, state) := by
  have started : ∀ books : Backlog α × Ledger α σ,
      ((drives.foldl (fun books drive => drive.record run books) books).1,
        (drives.foldl (fun books drive => drive.record run books) books).2.state) =
      drives.foldl (fun both drive => drive.apply run both) (books.1, books.2.state) := by
    induction drives with
    | nil => exact fun _ => rfl
    | cons drive drives ih =>
        intro books
        simp only [List.foldl_cons, ih, Drive.record_forget]
  exact started ({}, { state := state })

/-! ## The books balance -/

/-- The jobs that were ever scheduled are those that ran and then those that wait, and the delays
that the backlog remembers are theirs. -/
structure Balanced (backlog : Backlog α) (ledger : Ledger α σ) : Prop where
  inOrder : ∃ finished, finished.map Prod.snd = ledger.ran ∧
    finished ++ backlog.queue = ledger.scheduled
  delays : backlog.history = ledger.scheduled.map Prod.fst

theorem Balanced.empty (state : σ) : Balanced ({} : Backlog α) { state := state } where
  inOrder := ⟨[], rfl, rfl⟩
  delays := rfl

theorem Balanced.runNext {backlog : Backlog α} {ledger : Ledger α σ}
    (balanced : Balanced backlog ledger) (run : α → σ → σ × List (Nat × α)) :
    Balanced (backlog.runNext (recording run) ledger).2.1
      (backlog.runNext (recording run) ledger).2.2 := by
  rcases waits : backlog.queue with _ | ⟨⟨delay, job⟩, rest⟩
  · rw [runNext_of_nil waits]
    exact balanced
  · rcases balanced with ⟨⟨finished, ran, scheduled⟩, delays⟩
    rw [runNext_of_cons waits]
    constructor
    · -- The job moves from the head of the queue to the end of what has run.
      refine ⟨finished ++ [(delay, job)], by simp [recording, ran], ?_⟩
      simp [recording, ← scheduled, waits]
    · simp [recording, delays]

theorem Balanced.runUntilIdle {backlog : Backlog α} {ledger : Ledger α σ}
    (balanced : Balanced backlog ledger) (run : α → σ → σ × List (Nat × α)) (limit : Nat) :
    Balanced (runUntilIdle (recording run) limit backlog ledger).2.1
      (runUntilIdle (recording run) limit backlog ledger).2.2 := by
  induction limit generalizing backlog ledger with
  | zero => exact balanced
  | succ limit ih =>
      rw [runUntilIdle_succ]
      split
      · exact balanced
      · exact ih (balanced.runNext run)

theorem Balanced.record {books : Backlog α × Ledger α σ} (balanced : Balanced books.1 books.2)
    (run : α → σ → σ × List (Nat × α)) (drive : Drive α) :
    Balanced (drive.record run books).1 (drive.record run books).2 := by
  cases drive with
  | schedule delay job =>
      rcases balanced with ⟨⟨finished, ran, scheduled⟩, delays⟩
      refine ⟨⟨finished, ran, ?_⟩, ?_⟩
      · simp [Drive.record, Backlog.schedule, ← scheduled]
      · simp [Drive.record, Backlog.schedule, delays]
  | runNext => exact balanced.runNext run
  | runUntilIdle limit => exact balanced.runUntilIdle run limit

theorem balanced_recorded (run : α → σ → σ × List (Nat × α)) (state : σ)
    (drives : List (Drive α)) :
    Balanced (recorded run state drives).1 (recorded run state drives).2 := by
  unfold recorded
  refine List.foldlRecOn (motive := fun books : Backlog α × Ledger α σ =>
    Balanced books.1 books.2) drives _ (Balanced.empty state) ?_
  intro books balanced drive _
  exact balanced.record run drive

/-! ## How far the loop goes -/

/-- One turn of the loop that empties the backlog. -/
def turn (run : α → σ → σ × List (Nat × α)) (both : Backlog α × σ) : Backlog α × σ :=
  (both.1.runNext run both.2).2

/-- What a loop over at most a number of jobs comes to. It runs as many as it says, one after the
other, each of which it finds waiting, and stops before the limit only where none is left. -/
structure Drains (run : α → σ → σ × List (Nat × α)) (limit : Nat) (backlog : Backlog α)
    (ledger : Ledger α σ) (count : Nat) (after : Backlog α × Ledger α σ) : Prop where
  bounded : count ≤ limit
  counted : after.2.ran.length = ledger.ran.length + count
  turns : after = (turn (recording run))^[count] (backlog, ledger)
  idle : count < limit → after.1.queue = []

theorem runUntilIdle_drains (run : α → σ → σ × List (Nat × α)) (limit : Nat) (backlog : Backlog α)
    (ledger : Ledger α σ) :
    Drains run limit backlog ledger (runUntilIdle (recording run) limit backlog ledger).1
      (runUntilIdle (recording run) limit backlog ledger).2 := by
  induction limit generalizing backlog ledger with
  | zero =>
      refine ⟨Nat.le_refl 0, rfl, rfl, ?_⟩
      intro before
      exact absurd before (Nat.lt_irrefl 0)
  | succ limit ih =>
      rcases waits : backlog.queue with _ | ⟨⟨delay, job⟩, rest⟩
      · rw [runUntilIdle_succ, runNext_of_nil waits]
        exact ⟨Nat.zero_le _, rfl, rfl, fun _ => waits⟩
      · rw [runUntilIdle_succ]
        simp only [runNext_of_cons waits]
        rcases ih ⟨rest ++ (recording run job ledger).2,
          backlog.history ++ (recording run job ledger).2.map Prod.fst⟩
          (recording run job ledger).1 with ⟨bounded, counted, turns, idle⟩
        refine ⟨Nat.succ_le_succ bounded, ?_, ?_, ?_⟩
        · have one : (recording run job ledger).1.ran.length = ledger.ran.length + 1 := by
            simp [recording]
          omega
        · rw [Function.iterate_succ_apply, turn, runNext_of_cons waits]
          exact turns
        · intro before
          exact idle (Nat.lt_of_succ_lt_succ before)

/-! ## The main result -/

/-- **Whatever the jobs do and however the backlog is driven, no job is lost, run twice or
overtaken.** After any drives, with jobs that change a state of any kind and schedule any further
jobs from it:

* the backlog and the state are those that the drives lead to without a ledger;
* the jobs that ran and then those that wait are the jobs ever scheduled, in their order, and the
  remembered delays are those of all of them;
* to run the next job gives no delay exactly if none waits, and otherwise the delay of the job that
  it ran, which is the one that waited longest; what that job schedules goes to the end;
* to run jobs up to a limit comes to an end for every limit, with the number of jobs that it ran,
  which is at most the limit; if it is less, no job waits any more, not even one that was scheduled
  meanwhile. -/
theorem scheduled_jobs_accounted_for (run : α → σ → σ × List (Nat × α)) (initial : σ)
    (drives : List (Drive α)) (backlog : Backlog α) (ledger : Ledger α σ)
    (reached : recorded run initial drives = (backlog, ledger)) :
    drives.foldl (fun both drive => drive.apply run both) ({}, initial) =
        (backlog, ledger.state) ∧
      Balanced backlog ledger ∧
      ((backlog.runNext run ledger.state).1 = none ↔ backlog.queue = []) ∧
      (∀ delay, (backlog.runNext run ledger.state).1 = some delay →
        ∃ job rest, backlog.queue = (delay, job) :: rest ∧
          (backlog.runNext (recording run) ledger).2.2.ran = ledger.ran ++ [job] ∧
          (backlog.runNext run ledger.state).2.1.queue = rest ++ (run job ledger.state).2) ∧
      ∀ limit, ∃ after, Drains run limit backlog ledger
          (runUntilIdle run limit backlog ledger.state).1 after ∧
        (runUntilIdle run limit backlog ledger.state).2 = (after.1, after.2.state) ∧
        Balanced after.1 after.2 := by
  have same := recorded_forget run initial drives
  have balanced := balanced_recorded run initial drives
  rw [reached] at same balanced
  refine ⟨same.symm, balanced, runNext_eq_none_iff, ?_, ?_⟩
  · intro delay found
    rcases waits : backlog.queue with _ | ⟨⟨time, job⟩, rest⟩
    · simp [runNext_of_nil waits] at found
    · simp only [runNext_of_cons waits, Option.some.injEq] at found ⊢
      subst found
      exact ⟨job, rest, rfl, rfl, rfl⟩
  · intro limit
    have forgotten := runUntilIdle_forget run limit backlog ledger
    have drains := runUntilIdle_drains run limit backlog ledger
    refine ⟨(runUntilIdle (recording run) limit backlog ledger).2, ?_, ?_,
      balanced.runUntilIdle run limit⟩
    · rw [← forgotten]
      exact drains
    · rw [← forgotten, forget]

/-- A job that schedules itself again after as many units as it has run. -/
def relapsing (job runs : Nat) : Nat × List (Nat × Nat) :=
  (runs + 1, [(runs + 1, job)])

/-- A backlog with such a job never runs dry: the next run finds the job again, with the delay it
chose last, and every loop goes to its limit. -/
theorem scheduled_jobs_accounted_for_relapsing :
    ∃ backlog ledger,
      recorded relapsing 0 [.schedule 30 7, .runUntilIdle 3] = (backlog, ledger) ∧
      ledger.ran = [7, 7, 7] ∧ backlog.history = [30, 1, 2, 3] ∧
      Balanced backlog ledger ∧
      (runNext relapsing backlog ledger.state).1 = some 3 ∧
      ∃ after, Drains relapsing 5 backlog ledger 5 after ∧ after.1.queue = [(8, 7)] := by
  have reached : recorded relapsing 0 [.schedule 30 7, .runUntilIdle 3] =
      (⟨[(3, 7)], [30, 1, 2, 3]⟩, ⟨3, [7, 7, 7], [(30, 7), (1, 7), (2, 7), (3, 7)]⟩) := by
    decide
  rcases scheduled_jobs_accounted_for relapsing 0 _ _ _ reached with ⟨-, balanced, -, -, loops⟩
  rcases loops 5 with ⟨after, drains, same, -⟩
  have drained : runUntilIdle relapsing 5 ⟨[(3, 7)], [30, 1, 2, 3]⟩ 3 =
      (5, ⟨[(8, 7)], [30, 1, 2, 3, 4, 5, 6, 7, 8]⟩, 8) := by
    decide
  rw [drained] at drains same
  refine ⟨_, _, reached, rfl, rfl, balanced, by decide, after, drains, ?_⟩
  rw [← (Prod.mk.inj same).1]

end BuildAgent.Schedule.Backlog
