/-!
# The backlog

A scheduler that does not look at the clock. Jobs wait in the order in which they were scheduled,
and whoever drives the backlog runs them one by one; the delay of a job is only remembered. A job
that runs may schedule others, which go to the end of the queue.
-/

namespace BuildAgent.Schedule

/-- Jobs that wait to be run, and every delay ever scheduled. -/
structure Backlog (α : Type) where
  queue : List (Nat × α) := []
  history : List Nat := []
  deriving DecidableEq, Repr

namespace Backlog

variable {α σ : Type}

def schedule (backlog : Backlog α) (delay : Nat) (job : α) : Backlog α :=
  ⟨backlog.queue ++ [(delay, job)], backlog.history ++ [delay]⟩

def scheduleAll (backlog : Backlog α) (jobs : List (Nat × α)) : Backlog α :=
  jobs.foldl (fun backlog entry => backlog.schedule entry.1 entry.2) backlog

def pending (backlog : Backlog α) : Nat :=
  backlog.queue.length

def nextDelay? (backlog : Backlog α) : Option Nat :=
  backlog.queue.head?.map Prod.fst

/-- Takes the oldest job out. -/
def take? (backlog : Backlog α) : Option ((Nat × α) × Backlog α) :=
  match backlog.queue with
  | [] => none
  | entry :: rest => some (entry, { backlog with queue := rest })

/-- Runs the oldest job. The job changes a state of its own and says which jobs it schedules. The
delay of the job is returned, if there was one. -/
def runNext (run : α → σ → σ × List (Nat × α)) (backlog : Backlog α) (state : σ) :
    Option Nat × Backlog α × σ :=
  match backlog.take? with
  | none => (none, backlog, state)
  | some ((delay, job), rest) =>
    let (state, jobs) := run job state
    (some delay, rest.scheduleAll jobs, state)

/-- Runs jobs until none waits or a number of them has run. Returns how many ran. -/
def runUntilIdle (run : α → σ → σ × List (Nat × α)) :
    Nat → Backlog α → σ → Nat × Backlog α × σ
  | 0, backlog, state => (0, backlog, state)
  | limit + 1, backlog, state =>
    match runNext run backlog state with
    | (none, backlog, state) => (0, backlog, state)
    | (some _, backlog, state) =>
      let (count, backlog, state) := runUntilIdle run limit backlog state
      (count + 1, backlog, state)

end Backlog

end BuildAgent.Schedule
