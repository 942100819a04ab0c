/-!
# The timetable

A scheduler that follows the clock. A job is entered with the time at which it is due; the job that
is due first comes out first, and of two that are due at the same time the one entered first.
-/

namespace BuildAgent.Schedule

/-- Jobs with the times at which they are due, in the order in which they were entered. -/
structure Timetable (α : Type) where
  entries : List (Nat × α) := []
  deriving DecidableEq, Repr

namespace Timetable

variable {α σ : Type}

def schedule (timetable : Timetable α) (due : Nat) (job : α) : Timetable α :=
  ⟨timetable.entries ++ [(due, job)]⟩

def nextDue? (timetable : Timetable α) : Option Nat :=
  (timetable.entries.map Prod.fst).min?

def takeAt (due : Nat) : List (Nat × α) → Option (α × List (Nat × α))
  | [] => none
  | (time, job) :: rest =>
    if time = due then some (job, rest)
    else (takeAt due rest).map fun (found, others) => (found, (time, job) :: others)

/-- Takes the job out that is due first, if it is due by a given time. -/
def take? (timetable : Timetable α) (now : Nat) : Option (α × Timetable α) :=
  match timetable.nextDue? with
  | none => none
  | some due =>
    if due ≤ now then (takeAt due timetable.entries).map fun (job, rest) => (job, ⟨rest⟩)
    else none

/-- Enters jobs with their delays, counted from a given time. -/
def scheduleAll (timetable : Timetable α) (now : Nat) (jobs : List (Nat × α)) : Timetable α :=
  jobs.foldl (fun timetable entry => timetable.schedule (now + entry.1) entry.2) timetable

/-- Runs the jobs that are due up to a given time, but no more than a number of them. Each job sees
the time at which it is due, changes a state of its own and says which jobs it schedules. -/
def runDue (run : Nat → α → σ → σ × List (Nat × α)) (target : Nat) :
    Nat → Timetable α → σ → Timetable α × σ
  | 0, timetable, state => (timetable, state)
  | limit + 1, timetable, state =>
    match timetable.nextDue?, timetable.take? target with
    | some due, some (job, rest) =>
      let (state, jobs) := run due job state
      runDue run target limit (rest.scheduleAll due jobs) state
    | _, _ => (timetable, state)

end Timetable

end BuildAgent.Schedule
