import BuildAgent.Schedule.Backlog
import BuildAgent.Schedule.Timetable

/-!
# The agenda

Where the looks of the reboot monitor are scheduled: in a backlog that somebody works off by hand,
or in a timetable that follows the clock.
-/

namespace BuildAgent.Schedule

/-- The scheduler of a node. Jobs are named by a number. -/
inductive Agenda where
  | manual (backlog : Backlog Nat)
  | timed (timetable : Timetable Nat)
  deriving DecidableEq, Repr

namespace Agenda

/-- Schedules a job at a given time after a delay. -/
def schedule (agenda : Agenda) (now delay job : Nat) : Agenda :=
  match agenda with
  | manual backlog => manual (backlog.schedule delay job)
  | timed timetable => timed (timetable.schedule (now + delay) job)

/-- The jobs that have not run, in the order in which they were scheduled. -/
def jobs : Agenda → List Nat
  | manual backlog => backlog.queue.map Prod.snd
  | timed timetable => timetable.entries.map Prod.snd

/-- The time at which the clock next brings a job up. -/
def nextDue? : Agenda → Option Nat
  | manual _ => none
  | timed timetable => timetable.nextDue?

end Agenda

end BuildAgent.Schedule
