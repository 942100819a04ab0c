import BuildAgent.Node.World
import Mathlib.Data.List.Perm.Basic

/-!
# Jobs of the agenda

A scheduled job is added to the jobs that wait, and a job that runs is taken out of them; all others
stay. Both are statements about the jobs as a multiset, so they do not depend on the order in which
a backlog or a timetable lets jobs run.
-/

namespace BuildAgent

namespace Schedule

variable {α : Type}

theorem Timetable.perm_takeAt {due : Nat} {entries rest : List (Nat × α)} {job : α}
    (taken : takeAt due entries = some (job, rest)) :
    (entries.map Prod.snd).Perm (job :: rest.map Prod.snd) := by
  induction entries generalizing rest with
  | nil => cases taken
  | cons entry others ih =>
      rcases entry with ⟨time, first⟩
      simp only [takeAt] at taken
      split at taken
      · simp only [Option.some.injEq, Prod.mk.injEq] at taken
        rcases taken with ⟨rfl, rfl⟩
        exact .refl _
      · rcases Option.map_eq_some_iff.mp taken with ⟨⟨found, left⟩, inner, same⟩
        simp only [Prod.mk.injEq] at same
        rcases same with ⟨rfl, rfl⟩
        simp only [List.map_cons]
        exact ((ih inner).cons first).trans (.swap found first _)

theorem Timetable.mem_of_takeAt {due : Nat} {entries rest : List (Nat × α)} {job : α}
    (taken : takeAt due entries = some (job, rest)) :
    (due, job) ∈ entries ∧ ∀ entry, entry ∈ rest → entry ∈ entries := by
  induction entries generalizing rest with
  | nil => cases taken
  | cons entry others ih =>
      rcases entry with ⟨time, first⟩
      simp only [takeAt] at taken
      split at taken
      · rename_i same
        simp only [Option.some.injEq, Prod.mk.injEq] at taken
        rcases taken with ⟨rfl, rfl⟩
        subst same
        exact ⟨List.mem_cons_self, fun _ => List.mem_cons_of_mem _⟩
      · rcases Option.map_eq_some_iff.mp taken with ⟨⟨found, left⟩, inner, same⟩
        simp only [Prod.mk.injEq] at same
        rcases same with ⟨rfl, rfl⟩
        rcases ih inner with ⟨here, kept⟩
        refine ⟨List.mem_cons_of_mem _ here, ?_⟩
        intro entry among
        rcases List.mem_cons.mp among with rfl | later
        · exact List.mem_cons_self
        · exact List.mem_cons_of_mem _ (kept entry later)

namespace Agenda

/-- Whether the clock brings the jobs up. -/
def followsClock : Agenda → Bool
  | manual _ => false
  | timed _ => true

/-- That a job is entered at a time with a delay, behind the jobs that wait, and nothing else
changes. A backlog keeps the delay, and remembers it for ever; a timetable keeps the time at which
the delay is over. -/
inductive Enters (now delay job : Nat) : Agenda → Agenda → Prop where
  | queued (queue : List (Nat × Nat)) (history : List Nat) :
      Enters now delay job (.manual ⟨queue, history⟩)
        (.manual ⟨queue ++ [(delay, job)], history ++ [delay]⟩)
  | timetabled (entries : List (Nat × Nat)) :
      Enters now delay job (.timed ⟨entries⟩) (.timed ⟨entries ++ [(now + delay, job)]⟩)

/-- To schedule a job is to enter it. -/
theorem enters_schedule (agenda : Agenda) (now delay job : Nat) :
    Enters now delay job agenda (agenda.schedule now delay job) := by
  cases agenda with
  | manual backlog => exact .queued backlog.queue backlog.history
  | timed timetable => exact .timetabled timetable.entries

/-- The jobs that the clock brings up, with the times at which it does. -/
def dues : Agenda → List (Nat × Nat)
  | manual _ => []
  | timed timetable => timetable.entries

theorem followsClock_schedule (agenda : Agenda) (now delay job : Nat) :
    (agenda.schedule now delay job).followsClock = agenda.followsClock := by
  cases agenda <;> rfl

theorem mem_dues_schedule {agenda : Agenda} {now delay job : Nat} {entry : Nat × Nat}
    (waits : entry ∈ (agenda.schedule now delay job).dues) :
    entry ∈ agenda.dues ∨ entry = (now + delay, job) := by
  cases agenda with
  | manual backlog => cases waits
  | timed timetable =>
      simpa [schedule, dues, Timetable.schedule] using waits

theorem mem_jobs_of_mem_dues {agenda : Agenda} {due job : Nat} (waits : (due, job) ∈ agenda.dues) :
    job ∈ agenda.jobs := by
  cases agenda with
  | manual backlog => cases waits
  | timed timetable => exact List.mem_map_of_mem waits

end Agenda

theorem Agenda.jobs_schedule (agenda : Agenda) (now delay job : Nat) :
    (agenda.schedule now delay job).jobs = agenda.jobs ++ [job] := by
  cases agenda <;> simp [schedule, jobs, Backlog.schedule, Timetable.schedule]

end Schedule

/-- Where the agenda follows the clock, the look that the scheduler runs is due. -/
theorem World.due_of_scheduled? {world : World} {session : Nat} {delay : Option Nat}
    {agenda : Schedule.Agenda} (scheduled : world.scheduled? = some (session, delay, agenda))
    (follows : world.agenda.followsClock = true) :
    agenda.followsClock = true ∧
      (∃ due, (due, session) ∈ world.agenda.dues ∧ due ≤ world.clock) ∧
      ∀ entry, entry ∈ agenda.dues → entry ∈ world.agenda.dues := by
  simp only [scheduled?] at scheduled
  split at scheduled
  · rename_i backlog agenda_eq
    rw [agenda_eq] at follows
    cases follows
  · rename_i timetable agenda_eq
    rcases Option.map_eq_some_iff.mp scheduled with ⟨⟨job, rest⟩, taken, same⟩
    simp only [Prod.mk.injEq] at same
    rcases same with ⟨rfl, _, rfl⟩
    simp only [Schedule.Timetable.take?] at taken
    split at taken
    · cases taken
    · rename_i due first
      split at taken
      · rename_i passed
        rcases Option.map_eq_some_iff.mp taken with ⟨⟨found, left⟩, inner, same⟩
        simp only [Prod.mk.injEq] at same
        rcases same with ⟨rfl, rfl⟩
        rcases Schedule.Timetable.mem_of_takeAt inner with ⟨here, kept⟩
        rw [agenda_eq]
        exact ⟨rfl, ⟨due, here, passed⟩, kept⟩
      · cases taken

/-- A look that the scheduler runs is taken out of the jobs. -/
theorem World.perm_of_scheduled? {world : World} {session : Nat} {delay : Option Nat}
    {agenda : Schedule.Agenda} (scheduled : world.scheduled? = some (session, delay, agenda)) :
    world.agenda.jobs.Perm (session :: agenda.jobs) := by
  simp only [scheduled?] at scheduled
  split at scheduled
  · rename_i backlog agenda_eq
    rcases Option.map_eq_some_iff.mp scheduled with ⟨⟨⟨time, job⟩, rest⟩, taken, same⟩
    simp only [Prod.mk.injEq] at same
    rcases same with ⟨rfl, _, rfl⟩
    simp only [Schedule.Backlog.take?] at taken
    split at taken
    · cases taken
    · rename_i entry others queue_eq
      simp only [Option.some.injEq, Prod.mk.injEq] at taken
      rcases taken with ⟨rfl, rfl⟩
      simp [agenda_eq, Schedule.Agenda.jobs, queue_eq]
  · rename_i timetable agenda_eq
    rcases Option.map_eq_some_iff.mp scheduled with ⟨⟨job, rest⟩, taken, same⟩
    simp only [Prod.mk.injEq] at same
    rcases same with ⟨rfl, _, rfl⟩
    simp only [Schedule.Timetable.take?] at taken
    split at taken
    · cases taken
    · split at taken
      · rcases Option.map_eq_some_iff.mp taken with ⟨⟨found, left⟩, inner, same⟩
        simp only [Prod.mk.injEq] at same
        rcases same with ⟨rfl, rfl⟩
        rw [agenda_eq]
        exact Schedule.Timetable.perm_takeAt inner
      · cases taken

end BuildAgent
