import BuildAgent.Proofs.Monitor.Effect

/-!
# What a task was asked to do

A task that was asked to reboot the node reboots it until it ends, and one that was asked for a look
of the reboot monitor looks until it ends; no other task comes to do either. So where a task stands
tells which of the two it was asked for, if any (`Execution.Faithful`).
-/

namespace BuildAgent

namespace Point

/-- The request for a reboot or a look that a task at a point works on. The reboot that may follow a
build is part of another request. -/
def request? : Point → Option Request
  | rebooting false _ => some .reboot
  | looking session _ => some (.look session)
  | _ => none

variable {point next : Point} {world after : World}

theorem request?_of_isEntrance (entrance : next.isEntrance = true) : next.request? = none := by
  cases next with
  | rebooting afterBuild inner =>
      cases afterBuild with
      | true => rfl
      | false => cases entrance
  | looking session inner => cases entrance
  | _ => rfl

theorem request?_of_resume (paused : point.resume world = .pause next after) :
    next.request? = point.request? := by
  cases point with
  | rebooting afterBuild inner =>
      rcases Stage.andThen_eq_pause paused with ⟨later, _, rfl⟩ | ⟨_, middle, _, ended⟩
      · cases afterBuild <;> rfl
      · exact absurd ended afterReboot_ne_pause
  | looking session inner =>
      rcases Stage.pause_of_andThen_done paused with ⟨later, _, rfl⟩
      rfl
  | _ =>
      cases leads_of_resume paused with
      | elsewhere entrance => exact request?_of_isEntrance entrance
      | _ => rfl

theorem request?_of_notice (paused : point.notice world = .pause next after) :
    next.request? = point.request? := by
  cases point with
  | watching watch =>
      rcases eq_or_isEntrance_of_notice paused with rfl | entrance
      · rfl
      · exact request?_of_isEntrance entrance
  | _ =>
      cases paused
      rfl

theorem rebooting_of_request? (asked : point.request? = some .reboot) :
    ∃ inner, point = .rebooting false inner := by
  cases point with
  | rebooting afterBuild inner =>
      cases afterBuild with
      | true => cases asked
      | false => exact ⟨inner, rfl⟩
  | _ => cases asked

theorem looking_of_request? {session : Nat} (asked : point.request? = some (.look session)) :
    ∃ inner, point = .looking session inner := by
  cases point with
  | rebooting afterBuild inner => cases afterBuild <;> cases asked
  | looking own inner =>
      cases asked
      exact ⟨inner, rfl⟩
  | _ => cases asked

end Point

namespace Execution

/-- Every task does what it was asked to do. -/
def Faithful (execution : Execution) : Prop :=
  ∀ task, task ∈ execution.running → task.point.request? = task.request.entry.request?

variable {execution before after : Execution} {move : Move} {task : Task}

theorem Takes.request? {next : Point} {world : World}
    (takes : execution.Takes task move (.pause next world)) :
    next.request? = task.point.request? := by
  generalize stage_eq : Stage.pause next world = stage at takes
  cases takes with
  | resume ready => exact Point.request?_of_resume stage_eq.symm
  | notice news => exact Point.request?_of_notice stage_eq.symm

/-- What no step of a task changes of the point where it stands, its request tells. -/
theorem Step.view_entry {α : Type} {view : Point → α}
    (kept : ∀ {task : Task} {next : Point} {world : World},
      before.Takes task move (.pause next world) → view next = view task.point)
    (told : ∀ task, task ∈ before.running → view task.point = view task.request.entry)
    (step : before.Step move after) :
    ∀ task, task ∈ after.running → view task.point = view task.request.entry := by
  cases step with
  | idle move => exact told
  | outside move change changes => exact told
  | started number request fresh =>
      intro task running
      rw [List.mem_append, List.mem_singleton] at running
      rcases running with old | rfl
      · exact told task old
      · rfl
  | looked number session delay agenda fresh scheduled =>
      intro task running
      rw [List.mem_append, List.mem_singleton] at running
      rcases running with old | rfl
      · exact told task old
      · rfl
  | lost number session delay agenda scheduled dropped => exact told
  | advanced move earlier later task stage split takes =>
      intro other others
      rcases mem_replace.mp others with left | still
      · rcases mem_remaining left with ⟨next, world, rfl, rfl⟩
        exact (kept takes).trans (told task (mem_of_eq_append split))
      · exact told other (mem_of_split split still)

theorem Faithful.step (faithful : before.Faithful) (step : before.Step move after) :
    after.Faithful :=
  step.view_entry Takes.request? faithful

theorem Faithful.rebooting (faithful : execution.Faithful) (running : task ∈ execution.running)
    (asked : task.request = .reboot) : ∃ inner, task.point = .rebooting false inner := by
  refine Point.rebooting_of_request? ((faithful task running).trans ?_)
  rw [asked]
  rfl

theorem Faithful.looking (faithful : execution.Faithful) (running : task ∈ execution.running)
    {session : Nat} (asked : task.request = .look session) :
    ∃ inner, task.point = .looking session inner := by
  refine Point.looking_of_request? ((faithful task running).trans ?_)
  rw [asked]
  rfl

end Execution

theorem Outset.faithful_run (outset : Outset) (moves : List Move) :
    (outset.execution.run moves).Faithful := by
  refine outset.sound_execution.run_induction (fun _ => True) Execution.Faithful ?_ ?_ moves
    fun _ _ => trivial
  · intro before after move sound _ step faithful
    exact faithful.step step
  · intro task running
    cases running

end BuildAgent
