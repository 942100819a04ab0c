import BuildAgent.Proofs.Execution.Step
import BuildAgent.Proofs.Task.Guise

/-!
# Moves that do not look at the endpoint

What holds of the steps of a task holds of the moves of an execution: where the node is blind to a
guise, a move does the same under that guise (`Execution.apply_under`). Two kinds of moves are left
out, those of the link itself, which belong to the endpoint, and the step with which a disconnection
asks the agent to exit.
-/

namespace BuildAgent

/-- Whether a move is one of the link, or of somebody who deals with the endpoint directly. -/
def Move.isOfLink : Move → Bool
  | bringOn _ => true
  | happen _ => true
  | _ => false

namespace Execution

def under (execution : Execution) (guise : Guise) : Execution :=
  execution.withWorld fun world => world.under guise

/-- The execution with another endpoint. -/
def facing (execution : Execution) (endpoint : Endpoint) : Execution :=
  execution.withWorld fun world => world.facing endpoint

theorem under_facing (execution : Execution) (endpoint : Endpoint) :
    execution.under ⟨[], some endpoint⟩ = execution.facing endpoint := by
  simp [under, facing, withWorld, World.under_facing]

variable (execution : Execution) (guise : Guise)

@[simp]
theorem frame_under :
    (execution.under guise).world = execution.world.under guise ∧
      (execution.under guise).running = execution.running ∧
      (execution.under guise).reports = execution.reports ∧
      (execution.under guise).nextNumber = execution.nextNumber :=
  ⟨rfl, rfl, rfl, rfl⟩

@[simp]
theorem task?_under (number : Nat) :
    (execution.under guise).task? number = execution.task? number := rfl

@[simp]
theorem isReady_under (task : Task) :
    (execution.under guise).isReady task = execution.isReady task := by
  simp only [isReady]
  rcases task.point.obstacle with _ | lock | transfer | deadline <;> rfl

theorem settle_under (task : Task) (stage : Stage Point Answer) :
    (execution.under guise).settle task (stage.under guise) =
      (execution.settle task stage).under guise := by
  cases stage <;> rfl

theorem start_under (number : Nat) (request : Request) :
    (execution.under guise).start number request =
      (execution.start number request).under guise := by
  simp only [start, frame_under]
  split <;> rfl

theorem byHolder_under (after : Execution) :
    (execution.under guise).byHolder (after.under guise) =
      (execution.byHolder after).under guise := by
  simp only [byHolder, frame_under, World.frame_under]
  split <;> rfl

variable {execution guise}

theorem resume_under (blind : execution.world.IsBlindTo guise) {number : Nat}
    (remains : ∀ task, task ∈ execution.running → task.number = number →
      guise.IsPast ∨ task.point.parting? = none) :
    (execution.under guise).resume number = (execution.resume number).under guise := by
  simp only [resume, task?_under, isReady_under, frame_under]
  rcases found : execution.task? number with _ | task
  · rfl
  · rcases split_of_task? found with ⟨same, earlier, later, split⟩
    have stays := remains task (mem_of_eq_append split) same
    dsimp only
    rw [Point.resume_under execution.world guise blind task.point stays, settle_under]
    split <;> rfl

variable (execution guise)

theorem notice_under (number : Nat) :
    (execution.under guise).notice number = (execution.notice number).under guise := by
  simp only [notice, task?_under, frame_under, Point.hasNews_under, Point.notice_under,
    settle_under]
  split
  · split <;> rfl
  · rfl

theorem runMonitor_under (number : Nat) :
    (execution.under guise).runMonitor number = (execution.runMonitor number).under guise := by
  have same : (execution.under guise).world.scheduled? = execution.world.scheduled? := rfl
  simp only [runMonitor, same]
  rcases execution.world.scheduled? with _ | ⟨session, delay, agenda⟩
  · rfl
  · have begun : { execution.under guise with
        world := (execution.under guise).world.withAgenda delay agenda } =
          under { execution with world := execution.world.withAgenda delay agenda } guise := by
      simp [under, withWorld]
    have present : ∀ other : Execution, (other.under guise).hasNode = other.hasNode :=
      fun other => rfl
    dsimp only
    rw [begun]
    simp only [frame_under, start_under, present]
    split
    · split <;> rfl
    · rfl

variable {execution guise}

/-- **A node that is blind to a guise makes the same moves under it.** -/
theorem apply_under {move : Move} (blind : execution.world.IsBlindTo guise)
    (own : move.isOfLink = false)
    (remains : ∀ task, task ∈ execution.running → move = .resume task.number →
      guise.IsPast ∨ task.point.parting? = none) :
    (execution.under guise).apply move = (execution.apply move).under guise := by
  cases move with
  | start number request =>
      simp only [apply, start_under, byHolder_under]
  | resume number =>
      refine resume_under blind ?_
      rintro task running rfl
      exact remains task running rfl
  | notice number => exact execution.notice_under guise number
  | bringOn transfer => cases own
  | runMonitor number => exact execution.runMonitor_under guise number
  | pass duration => rfl
  | retire =>
      have same : (execution.under guise).withWorld World.retire =
          (execution.withWorld World.retire).under guise := by
        simp [under, withWorld]
      simp only [apply, same, byHolder_under]
  | recordActivity =>
      exact execution.byHolder_under guise (execution.withWorld World.recordActivity)
  | release => rfl
  | send value => rfl
  | closeSignal => rfl
  | happen happening => cases own

end Execution

end BuildAgent
