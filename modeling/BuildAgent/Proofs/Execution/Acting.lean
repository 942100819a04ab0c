import BuildAgent.Proofs.Execution.Outside
import BuildAgent.Proofs.Task.Deeds

/-!
# Which task takes a step

A move lets at most one task take its step (`Execution.acting?`). So whatever can be told of a task
and of the point where it stands before its step can be collected along a list of moves:
`Execution.observed` lists it, the earliest first. Laws about the order in which tasks get a lock,
or about what they send, are laws about such lists.

`Execution.acts_or_silent` is the inversion: a move is the step of the task that acts, or it is
`Silent`, and then no task takes its step. A task that has been reported on takes no further step
(`Execution.Accounted`).
-/

namespace BuildAgent

namespace Execution

/-- The task that takes its step with a move, if one does. -/
def acting? (execution : Execution) : Move → Option Task
  | .resume number => (execution.task? number).filter execution.isReady
  | _ => none

/-- What is seen of the tasks that take their steps while moves are made, the earliest first. -/
def observed {α : Type} (view : Task → Option α) (execution : Execution) : List Move → List α
  | [] => []
  | move :: moves =>
    ((execution.acting? move).bind view).toList ++ (execution.apply move).observed view moves

theorem observed_append {α : Type} (view : Task → Option α) (execution : Execution)
    (earlier later : List Move) : execution.observed view (earlier ++ later) =
      execution.observed view earlier ++ (execution.run earlier).observed view later := by
  induction earlier generalizing execution with
  | nil => rfl
  | cons move moves hypothesis =>
      simp only [List.cons_append, observed, hypothesis, List.append_assoc]
      rfl

theorem observed_concat {α : Type} (view : Task → Option α) (execution : Execution)
    (moves : List Move) (move : Move) : execution.observed view (moves ++ [move]) =
      execution.observed view moves ++
        (((execution.run moves).acting? move).bind view).toList := by
  simp [observed_append, observed]

/-- What a move can do when no task takes its step. -/
inductive Silent (before : Execution) : Move → Execution → Prop where
  | idle (move : Move) : Silent before move before
  | outside (move : Move) (change : World → World) (changes : move.outside? = some change) :
      Silent before move (before.withWorld change)
  | started (number : Nat) (request : Request) (fresh : before.nextNumber ≤ number)
      (held : before.world.node.held = true) :
      Silent before (.start number request)
        { before with
          running := before.running ++ [⟨number, request, request.entry⟩]
          nextNumber := number + 1 }
  | looked (number session : Nat) (delay : Option Nat) (agenda : Schedule.Agenda)
      (fresh : before.nextNumber ≤ number)
      (scheduled : before.world.scheduled? = some (session, delay, agenda))
      (present : before.hasNode = true) :
      Silent before (.runMonitor number)
        { before with
          world := before.world.withAgenda delay agenda
          running := before.running ++ [⟨number, .look session, .looking session .waiting⟩]
          nextNumber := number + 1 }
  | lost (number session : Nat) (delay : Option Nat) (agenda : Schedule.Agenda)
      (scheduled : before.world.scheduled? = some (session, delay, agenda))
      (dropped : before.world.node.held = false) (alone : before.running = []) :
      Silent before (.runMonitor number)
        (before.withWorld fun world =>
          (world.withAgenda delay agenda).note (.monitorWithoutNode session))
  | noticed (earlier later : List Task) (task : Task)
      (split : before.running = earlier ++ task :: later)
      (news : task.point.hasNews before.world = true) :
      Silent before (.notice task.number)
        (before.replace earlier task later (task.point.notice before.world))

variable {execution before after : Execution} {move : Move} {task : Task}

theorem acting?_of_ready (orderly : execution.Orderly) (running : task ∈ execution.running)
    (ready : execution.isReady task = true) :
    execution.acting? (.resume task.number) = some task := by
  simp [acting?, task?_of_mem orderly running, ready]

theorem acting?_eq_some (acts : execution.acting? move = some task) :
    move = .resume task.number ∧ execution.isReady task = true ∧
      ∃ earlier later, execution.running = earlier ++ task :: later := by
  cases move with
  | resume number =>
      simp only [acting?, Option.filter_eq_some_iff] at acts
      rcases split_of_task? acts.1 with ⟨rfl, split⟩
      exact ⟨rfl, acts.2, split⟩
  | _ => cases acts

/-- The step of the task that acts. -/
theorem apply_of_acting? (orderly : execution.Orderly) (acts : execution.acting? move = some task) :
    ∃ earlier later, execution.running = earlier ++ task :: later ∧
      execution.Takes task move (task.point.resume execution.world) ∧
      execution.apply move =
        execution.replace earlier task later (task.point.resume execution.world) := by
  rcases acting?_eq_some acts with ⟨rfl, ready, earlier, later, split⟩
  exact ⟨earlier, later, split, .resume ready, resume_eq_replace orderly split ready⟩

theorem silent_of_acting? (orderly : execution.Orderly) (still : execution.acting? move = none) :
    execution.Silent move (execution.apply move) := by
  have step := step_apply orderly move
  generalize execution.apply move = after at step
  cases step with
  | idle move => exact .idle move
  | outside move change changes => exact .outside move change changes
  | started number request fresh held => exact .started number request fresh held
  | looked number session delay agenda fresh scheduled present =>
      exact .looked number session delay agenda fresh scheduled present
  | lost number session delay agenda scheduled dropped alone =>
      exact .lost number session delay agenda scheduled dropped alone
  | advanced move earlier later task stage split takes =>
      cases takes with
      | resume ready =>
          rw [acting?_of_ready orderly (mem_of_eq_append split) ready] at still
          cases still
      | notice news => exact .noticed earlier later task split news

/-- A move is the step of a task, or no task takes its step with it. -/
theorem acts_or_silent (orderly : execution.Orderly) (move : Move) :
    (∃ task earlier later, execution.acting? move = some task ∧
      execution.running = earlier ++ task :: later ∧
      execution.Takes task move (task.point.resume execution.world) ∧
      execution.apply move =
        execution.replace earlier task later (task.point.resume execution.world)) ∨
    execution.acting? move = none ∧ execution.Silent move (execution.apply move) := by
  rcases acts : execution.acting? move with _ | task
  · exact .inr ⟨rfl, silent_of_acting? orderly acts⟩
  · rcases apply_of_acting? orderly acts with ⟨earlier, later, split, takes, moved⟩
    exact .inl ⟨task, earlier, later, rfl, split, takes, moved⟩

namespace Silent

theorem step (silent : before.Silent move after) : before.Step move after := by
  cases silent with
  | idle move => exact .idle move
  | outside move change changes => exact .outside move change changes
  | started number request fresh held => exact .started number request fresh held
  | looked number session delay agenda fresh scheduled present =>
      exact .looked number session delay agenda fresh scheduled present
  | lost number session delay agenda scheduled dropped alone =>
      exact .lost number session delay agenda scheduled dropped alone
  | noticed earlier later task split news =>
      exact .advanced _ earlier later task _ split (.notice news)

/-- Without a step of its own a task stands where it stood, unless it is new or a watchdog. -/
theorem mem_running (silent : before.Silent move after) (running : task ∈ after.running) :
    task ∈ before.running ∨
      (task.point = task.request.entry ∧ before.nextNumber ≤ task.number ∧
        (move = .start task.number task.request ∨ ∃ session, task.request = .look session)) ∨
      ∃ own old watch, own ∈ before.running ∧ own.number = task.number ∧
        own.point = .watching old ∧ task.point = .watching watch := by
  cases silent with
  | idle move => exact .inl running
  | outside move change changes => exact .inl running
  | started number request fresh held =>
      rw [List.mem_append, List.mem_singleton] at running
      rcases running with old | rfl
      · exact .inl old
      · exact .inr (.inl ⟨rfl, fresh, .inl rfl⟩)
  | looked number session delay agenda fresh scheduled present =>
      rw [List.mem_append, List.mem_singleton] at running
      rcases running with old | rfl
      · exact .inl old
      · exact .inr (.inl ⟨rfl, fresh, .inr ⟨session, rfl⟩⟩)
  | lost number session delay agenda scheduled dropped alone => exact .inl running
  | noticed earlier later own split news =>
      rcases mem_replace.mp running with left | still
      · rcases mem_remaining left with ⟨next, world, noticed, rfl⟩
        cases stands : own.point with
        | watching watch =>
            simp only [stands, Point.notice] at noticed
            split at noticed
            · cases noticed
            · cases noticed
              exact .inr (.inr ⟨own, watch, _, mem_of_eq_append split, rfl, stands, rfl⟩)
        | _ => simp [stands, Point.hasNews] at news
      · exact .inl (mem_of_split split still)

/-- Without a step of its own only a watchdog ends. -/
theorem mem_reports (silent : before.Silent move after) {report : Report}
    (reported : report ∈ after.reports) :
    report ∈ before.reports ∨ ∃ task watch exit, task ∈ before.running ∧
      task.point = .watching watch ∧ report = ⟨task.number, task.request, .watchEnded exit⟩ := by
  cases silent with
  | idle move => exact .inl reported
  | outside move change changes => exact .inl reported
  | started number request fresh held => exact .inl reported
  | looked number session delay agenda fresh scheduled present => exact .inl reported
  | lost number session delay agenda scheduled dropped alone => exact .inl reported
  | noticed earlier later own split news =>
      rcases List.mem_append.mp reported with ends | old
      · right
        cases stands : own.point with
        | watching watch =>
            simp only [stands, Point.notice] at ends
            split at ends
            · exact ⟨own, watch, _, mem_of_eq_append split, stands, List.mem_singleton.mp ends⟩
            · cases ends
        | _ => simp [stands, Point.hasNews] at news
      · exact .inl old

theorem session_eq (silent : before.Silent move after) :
    after.world.node.session = before.world.node.session := by
  cases silent with
  | idle move => rfl
  | outside move change changes => exact (Move.frame_outside changes before.world).1
  | started number request fresh held => rfl
  | looked number session delay agenda fresh scheduled present => simp
  | lost number session delay agenda scheduled dropped alone => simp [withWorld]
  | noticed earlier later task split news =>
      exact (task.point.through_notice before.world).session_eq

end Silent

/-! ## Which tasks have been reported on -/

/-- Every report is about a task that was started and is no longer under way. -/
structure Accounted (execution : Execution) : Prop where
  given : ∀ report, report ∈ execution.reports → report.number < execution.nextNumber
  finished : ∀ report task, report ∈ execution.reports → task ∈ execution.running →
    task.number ≠ report.number

theorem Accounted.started (accounted : before.Accounted) {number : Nat}
    (fresh : before.nextNumber ≤ number) (request : Request) (world : World) :
    Accounted { before with
      world
      running := before.running ++ [⟨number, request, request.entry⟩]
      nextNumber := number + 1 } := by
  constructor
  · intro report reported
    have given := accounted.given report reported
    dsimp only
    omega
  · intro report task reported running
    rw [List.mem_append, List.mem_singleton] at running
    rcases running with old | rfl
    · exact accounted.finished report task reported old
    · have given := accounted.given report reported
      dsimp only
      omega

theorem Accounted.step (accounted : before.Accounted) (orderly : before.Orderly)
    (step : before.Step move after) : after.Accounted := by
  cases step with
  | idle move => exact accounted
  | outside move change changes => exact ⟨accounted.given, accounted.finished⟩
  | started number request fresh => exact accounted.started fresh request before.world
  | looked number session delay agenda fresh scheduled =>
      exact accounted.started fresh (.look session) (before.world.withAgenda delay agenda)
  | lost number session delay agenda scheduled dropped =>
      exact ⟨accounted.given, accounted.finished⟩
  | advanced move earlier later task stage split takes =>
      have running := mem_of_eq_append split
      have number_of_mem : ∀ other, other ∈ (before.replace earlier task later stage).running →
          ∃ own, own ∈ before.running ∧ own.number = other.number := by
        intro other others
        rcases mem_replace.mp others with left | still
        · rcases mem_remaining left with ⟨next, world, _, rfl⟩
          exact ⟨task, running, rfl⟩
        · exact ⟨other, mem_of_split split still, rfl⟩
      constructor
      · intro report reported
        rcases List.mem_append.mp reported with ends | old
        · cases stage with
          | pause next world => cases ends
          | done answer world =>
              rw [List.mem_singleton.mp ends]
              exact orderly.numbered task running
        · exact accounted.given report old
      · intro report other reported others
        rcases List.mem_append.mp reported with ends | old
        · cases stage with
          | pause next world => cases ends
          | done answer world =>
              rw [List.mem_singleton.mp ends]
              exact (orderly.excludes split others).number.symm
        · rcases number_of_mem other others with ⟨own, among, same⟩
          rw [← same]
          exact accounted.finished report own old among

theorem Accounted.run (accounted : before.Accounted) (orderly : before.Orderly)
    (moves : List Move) : (before.run moves).Accounted := by
  induction moves generalizing before with
  | nil => exact accounted
  | cons move moves hypothesis =>
      have step := step_apply orderly move
      exact hypothesis (accounted.step orderly step) (orderly.step step)

end Execution

theorem Outset.accounted_execution (outset : Outset) : outset.execution.Accounted := by
  constructor
  · intro report reported
    cases reported
  · intro report task reported
    cases reported

theorem Outset.accounted_run (outset : Outset) (moves : List Move) :
    (outset.execution.run moves).Accounted :=
  outset.accounted_execution.run outset.orderly_execution moves

end BuildAgent
