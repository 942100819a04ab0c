import BuildAgent.Node.Executor

/-!
# Requests that nothing disturbs

While nothing else is under way, the executor carries a single task from its entry to its answer.
`Point.Ends` follows the task through its own steps and says to which answer and to which world they
lead; it does not speak of locks, of other tasks or of the executor. `Execution.call_eq` and
`Execution.runNext_eq` tie the two together: what a request comes to under the executor is what its
own steps come to.

A single task never has to wait for a lock, since nobody else holds one, and the only work on the
link that it waits for is a teardown that it started itself. Nothing moves then but the clock.
-/

namespace BuildAgent

/-- Whether the clock brings none of the transfers on. -/
def Transfer.NoneDue (transfers : List Transfer) : Prop :=
  ∀ transfer, transfer ∈ transfers → transfer.due? = none

/-- Whether nothing moves in a world but the tasks and the looks that somebody runs by hand. -/
structure World.Still (world : World) : Prop where
  noneDue : Transfer.NoneDue world.transfers
  manual : ∃ backlog, world.agenda = .manual backlog

namespace Point

/-- Whether a task that runs alone can take its next step. -/
def isFree (point : Point) (world : World) : Bool :=
  !point.hasNews world &&
    match point.obstacle with
    | none => true
    | some (.lock lock) => !point.holds lock
    | some (.transfer number) => (world.outcome? number).isSome
    | some (.time deadline) => deadline ≤ world.clock

/-- The way of a task that runs alone, from a point to its answer, in at most a number of moves. -/
inductive Ends : Nat → Point → World → Answer → World → Prop where
  | done {moves : Nat} {point : Point} {world after : World} {answer : Answer}
      (still : world.Still) (free : point.isFree world = true)
      (step : point.resume world = .done answer after) :
      Ends (moves + 1) point world answer after
  | pause {moves : Nat} {point next : Point} {world middle after : World} {answer : Answer}
      (still : world.Still) (free : point.isFree world = true)
      (step : point.resume world = .pause next middle)
      (rest : Ends moves next middle answer after) :
      Ends (moves + 1) point world answer after
  /-- The task waits for the end of a teardown, the only work that the clock brings on. -/
  | wait {moves : Nat} {point : Point} {world after : World} {answer : Answer}
      {earlier : List Transfer} {outcome : Link.Outcome} {due : Nat}
      (transfers : world.transfers = earlier ++ [.closing outcome due])
      (noneDue : Transfer.NoneDue earlier) (manual : ∃ backlog, world.agenda = .manual backlog)
      (waits : point.obstacle = some (.transfer earlier.length))
      (deaf : point.hasNews world = false)
      (rest : Ends moves point
        { world with
          clock := max world.clock due
          transfers := earlier ++ [.finished outcome] } answer after) :
      Ends (moves + 2) point world answer after

theorem Ends.mono {fewer more : Nat} {point : Point} {world after : World} {answer : Answer}
    (ends : point.Ends fewer world answer after) (le : fewer ≤ more) :
    point.Ends more world answer after := by
  induction ends generalizing more with
  | done still free step =>
      rcases more with _ | more
      · omega
      · exact .done still free step
  | pause still free step rest ih =>
      rcases more with _ | more
      · omega
      · exact .pause still free step (ih (by omega))
  | wait transfers noneDue manual waits deaf rest ih =>
      rcases more with _ | _ | more
      · omega
      · omega
      · exact .wait transfers noneDue manual waits deaf (ih (by omega))

end Point

namespace Execution

variable {execution : Execution} {task : Task} {number : Nat} {request : Request}
  {answer : Answer} {after : World}

/-! ## The moves of a single task -/

theorem findIdx?_isDue {transfers : List Transfer} (noneDue : Transfer.NoneDue transfers)
    (now : Nat) : transfers.findIdx? (isDue now) = none := by
  rw [List.findIdx?_eq_none_iff]
  intro transfer among
  simp [isDue, noneDue transfer among]

/-- A single task is free when it is ready, since all locks are its own. -/
theorem isReady_of_isFree (alone : execution.running = [task])
    (free : task.point.isFree execution.world = true) : execution.isReady task = true := by
  simp only [Point.isFree, Bool.and_eq_true] at free
  rcases obstacle : task.point.obstacle with _ | obstruction
  · simp [isReady, obstacle, isClear]
  · cases obstruction <;> simpa [isReady, obstacle, isClear, isFree, alone] using free.2

theorem nextMove?_of_isFree (alone : execution.running = [task]) (still : execution.world.Still)
    (free : task.point.isFree execution.world = true) :
    execution.nextMove? = some (.resume task.number) := by
  have ready := isReady_of_isFree alone free
  have deaf : task.point.hasNews execution.world = false := by
    simp only [Point.isFree, Bool.and_eq_true] at free
    simpa using free.1
  simp [nextMove?, findIdx?_isDue still.noneDue, alone, moveOf?, deaf, ready]

/-- Whether a task is no longer under way. -/
def isOver (number : Nat) (execution : Execution) : Bool :=
  (execution.task? number).isNone

theorem isOver_alone (alone : execution.running = [task]) :
    isOver task.number execution = false := by
  simp [isOver, task?, alone]

theorem runUntil_of_isOver (ended : isOver number execution = true) (rounds : Nat) :
    runUntil (isOver number) rounds execution = execution := by
  cases rounds with
  | zero => rfl
  | succ rounds => simp [runUntil, ended]

theorem runUntil_of_nextMove? {move : Move} (running : isOver number execution = false)
    (next : execution.nextMove? = some move) (rounds : Nat) :
    runUntil (isOver number) (rounds + 1) execution =
      runUntil (isOver number) rounds (execution.apply move) := by
  simp [runUntil, running, next]

/-- A single task that is free takes its step in one round. -/
theorem runUntil_of_isFree (alone : execution.running = [task]) (still : execution.world.Still)
    (free : task.point.isFree execution.world = true) (rounds : Nat) :
    runUntil (isOver task.number) (rounds + 1) execution =
      runUntil (isOver task.number) rounds
        (execution.settle task (task.point.resume execution.world)) := by
  rw [runUntil_of_nextMove? (isOver_alone alone) (nextMove?_of_isFree alone still free)]
  simp [apply, resume, task?, alone, isReady_of_isFree alone free]

/-! ## Waiting for a teardown -/

section Teardown

variable {earlier : List Transfer} {outcome : Link.Outcome} {due : Nat}
  (transfers : execution.world.transfers = earlier ++ [.closing outcome due])
  (noneDue : Transfer.NoneDue earlier)

include transfers noneDue

/-- Once the teardown is due, its end becomes known. -/
theorem runUntil_of_due (running : isOver number execution = false)
    (passed : due ≤ execution.world.clock) (rounds : Nat) :
    runUntil (isOver number) (rounds + 1) execution =
      runUntil (isOver number) rounds (execution.withWorld fun world =>
        { world with transfers := earlier ++ [.finished outcome] }) := by
  have next : execution.nextMove? = some (.bringOn earlier.length) := by
    simp [nextMove?, transfers, List.findIdx?_append, findIdx?_isDue noneDue, isDue, Transfer.due?,
      passed]
  rw [runUntil_of_nextMove? running next]
  simp [apply, withWorld, World.bringOn, transfers, passed, World.setTransfer]

variable (manual : ∃ backlog, execution.world.agenda = .manual backlog)
  (alone : execution.running = [task])
  (waits : task.point.obstacle = some (.transfer earlier.length))
  (deaf : task.point.hasNews execution.world = false)

include manual alone waits deaf

/-- Before that, nothing moves but the clock. -/
theorem runUntil_of_not_due (ahead : execution.world.clock < due) (rounds : Nat) :
    runUntil (isOver task.number) (rounds + 1) execution =
      runUntil (isOver task.number) rounds (execution.withWorld fun world =>
        { world with clock := due }) := by
  rcases manual with ⟨backlog, manual⟩
  have later : ¬ due ≤ execution.world.clock := by omega
  have idle : execution.nextMove? = none := by
    have unready : execution.isReady task = false := by
      simp [isReady, waits, isClear, World.outcome?, transfers, Transfer.outcome?]
    simp [nextMove?, transfers, List.findIdx?_append, findIdx?_isDue noneDue, isDue, Transfer.due?,
      later, alone, moveOf?, deaf, unready, schedulerMove?, manual]
  have others : earlier.filterMap Transfer.due? = [] := by
    simpa [Transfer.NoneDue] using noneDue
  have times : execution.dueTimes.min? = some due := by
    simp [dueTimes, transfers, others, Transfer.due?, manual, Schedule.Agenda.nextDue?, alone,
      waits]
  have jump : execution.world.clock + (due - execution.world.clock) = due := by omega
  simp [runUntil, isOver_alone alone, idle, times, jumpTo, apply, withWorld, jump]

theorem runUntil_of_closing (rounds : Nat) :
    ∃ left, rounds ≤ left ∧ runUntil (isOver task.number) (rounds + 2) execution =
      runUntil (isOver task.number) left (execution.withWorld fun world =>
        { world with
          clock := max world.clock due
          transfers := earlier ++ [.finished outcome] }) := by
  rcases Nat.lt_or_ge execution.world.clock due with ahead | passed
  · let waited := execution.withWorld fun world => { world with clock := due }
    have stands : waited.world.transfers = earlier ++ [.closing outcome due] := transfers
    have running : isOver task.number waited = false := isOver_alone alone
    have passed : due ≤ waited.world.clock := Nat.le_refl due
    have known := runUntil_of_due stands noneDue running passed rounds
    refine ⟨rounds, Nat.le_refl rounds, ?_⟩
    rw [runUntil_of_not_due transfers noneDue manual alone waits deaf ahead, known]
    simp [waited, withWorld, Nat.max_eq_right (Nat.le_of_lt ahead)]
  · refine ⟨rounds + 1, Nat.le_succ rounds, ?_⟩
    rw [runUntil_of_due transfers noneDue (isOver_alone alone) passed]
    simp [withWorld, Nat.max_eq_left passed]

end Teardown

/-! ## Whole requests -/

/-- The executor carries a single task to the answer that its own steps lead to. -/
theorem runUntil_of_ends {moves rounds : Nat} {point : Point} {world : World}
    (ends : point.Ends moves world answer after) (entered : execution.world = world)
    (alone : execution.running = [⟨number, request, point⟩]) (enough : moves ≤ rounds) :
    runUntil (isOver number) rounds execution =
      { execution with
        world := after
        running := []
        reports := ⟨number, request, answer⟩ :: execution.reports } := by
  induction ends generalizing execution rounds with
  | done still free step =>
      subst entered
      rcases rounds with _ | rounds
      · omega
      · rw [runUntil_of_isFree alone still free, step, runUntil_of_isOver]
        · simp [settle, alone]
        · simp [settle, alone, isOver, task?]
  | @pause moves point next world middle after answer still free step rest ih =>
      subst entered
      rcases rounds with _ | rounds
      · omega
      · rw [runUntil_of_isFree alone still free, step]
        have stands : (execution.settle ⟨number, request, point⟩ (.pause next middle)) =
            { execution with world := middle, running := [⟨number, request, next⟩] } := by
          simp [settle, alone]
        rw [stands]
        exact ih rfl rfl (by omega)
  | wait transfers noneDue manual waits deaf rest ih =>
      subst entered
      rcases rounds with _ | _ | rounds
      · omega
      · omega
      · rcases runUntil_of_closing transfers noneDue manual alone waits deaf rounds with
          ⟨left, spent, waited⟩
        rw [waited]
        exact ih rfl alone (by omega)

theorem await_eq {moves : Nat} {point : Point}
    (ends : point.Ends moves execution.world answer after)
    (alone : execution.running = [⟨number, request, point⟩]) (few : moves ≤ patience) :
    execution.await number = (some answer,
      { execution with
        world := after
        running := []
        reports := ⟨number, request, answer⟩ :: execution.reports }) := by
  have carried := runUntil_of_ends ends rfl alone few
  simp only [funext fun execution => isOver.eq_1 number execution] at carried
  simp [await, carried, answer?]

/-- The execution after a request that was the only one under way. -/
def answered (execution : Execution) (request : Request) (answer : Answer) (after : World) :
    Execution where
  world := after
  reports := ⟨execution.nextNumber, request, answer⟩ :: execution.reports
  nextNumber := execution.nextNumber + 1

/-- What a request comes to, made while nothing is under way. -/
theorem call_eq {moves : Nat} (resting : execution.running = [])
    (held : execution.world.node.held = true)
    (ends : request.entry.Ends moves execution.world answer after) (few : moves ≤ patience) :
    execution.call request = (some answer, execution.answered request answer after) := by
  have begun : execution.apply (.start execution.nextNumber request) =
      { execution with
        running := [⟨execution.nextNumber, request, request.entry⟩]
        nextNumber := execution.nextNumber + 1 } := by
    simp [apply, byHolder, held, start, resting]
  simp only [call, begun]
  exact await_eq ends rfl few

/-- What the next look comes to, run while nothing is under way. -/
theorem runNext_eq {moves session delay : Nat} {agenda : Schedule.Agenda}
    (resting : execution.running = []) (held : execution.world.node.held = true)
    (scheduled : execution.world.scheduled? = some (session, some delay, agenda))
    (ends : (Request.look session).entry.Ends moves
      (execution.world.withAgenda (some delay) agenda) answer after) (few : moves ≤ patience) :
    execution.runNext = (some delay, execution.answered (.look session) answer after) := by
  have begun : execution.apply (.runMonitor execution.nextNumber) =
      { execution with
        world := execution.world.withAgenda (some delay) agenda
        running := [⟨execution.nextNumber, .look session, (Request.look session).entry⟩]
        nextNumber := execution.nextNumber + 1 } := by
    simp [apply, runMonitor, scheduled, hasNode, World.withAgenda, World.note, held, start, resting]
  simp only [runNext, scheduled, begun]
  rw [await_eq ends rfl few]
  rfl

/-! ## Looks one after the other -/

/-- Looks of a session that were run one after the other, with what each of them did. -/
inductive Looks (session : Nat) : List LookOutcome → Execution → Execution → Prop where
  | nil (execution : Execution) : Looks session [] execution execution
  | cons {delay : Nat} {outcome : LookOutcome} {outcomes : List LookOutcome} {world : World}
      {before after : Execution}
      (ran : before.runNext =
        (some delay, before.answered (.look session) (.looked outcome) world))
      (rest : Looks session outcomes (before.answered (.look session) (.looked outcome) world)
        after) :
      Looks session (outcome :: outcomes) before after

namespace Looks

variable {session limit : Nat} {outcomes later : List LookOutcome}
  {before middle after : Execution}

theorem append (first : Looks session outcomes before middle)
    (second : Looks session later middle after) :
    Looks session (outcomes ++ later) before after := by
  induction first with
  | nil execution => exact second
  | cons ran rest ih => exact .cons ran (ih second)

theorem reports_eq (looks : Looks session outcomes before after) :
    after.reports.map Report.answer =
      (outcomes.map Answer.looked).reverse ++ before.reports.map Report.answer := by
  induction looks with
  | nil execution => rfl
  | cons ran rest ih => simp [ih, answered]

/-- Looks that leave nothing scheduled are all that the scheduler runs. -/
theorem runUntilIdle_eq (looks : Looks session outcomes before after)
    (idle : after.world.scheduled? = none) (enough : outcomes.length ≤ limit) :
    before.runUntilIdle limit = (outcomes.length, after) := by
  induction looks generalizing limit with
  | nil execution =>
      cases limit with
      | zero => rfl
      | succ limit => simp [runUntilIdle, runNext, idle]
  | cons ran rest ih =>
      rcases limit with _ | limit
      · simp at enough
      · have remaining := ih idle (by simpa using enough)
        simp [runUntilIdle, ran, remaining]

end Looks

end Execution

end BuildAgent
