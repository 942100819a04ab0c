import BuildAgent.Node.Execution
import BuildAgent.Proofs.Task.Locks
import Mathlib.Tactic.ByContra

/-!
# The steps of an execution

`Execution.Step` lists what a move can do: nothing, a change of the world from outside, the start of
a task, a scheduled look that is taken out of the agenda, or a step of one task. In the last case
the tasks under way are split at the task that moves, so a statement about all tasks is a statement
about that task and one about those that keep still.

The split is sound because every task has a number of its own. That, and that no two tasks hold the
same lock, is what `Execution.Orderly` says; every step keeps it (`Execution.Orderly.step`).
-/

namespace BuildAgent

/-- What a node starts from. No look is scheduled before the first reboot. -/
structure Outset where
  definition : Definition
  timings : Timings
  agenda : Schedule.Agenda
  endpoint : Endpoint
  provider : Provider
  idle : agenda.jobs = []

def Outset.execution (outset : Outset) : Execution where
  world :=
    World.create outset.definition outset.timings outset.agenda outset.endpoint outset.provider

/-- A node that nothing is known of but its name. -/
def Outset.plain : Outset where
  definition := { name := "node" }
  timings := {}
  agenda := .manual {}
  endpoint := { name := "node" }
  provider := {}
  idle := rfl

def someInstance : InstanceId :=
  ⟨['0', '1', '2', '3', '4', '5', '6', '7'], by decide⟩

/-- A node on an instance that runs, and that the node has not looked up yet. -/
def Outset.onInstance (instanceId : InstanceId) : Outset where
  definition := .onDemand "node" instanceId
  timings := {}
  agenda := .manual {}
  endpoint := { name := "node" }
  provider := { instances := [.running instanceId .epoch] }
  idle := rfl

/-- What a move does to the world alone, whatever the tasks are about. -/
def Move.outside? : Move → Option (World → World)
  | bringOn transfer => some fun world => world.bringOn transfer
  | pass duration => some fun world => { world with clock := world.clock + duration }
  | retire => some World.retire
  | recordActivity => some World.recordActivity
  | release => some fun world => world.withNode fun node => { node with held := false }
  | send value =>
    some fun world =>
      { world with signal := { world.signal with value, count := world.signal.count + 1 } }
  | closeSignal => some fun world => { world with signal := { world.signal with isOpen := false } }
  | happen happening => some happening.apply
  | _ => none

namespace Stage

def remaining (task : Task) : Stage Point Answer → List Task
  | pause point _ => [{ task with point }]
  | done _ _ => []

def reported (task : Task) : Stage Point Answer → List Report
  | pause _ _ => []
  | done answer _ => [⟨task.number, task.request, answer⟩]

end Stage

namespace Execution

/-- The execution after a step of a task that stands between others. -/
def replace (execution : Execution) (earlier : List Task) (task : Task) (later : List Task)
    (stage : Stage Point Answer) : Execution :=
  { execution with
    world := stage.world
    running := earlier ++ (stage.remaining task ++ later)
    reports := stage.reported task ++ execution.reports }

/-- The two ways in which a task moves. -/
inductive Takes (execution : Execution) (task : Task) : Move → Stage Point Answer → Prop where
  | resume (ready : execution.isReady task = true) :
      Takes execution task (.resume task.number) (task.point.resume execution.world)
  | notice (news : task.point.hasNews execution.world = true) :
      Takes execution task (.notice task.number) (task.point.notice execution.world)

/-- What a move can do. -/
inductive Step (before : Execution) : Move → Execution → Prop where
  | idle (move : Move) : Step before move before
  | outside (move : Move) (change : World → World) (changes : move.outside? = some change) :
      Step before move (before.withWorld change)
  | started (number : Nat) (request : Request) (fresh : before.nextNumber ≤ number)
      (held : before.world.node.held = true) :
      Step before (.start number request)
        { before with
          running := before.running ++ [⟨number, request, request.entry⟩]
          nextNumber := number + 1 }
  | looked (number session : Nat) (delay : Option Nat) (agenda : Schedule.Agenda)
      (fresh : before.nextNumber ≤ number)
      (scheduled : before.world.scheduled? = some (session, delay, agenda))
      (present : before.hasNode = true) :
      Step before (.runMonitor number)
        { before with
          world := before.world.withAgenda delay agenda
          running := before.running ++ [⟨number, .look session, .looking session .waiting⟩]
          nextNumber := number + 1 }
  | lost (number session : Nat) (delay : Option Nat) (agenda : Schedule.Agenda)
      (scheduled : before.world.scheduled? = some (session, delay, agenda))
      (dropped : before.world.node.held = false) (alone : before.running = []) :
      Step before (.runMonitor number)
        (before.withWorld fun world =>
          (world.withAgenda delay agenda).note (.monitorWithoutNode session))
  | advanced (move : Move) (earlier later : List Task) (task : Task) (stage : Stage Point Answer)
      (split : before.running = earlier ++ task :: later) (takes : before.Takes task move stage) :
      Step before move (before.replace earlier task later stage)

end Execution

/-! ## Tasks do not get in each other's way -/

/-- Two tasks differ in their numbers, and no lock is held by both. -/
structure Task.Excludes (task other : Task) : Prop where
  number : task.number ≠ other.number
  lock : ∀ lock, task.point.holds lock = true → other.point.holds lock = false

theorem Task.Excludes.symm {task other : Task} (excludes : task.Excludes other) :
    other.Excludes task := by
  refine ⟨excludes.number.symm, ?_⟩
  intro lock holds
  by_contra also
  have free := excludes.lock lock (by simpa using also)
  simp [holds] at free

namespace Execution

/-- Every task has a number of its own that was given out, and no lock is held twice. -/
structure Orderly (execution : Execution) : Prop where
  apart : execution.running.Pairwise Task.Excludes
  numbered : ∀ task, task ∈ execution.running → task.number < execution.nextNumber

namespace Orderly

variable {execution : Execution} {earlier later : List Task} {task : Task}

theorem excludes (orderly : execution.Orderly)
    (split : execution.running = earlier ++ task :: later) {other : Task}
    (others : other ∈ earlier ++ later) : task.Excludes other := by
  have apart := orderly.apart
  rw [split, List.pairwise_middle Task.Excludes.symm, List.pairwise_cons] at apart
  exact apart.1 other others

end Orderly

/-! ## Moves are steps -/

theorem split_of_task? {execution : Execution} {number : Nat} {task : Task}
    (found : execution.task? number = some task) :
    task.number = number ∧
      ∃ earlier later, execution.running = earlier ++ task :: later := by
  rcases List.find?_eq_some_iff_append.mp found with ⟨same, earlier, later, split, _⟩
  exact ⟨by simpa using same, earlier, later, split⟩

theorem settle_eq {execution : Execution} (orderly : execution.Orderly) {earlier later : List Task}
    {task : Task} (split : execution.running = earlier ++ task :: later)
    (stage : Stage Point Answer) :
    execution.settle task stage = execution.replace earlier task later stage := by
  -- The model finds the task by its number, and no other task has that number.
  have different : ∀ other, other ∈ earlier ++ later → other.number ≠ task.number :=
    fun other others => (orderly.excludes split others).number.symm
  cases stage with
  | pause point world =>
      have still : ∀ tasks : List Task, (∀ other, other ∈ tasks → other.number ≠ task.number) →
          (tasks.map fun other =>
            if other.number = task.number then { other with point } else other) = tasks := by
        intro tasks apart
        refine (List.map_congr_left ?_).trans (List.map_id tasks)
        intro other others
        simp [apart other others]
      have before := still earlier fun other others =>
        different other (List.mem_append_left later others)
      have after := still later fun other others =>
        different other (List.mem_append_right earlier others)
      simp [settle, replace, Stage.remaining, Stage.reported, Stage.world, split, before, after]
  | done answer world =>
      have kept : ∀ tasks : List Task, (∀ other, other ∈ tasks → other.number ≠ task.number) →
          (tasks.filter fun other => other.number ≠ task.number) = tasks := by
        intro tasks apart
        rw [List.filter_eq_self]
        intro other others
        simpa using apart other others
      have before := kept earlier fun other others =>
        different other (List.mem_append_left later others)
      have after := kept later fun other others =>
        different other (List.mem_append_right earlier others)
      simp only [settle, replace, Stage.remaining, Stage.reported, Stage.world, split,
        List.filter_append, List.filter_cons, before, after]
      simp

theorem task?_of_mem {execution : Execution} (orderly : execution.Orderly) {task : Task}
    (running : task ∈ execution.running) : execution.task? task.number = some task := by
  rcases found : execution.task? task.number with _ | other
  · have absent := List.find?_eq_none.mp found task running
    simp at absent
  · rcases split_of_task? found with ⟨same, earlier, later, split⟩
    rw [split, List.mem_append, List.mem_cons] at running
    rcases running with early | rfl | late
    · exact absurd same (orderly.excludes split (List.mem_append_left later early)).number
    · rfl
    · exact absurd same (orderly.excludes split (List.mem_append_right earlier late)).number

/-- A task that is ready takes its step when it is resumed. -/
theorem resume_eq_replace {execution : Execution} (orderly : execution.Orderly) {task : Task}
    {earlier later : List Task} (split : execution.running = earlier ++ task :: later)
    (ready : execution.isReady task = true) :
    execution.resume task.number =
      execution.replace earlier task later (task.point.resume execution.world) := by
  have running : task ∈ execution.running := by simp [split]
  simp only [resume, task?_of_mem orderly running, ready, if_true]
  exact settle_eq orderly split _

/-- A ready task takes its step, whatever the other tasks are about. -/
theorem resume_of_mem {execution : Execution} (orderly : execution.Orderly) {task : Task}
    (running : task ∈ execution.running) (ready : execution.isReady task = true) :
    (execution.apply (.resume task.number)).world = (task.point.resume execution.world).world ∧
      (execution.apply (.resume task.number)).reports =
        (task.point.resume execution.world).reported task ++ execution.reports := by
  rcases List.append_of_mem running with ⟨earlier, later, split⟩
  simp only [apply]
  rw [resume_eq_replace orderly split ready]
  exact ⟨rfl, rfl⟩

theorem step_resume {execution : Execution} (orderly : execution.Orderly) (number : Nat) :
    execution.Step (.resume number) (execution.resume number) := by
  simp only [resume]
  split
  · rename_i task found
    rcases split_of_task? found with ⟨rfl, earlier, later, split⟩
    split
    · rename_i ready
      rw [settle_eq orderly split]
      exact .advanced _ earlier later task _ split (.resume ready)
    · exact .idle _
  · exact .idle _

theorem step_notice {execution : Execution} (orderly : execution.Orderly) (number : Nat) :
    execution.Step (.notice number) (execution.notice number) := by
  simp only [notice]
  split
  · rename_i task found
    rcases split_of_task? found with ⟨rfl, earlier, later, split⟩
    split
    · rename_i news
      rw [settle_eq orderly split]
      exact .advanced _ earlier later task _ split (.notice news)
    · exact .idle _
  · exact .idle _

theorem step_runMonitor (execution : Execution) (number : Nat) :
    execution.Step (.runMonitor number) (execution.runMonitor number) := by
  simp only [runMonitor]
  split
  · exact .idle _
  · rename_i session delay agenda scheduled
    split
    · rename_i fresh
      have same : hasNode { execution with world := execution.world.withAgenda delay agenda } =
          execution.hasNode := by
        cases delay <;> rfl
      rw [same]
      split
      · rename_i present
        simp only [start, fresh, if_true]
        exact .looked number session delay agenda fresh scheduled present
      · rename_i absent
        have nobody : execution.world.node.held = false ∧ execution.running = [] := by
          simpa [hasNode] using absent
        exact .lost number session delay agenda scheduled nobody.1 nobody.2
    · exact .idle _

theorem step_start (execution : Execution) (number : Nat) (request : Request)
    (held : execution.world.node.held = true) :
    execution.Step (.start number request) (execution.start number request) := by
  simp only [start]
  split
  · rename_i fresh
    exact .started number request fresh held
  · exact .idle _

theorem step_apply {execution : Execution} (orderly : execution.Orderly) (move : Move) :
    execution.Step move (execution.apply move) := by
  cases move with
  | start number request =>
      simp only [apply, byHolder]
      split
      · rename_i held
        exact step_start execution number request held
      · exact .idle _
  | resume number => exact step_resume orderly number
  | notice number => exact step_notice orderly number
  | runMonitor number => exact step_runMonitor execution number
  | bringOn transfer => exact .outside (.bringOn transfer) _ rfl
  | pass duration => exact .outside (.pass duration) _ rfl
  | retire =>
      simp only [apply, byHolder]
      split
      · exact .outside _ _ rfl
      · exact .idle _
  | recordActivity =>
      simp only [apply, byHolder]
      split
      · exact .outside _ _ rfl
      · exact .idle _
  | release => exact .outside .release _ rfl
  | send value => exact .outside (.send value) _ rfl
  | closeSignal => exact .outside .closeSignal _ rfl
  | happen happening => exact .outside (.happen happening) _ rfl

/-! ## Steps keep the order -/

/-- A lock that a task holds after a step was its own before, or nobody's. -/
theorem Takes.lock {execution : Execution} {task : Task} {move : Move} {next : Point}
    {world : World} (takes : execution.Takes task move (.pause next world)) {lock : Lock}
    (holds : next.holds lock = true) :
    task.point.holds lock = true ∨ execution.isFree lock = true := by
  generalize stage_eq : Stage.pause next world = stage at takes
  cases takes with
  | resume ready =>
      rcases Point.holds_of_resume stage_eq.symm holds with held | wanted
      · exact .inl held
      · exact .inr (by simpa only [isReady, wanted, isClear] using ready)
  | notice news => exact .inl (Point.holds_of_notice stage_eq.symm holds)

theorem not_holds_of_isFree {execution : Execution} {lock : Lock}
    (free : execution.isFree lock = true) {task : Task} (running : task ∈ execution.running) :
    task.point.holds lock = false := by
  simp only [isFree, List.all_eq_true] at free
  simpa using free task running

theorem Orderly.started {execution : Execution} (orderly : execution.Orderly) {number : Nat}
    (fresh : execution.nextNumber ≤ number) (request : Request) (world : World) :
    Orderly { execution with
      world
      running := execution.running ++ [⟨number, request, request.entry⟩]
      nextNumber := number + 1 } := by
  constructor
  · rw [List.pairwise_append]
    refine ⟨orderly.apart, List.pairwise_singleton _ _, ?_⟩
    intro task running added new
    rw [List.mem_singleton] at new
    subst new
    have numbered := orderly.numbered task running
    exact ⟨by dsimp only; omega, fun lock _ => request.holds_entry lock⟩
  · intro task running
    rw [List.mem_append, List.mem_singleton] at running
    rcases running with old | rfl
    · have numbered := orderly.numbered task old
      dsimp only
      omega
    · exact Nat.lt_succ_self number

theorem mem_of_eq_append {execution : Execution} {earlier later : List Task} {task : Task}
    (split : execution.running = earlier ++ task :: later) : task ∈ execution.running := by
  simp [split]

theorem mem_of_split {execution : Execution} {earlier later : List Task} {task other : Task}
    (split : execution.running = earlier ++ task :: later) (others : other ∈ earlier ++ later) :
    other ∈ execution.running := by
  rw [split]
  simp only [List.mem_append, List.mem_cons] at others ⊢
  exact others.imp_right .inr

theorem mem_remaining {task other : Task} {stage : Stage Point Answer}
    (left : other ∈ stage.remaining task) :
    ∃ next world, stage = .pause next world ∧ other = { task with point := next } := by
  cases stage with
  | pause next world => exact ⟨next, world, rfl, List.mem_singleton.mp left⟩
  | done answer world => cases left

theorem mem_replace {execution : Execution} {earlier later : List Task} {task other : Task}
    {stage : Stage Point Answer} :
    other ∈ (execution.replace earlier task later stage).running ↔
      other ∈ stage.remaining task ∨ other ∈ earlier ++ later := by
  simp only [replace, List.mem_append]
  exact or_left_comm

/-! ## Which task has a number -/

/-- After a step of a task its number is that of the task where the step has led, if it goes on. -/
theorem task?_replace {execution : Execution} (orderly : execution.Orderly)
    {earlier later : List Task} {task : Task}
    (split : execution.running = earlier ++ task :: later) (stage : Stage Point Answer) :
    (execution.replace earlier task later stage).task? task.number =
      stage.point?.map fun point => { task with point } := by
  have apart : ∀ tasks : List Task, (∀ other ∈ tasks, other ∈ earlier ++ later) →
      tasks.find? (fun other => other.number = task.number) = none := by
    intro tasks others
    apply List.find?_eq_none.mpr
    intro other member
    simpa using (orderly.excludes split (others other member)).number.symm
  have before := apart earlier fun _ => List.mem_append_left later
  have after := apart later fun _ => List.mem_append_right earlier
  simp only [task?, replace, List.find?_append, before, after]
  cases stage <;> simp [Stage.remaining, Stage.point?]

/-- A step of a task changes nothing about the other numbers. -/
theorem task?_replace_other {execution : Execution} {earlier later : List Task} {task : Task}
    (split : execution.running = earlier ++ task :: later) (stage : Stage Point Answer)
    {number : Nat} (other : task.number ≠ number) :
    (execution.replace earlier task later stage).task? number = execution.task? number := by
  simp only [task?, replace, split, List.find?_append, List.find?_cons, other]
  cases stage <;> simp [Stage.remaining, other]

/-- A task that is started gets a number of its own, and the others keep theirs. -/
theorem task?_started (execution : Execution) (fresh : Nat) (request : Request) (world : World)
    {number : Nat} (other : fresh ≠ number) :
    Execution.task? { execution with
      world
      running := execution.running ++ [⟨fresh, request, request.entry⟩]
      nextNumber := fresh + 1 } number = execution.task? number := by
  simp [task?, List.find?_append, other]

/-! ## The order is kept -/

theorem Orderly.replace {execution : Execution} (orderly : execution.Orderly) {move : Move}
    {earlier later : List Task} {task : Task} {stage : Stage Point Answer}
    (split : execution.running = earlier ++ task :: later)
    (takes : execution.Takes task move stage) :
    (execution.replace earlier task later stage).Orderly := by
  have apart := orderly.apart
  rw [split, List.pairwise_middle Task.Excludes.symm, List.pairwise_cons] at apart
  constructor
  · cases stage with
    | pause next world =>
        simp only [Execution.replace, Stage.remaining, List.singleton_append]
        rw [List.pairwise_middle Task.Excludes.symm, List.pairwise_cons]
        refine ⟨?_, apart.2⟩
        intro other others
        refine ⟨(apart.1 other others).number, ?_⟩
        intro lock holds
        rcases takes.lock holds with held | free
        · exact (apart.1 other others).lock lock held
        · exact not_holds_of_isFree free (mem_of_split split others)
    | done answer world => simpa [Execution.replace, Stage.remaining] using apart.2
  · intro other others
    rcases mem_replace.mp others with left | still
    · rcases mem_remaining left with ⟨next, world, _, rfl⟩
      exact orderly.numbered task (mem_of_eq_append split)
    · exact orderly.numbered other (mem_of_split split still)

theorem Orderly.step {before after : Execution} {move : Move} (orderly : before.Orderly)
    (step : before.Step move after) : after.Orderly := by
  cases step with
  | idle move => exact orderly
  | outside move change changes => exact ⟨orderly.apart, orderly.numbered⟩
  | started number request fresh => exact orderly.started fresh request before.world
  | looked number session delay agenda fresh scheduled =>
      exact orderly.started fresh (.look session) (before.world.withAgenda delay agenda)
  | lost number session delay agenda scheduled dropped =>
      exact ⟨orderly.apart, orderly.numbered⟩
  | advanced move earlier later task stage split takes => exact orderly.replace split takes

theorem run_append (execution : Execution) (earlier later : List Move) :
    execution.run (earlier ++ later) = (execution.run earlier).run later :=
  List.foldl_append

theorem run_concat (execution : Execution) (moves : List Move) (move : Move) :
    execution.run (moves ++ [move]) = (execution.run moves).apply move :=
  execution.run_append moves [move]

theorem run_append_concat (execution : Execution) (moves rest : List Move) (move : Move) :
    execution.run (moves ++ (rest ++ [move])) = (execution.run (moves ++ rest)).apply move := by
  rw [← List.append_assoc, run_concat]

theorem Orderly.run {execution : Execution} (orderly : execution.Orderly) (moves : List Move) :
    (execution.run moves).Orderly := by
  induction moves generalizing execution with
  | nil => exact orderly
  | cons move moves hypothesis => exact hypothesis (orderly.step (step_apply orderly move))

/-- The numbers of tasks are given out upwards. -/
theorem Step.nextNumber_le {before after : Execution} {move : Move}
    (step : before.Step move after) : before.nextNumber ≤ after.nextNumber := by
  cases step with
  | started number request fresh held => exact Nat.le_succ_of_le fresh
  | looked number session delay agenda fresh scheduled present => exact Nat.le_succ_of_le fresh
  | _ => exact Nat.le_refl _

end Execution

theorem Outset.orderly_execution (outset : Outset) : outset.execution.Orderly := by
  constructor
  · exact List.Pairwise.nil
  · intro task running
    cases running

end BuildAgent
