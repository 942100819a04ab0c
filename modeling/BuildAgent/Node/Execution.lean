import BuildAgent.Node.Happening
import BuildAgent.Node.Task

/-!
# Executions

An `Execution` is a world with the tasks that are under way in it, and with a report on each task
that has ended. It changes by moves, one at a time: a request is made, a task takes its next step,
work on the link comes to its end, time passes, something happens from outside. `Execution.run`
carries a list of moves out, so a statement about every list of moves is a statement about every
interleaving.

A task takes a step only when nothing is in its way (`Execution.isReady`); a lock is free exactly
when no task holds it. Whoever starts a task chooses its number, larger than those before, so the
moves of one task can be left out of a list without renaming the others. A move that is not possible
changes nothing.
-/

namespace BuildAgent

/-- Work under way: its number, what was asked, and where it stands. -/
structure Task where
  number : Nat
  request : Request
  point : Point

/-- Work that has ended. -/
structure Report where
  number : Nat
  request : Request
  answer : Answer

/-- A world and the tasks in it. -/
structure Execution where
  world : World
  /-- The tasks under way, in the order in which they were started. -/
  running : List Task := []
  /-- The tasks that have ended, the latest first. -/
  reports : List Report := []
  /-- The least number that a task can still get. -/
  nextNumber : Nat := 0

/-- What can happen next. -/
inductive Move where
  /-- Somebody makes a request, and the task gets a number. -/
  | start (number : Nat) (request : Request)
  /-- A task takes its next step. -/
  | resume (number : Nat)
  /-- A watchdog takes notice of the shutdown channel. -/
  | notice (number : Nat)
  /-- Work on the link that is due goes on. -/
  | bringOn (transfer : Nat)
  /-- The scheduler runs the next look of the monitor as a task with a number. -/
  | runMonitor (number : Nat)
  | pass (duration : Nat)
  | retire
  | recordActivity
  /-- The last controller handle is dropped. -/
  | release
  /-- A value is sent over the shutdown channel. -/
  | send (value : Bool)
  /-- The sending end of the shutdown channel is dropped. -/
  | closeSignal
  | happen (happening : Happening)

namespace Execution

def withWorld (execution : Execution) (change : World → World) : Execution :=
  { execution with world := change execution.world }

def isFree (execution : Execution) (lock : Lock) : Bool :=
  execution.running.all fun task => !task.point.holds lock

def isClear (execution : Execution) : Option Obstacle → Bool
  | none => true
  | some (.lock lock) => execution.isFree lock
  | some (.transfer number) => (execution.world.outcome? number).isSome
  | some (.time deadline) => deadline ≤ execution.world.clock

/-- Whether a task can take its next step. -/
def isReady (execution : Execution) (task : Task) : Bool :=
  execution.isClear task.point.obstacle

/-- The task with a number, while it is under way. -/
def task? (execution : Execution) (number : Nat) : Option Task :=
  execution.running.find? fun task => task.number = number

/-- The answer to the task with a number, once it has ended. -/
def answer? (execution : Execution) (number : Nat) : Option Answer :=
  (execution.reports.find? fun report => report.number = number).map Report.answer

/-- Starts a task with a number that no task has had. -/
def start (execution : Execution) (number : Nat) (request : Request) : Execution :=
  if execution.nextNumber ≤ number then
    { execution with
      running := execution.running ++ [⟨number, request, request.entry⟩]
      nextNumber := number + 1 }
  else execution

/-- Records where a step of a task has led. -/
def settle (execution : Execution) (task : Task) (stage : Stage Point Answer) : Execution :=
  match stage with
  | .pause point world =>
    { execution with
      world
      running := execution.running.map fun other =>
        if other.number = task.number then { other with point } else other }
  | .done answer world =>
    { execution with
      world
      running := execution.running.filter fun other => other.number ≠ task.number
      reports := ⟨task.number, task.request, answer⟩ :: execution.reports }

def resume (execution : Execution) (number : Nat) : Execution :=
  match execution.task? number with
  | some task =>
    if execution.isReady task then
      execution.settle task (task.point.resume execution.world)
    else execution
  | none => execution

/-- Lets a task take notice of the shutdown channel. -/
def notice (execution : Execution) (number : Nat) : Execution :=
  match execution.task? number with
  | some task =>
    if task.point.hasNews execution.world then
      execution.settle task (task.point.notice execution.world)
    else execution
  | none => execution

/-- Whether the node still exists: somebody holds its controller, or a task works on it. -/
def hasNode (execution : Execution) : Bool :=
  execution.world.node.held || !execution.running.isEmpty

/-- Lets the scheduler run the next look of the monitor, as a task with a number. Without a node
there is nothing to look at. -/
def runMonitor (execution : Execution) (number : Nat) : Execution :=
  match execution.world.scheduled? with
  | none => execution
  | some (session, delay, agenda) =>
    if execution.nextNumber ≤ number then
      let begun := { execution with world := execution.world.withAgenda delay agenda }
      if begun.hasNode then begun.start number (.look session)
      else begun.withWorld fun world => world.note (.monitorWithoutNode session)
    else execution

/-- What somebody does who holds the controller; without one it cannot be done. -/
def byHolder (execution : Execution) (after : Execution) : Execution :=
  if execution.world.node.held then after else execution

def apply (execution : Execution) : Move → Execution
  | .start number request => execution.byHolder (execution.start number request)
  | .resume number => execution.resume number
  | .notice number => execution.notice number
  | .bringOn transfer => execution.withWorld fun world => world.bringOn transfer
  | .runMonitor number => execution.runMonitor number
  | .pass duration =>
    execution.withWorld fun world => { world with clock := world.clock + duration }
  | .retire => execution.byHolder (execution.withWorld World.retire)
  | .recordActivity => execution.byHolder (execution.withWorld World.recordActivity)
  | .release =>
    execution.withWorld fun world => world.withNode fun node => { node with held := false }
  | .send value =>
    execution.withWorld fun world =>
      { world with signal := { world.signal with value, count := world.signal.count + 1 } }
  | .closeSignal =>
    execution.withWorld fun world => { world with signal := { world.signal with isOpen := false } }
  | .happen happening => execution.withWorld happening.apply

def run (execution : Execution) (moves : List Move) : Execution :=
  moves.foldl apply execution

end Execution

end BuildAgent
