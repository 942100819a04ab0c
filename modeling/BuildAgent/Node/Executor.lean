import BuildAgent.Node.Execution

/-!
# Carrying an execution on

The executor makes the moves that nobody has to ask for. `nextMove?` chooses one: work on the link
that is due, then the tasks in the order in which they were started, then the scheduled looks that
the clock has brought up. `calm` moves until nothing moves any more. `runUntil` does so until a
condition holds, and lets time jump to the next thing that is due when nothing else moves;
`advance` lets time pass up to a given moment, during which everything happens at the time it is
due.

An execution whose timers have no delay need never come to rest, so these loops stop after
`patience` rounds.
-/

namespace BuildAgent.Execution

/-- The number of rounds after which a loop gives up. -/
def patience : Nat := 1000000

/-- Whether work on the link is due by a time. -/
def isDue (now : Nat) (transfer : Transfer) : Bool :=
  match transfer.due? with
  | some due => due ≤ now
  | none => false

/-- The next move of a task, if it can make one. -/
def moveOf? (execution : Execution) (task : Task) : Option Move :=
  if task.point.hasNews execution.world then some (.notice task.number)
  else if execution.isReady task then some (.resume task.number)
  else none

/-- The next move of a scheduler that follows the clock, if a look is due. -/
def schedulerMove? (execution : Execution) : Option Move :=
  match execution.world.agenda with
  | .manual _ => none
  | .timed timetable =>
    (timetable.take? execution.world.clock).map fun _ => .runMonitor execution.nextNumber

/-- The next move that nobody has to ask for. -/
def nextMove? (execution : Execution) : Option Move :=
  match execution.world.transfers.findIdx? (isDue execution.world.clock) with
  | some transfer => some (.bringOn transfer)
  | none =>
    match execution.running.findSome? execution.moveOf? with
    | some move => some move
    | none => execution.schedulerMove?

def calm : Nat → Execution → Execution
  | 0, execution => execution
  | rounds + 1, execution =>
    match execution.nextMove? with
    | some move => calm rounds (execution.apply move)
    | none => execution

/-- The times at which the clock brings something up. -/
def dueTimes (execution : Execution) : List Nat :=
  execution.world.transfers.filterMap Transfer.due? ++ execution.world.agenda.nextDue?.toList ++
    execution.running.filterMap fun task =>
      match task.point.obstacle with
      | some (.time deadline) => some deadline
      | _ => none

/-- Lets time jump to a moment that has not passed. -/
def jumpTo (execution : Execution) (time : Nat) : Execution :=
  execution.apply (.pass (time - execution.world.clock))

/-- Moves until a condition holds, and lets time jump where nothing else moves. -/
def runUntil (done : Execution → Bool) : Nat → Execution → Execution
  | 0, execution => execution
  | rounds + 1, execution =>
    if done execution then execution
    else
      match execution.nextMove? with
      | some move => runUntil done rounds (execution.apply move)
      | none =>
        match execution.dueTimes.min? with
        | some due => runUntil done rounds (execution.jumpTo due)
        | none => execution

/-- Lets time pass up to a given moment. -/
def advanceTo : Nat → Nat → Execution → Execution
  | 0, _, execution => execution
  | rounds + 1, target, execution =>
    let execution := calm patience execution
    match execution.dueTimes.min? with
    | some due =>
      if due ≤ target then advanceTo rounds target (execution.jumpTo due)
      else execution.jumpTo target
    | none => execution.jumpTo target

/-- Waits for the end of a task, if it is under way, and returns its answer. -/
def await (execution : Execution) (number : Nat) : Option Answer × Execution :=
  let execution := runUntil (fun execution => (execution.task? number).isNone) patience execution
  (execution.answer? number, execution)

/-- Waits for the end of work on the link and returns its outcome. -/
def awaitTransfer (execution : Execution) (number : Nat) : Option Link.Outcome × Execution :=
  let isOver (execution : Execution) : Bool := (execution.world.outcome? number).isSome
  let execution := runUntil isOver patience execution
  (execution.world.outcome? number, execution)

/-- Makes a request and waits for the answer. -/
def call (execution : Execution) (request : Request) : Option Answer × Execution :=
  let number := execution.nextNumber
  (execution.apply (.start number request)).await number

/-- Makes two requests at once and waits for both answers. -/
def callBoth (execution : Execution) (first second : Request) :
    Option Answer × Option Answer × Execution :=
  let firstNumber := execution.nextNumber
  let execution := execution.apply (.start firstNumber first)
  let secondNumber := execution.nextNumber
  let execution := execution.apply (.start secondNumber second)
  let (firstAnswer, execution) := execution.await firstNumber
  let (secondAnswer, execution) := execution.await secondNumber
  (firstAnswer, secondAnswer, execution)

def advance (execution : Execution) (duration : Nat) : Execution :=
  calm patience (advanceTo patience (execution.world.clock + duration) execution)

/-- Runs the next job of a backlog to its end and returns its delay, if there was one. -/
def runNext (execution : Execution) : Option Nat × Execution :=
  match execution.world.scheduled? with
  | some (_, some delay, _) =>
    let number := execution.nextNumber
    (some delay, ((execution.apply (.runMonitor number)).await number).2)
  | _ => (none, execution)

/-- Runs jobs of a backlog until none waits or a number of them has run. Returns how many ran. -/
def runUntilIdle : Nat → Execution → Nat × Execution
  | 0, execution => (0, execution)
  | limit + 1, execution =>
    match execution.runNext with
    | (none, execution) => (0, execution)
    | (some _, execution) =>
      let (count, execution) := runUntilIdle limit execution
      (count + 1, execution)

end BuildAgent.Execution
