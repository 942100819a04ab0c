import BuildAgent.Node.Executor

/-!
# The service

The outermost layer. It takes the settings from the environment, loads the definition, pushes the
node's tags and starts the idle watchdog; then it carries the node on in real time until the
watchdog ends. Journal entries are written to standard output, one JSON record a line.
-/

namespace BuildAgent.Service

/-- Writes one line of the log, if its severity is among those shown. -/
def writeLine (levels : List Journal.Level) (level : Journal.Level) (message : String)
    (fields : List (String × Datum)) : IO Unit := do
  if levels.contains level then
    IO.println (Json.print (.record
      [("level", .text level.name), ("message", .text message), ("fields", .record fields)]))
    (← IO.getStdout).flush

/-- The value of a field as a document holds it. -/
def datumOf : Journal.Value → Datum
  | .text value => .text value
  | .number value => .integer value
  | .truth value => .truth value

/-- Writes the entries that the journal has in addition to a number of old ones. -/
def writeEntries (levels : List Journal.Level) (old : Nat) (world : World) : IO Unit := do
  for entry in (world.journal.take (world.journal.length - old)).reverse do
    let event := entry.event
    let fields := event.fields world.node.name world.endpoint.name
    writeLine levels event.level event.message
      (fields.map fun field => (field.1, datumOf field.2))

/-- Carries the node on in real time until the watchdog has ended. -/
partial def watch (levels : List Journal.Level) (start watchdog written : Nat)
    (execution : Execution) : IO Unit := do
  writeEntries levels written execution.world
  if (execution.answer? watchdog).isSome then return
  IO.sleep 100
  let elapsed := (← IO.monoMsNow) - start
  watch levels start watchdog execution.world.journal.length
    (execution.advance (elapsed - execution.world.clock))

/-- A node with its instance, if it has one, at the simulated provider. -/
def launch (settings : Settings) (definition : Definition) : Execution where
  world :=
    World.create definition settings.timings (.timed {}) { name := definition.name }
      (Provider.ofInstances (definition.initialCapacity.bound?.toList.map fun instanceId =>
        Snapshot.running instanceId .epoch))

def writePush (levels : List Journal.Level) : Option Answer → IO Unit
  | some (.tagOutcome (.error refusal)) =>
    writeLine levels .warning "Failed to push initial tags"
      [("error", .text refusal.message), ("retryable", .truth refusal.isRetryable)]
  | _ => writeLine levels .information "Initial tags pushed" []

def run (settings : Settings) (definition : Definition) : IO Unit := do
  let levels := Journal.Level.shownAt settings.logLevel
  let (answer, execution) := (launch settings definition).call (.changeTags .push)
  writeEntries levels 0 execution.world
  writePush levels answer
  let written := execution.world.journal.length
  let number := execution.nextNumber
  let started := execution.apply (.start number (.watch (settings.idleCheckSeconds * 1000)))
  watch levels (← IO.monoMsNow) number written (started.calm Execution.patience)
  writeLine levels .information "Node retired, nothing left to manage" []

/-- The contents of a file, if it can be read. -/
def contentsOf (path : String) : IO (Option ByteArray) := do
  try return some (← IO.FS.readBinFile path) catch _ => return none

end BuildAgent.Service

open BuildAgent in
def main : IO UInt32 := do
  let environment ← Settings.Variable.all.mapM fun setting => do
    return (setting.name, ← IO.getEnv setting.name)
  match Settings.load fun name => (environment.lookup name).join with
  | .error fault =>
    IO.eprintln ("Error: " ++ fault.chain)
    return 1
  | .ok settings =>
    match Definition.load settings.definitionPath
        (← Service.contentsOf settings.definitionPath) with
    | .error fault =>
      IO.eprintln ("Error: " ++ fault.message)
      return 1
    | .ok definition =>
      Service.run settings definition
      return 0
