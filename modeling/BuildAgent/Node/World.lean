import BuildAgent.Agent.Definition
import BuildAgent.Provider.Simulation
import BuildAgent.Reboot.Session
import BuildAgent.Schedule.Agenda
import BuildAgent.Settings

/-!
# The world of a node

A `World` is a node together with all that it deals with: the clock, the provider, the endpoint, the
scheduler and the journal. Work on the link that takes time, an attempt to connect or a teardown, is
a `Transfer`; transfers are numbered and the world keeps all of them, so a number stays good for
ever. Everything here happens at one instant of the clock; what takes several steps is a procedure
of the modules that follow.

Times and durations are in milliseconds.
-/

namespace BuildAgent

/-- Work on the link, from its start to its end. -/
inductive Transfer where
  /-- A connection that reaches the endpoint only when it is due. -/
  | dialing (explicit : Bool) (due : Nat)
  /-- Work whose outcome is settled, but is known only when it is due. -/
  | closing (outcome : Link.Outcome) (due : Nat)
  /-- Work that never ends. -/
  | hanging
  | finished (outcome : Link.Outcome)
  | aborted

namespace Transfer

/-- How the work ended, if it has. Work that was broken off was interrupted. -/
def outcome? : Transfer → Option Link.Outcome
  | finished outcome => some outcome
  | aborted => some (.error .interrupted)
  | _ => none

/-- The work after somebody broke it off: what has ended stays as it is. -/
def abort : Transfer → Transfer
  | finished outcome => finished outcome
  | _ => aborted

/-- The time at which the clock brings the work on. -/
def due? : Transfer → Option Nat
  | dialing _ due => some due
  | closing _ due => some due
  | _ => none

end Transfer

/-- The last answer to a fetch, and when it came. -/
structure CacheEntry where
  snapshot : Option Snapshot := none
  fetchedAt : Option Nat := none
  deriving DecidableEq

/-- Whether an entry is younger than a window. -/
def CacheEntry.isFresh (entry : CacheEntry) (now window : Nat) : Bool :=
  match entry.fetchedAt with
  | some time => now - time < window
  | none => false

/-- What the controller of a node holds. -/
structure Node where
  name : String
  definition : Definition
  timings : Timings
  capacity : Capacity
  entry : CacheEntry := {}
  /-- Whether the endpoint is attached. -/
  attached : Bool := true
  /-- Whether the agent has to be asked to exit. -/
  longLived : Bool
  session : Reboot.Session := {}
  retired : Bool := false
  lastActivity : Nat := 0
  /-- Whether somebody outside still holds the controller. -/
  held : Bool := true

/-- The latencies that wait for the next connections and teardowns. -/
structure Latencies where
  connect : List Nat := []
  teardown : List Nat := []
  deriving DecidableEq

/-- The channel over which the watchdog is told to shut down. The count goes up with every value
that is sent, so a watcher that remembers it can tell whether there is news. To a watchdog that
starts, all that was sent since the channel was made is news. -/
structure ShutdownSignal where
  value : Bool := false
  count : Nat := 0
  isOpen : Bool := true
  deriving DecidableEq

/-- A node and everything that it deals with. -/
structure World where
  clock : Nat := 0
  /-- The events so far, the latest first. -/
  journal : List Journal.Entry := []
  provider : Provider := {}
  endpoint : Endpoint
  latencies : Latencies := {}
  transfers : List Transfer := []
  agenda : Schedule.Agenda
  signal : ShutdownSignal := {}
  node : Node

namespace World

def create (definition : Definition) (timings : Timings) (agenda : Schedule.Agenda)
    (endpoint : Endpoint) (provider : Provider) : World where
  provider
  endpoint
  agenda
  node := {
    name := definition.name
    definition
    timings
    capacity := definition.initialCapacity
    longLived := definition.longLivedAgent }

def note (world : World) (event : Journal.Event) : World :=
  { world with journal := ⟨world.clock, event⟩ :: world.journal }

def withNode (world : World) (change : Node → Node) : World :=
  { world with node := change world.node }

def withSession (world : World) (change : Reboot.Session → Reboot.Session) : World :=
  world.withNode fun node => { node with session := change node.session }

def ask {α : Type} (world : World) (call : Provider → Provider.Reply α) :
    Except Provider.Failure α × World :=
  let reply := call world.provider
  let world := { world with provider := reply.provider }
  (reply.answer, match reply.event with
    | some event => world.note event
    | none => world)

/-! ## Transfers -/

def addTransfer (world : World) (transfer : Transfer) : Nat × World :=
  (world.transfers.length, { world with transfers := world.transfers ++ [transfer] })

def setTransfer (world : World) (number : Nat) (transfer : Transfer) : World :=
  { world with transfers := world.transfers.set number transfer }

def outcome? (world : World) (number : Nat) : Option Link.Outcome :=
  world.transfers[number]?.bind Transfer.outcome?

def abort (world : World) (number : Nat) : World :=
  { world with transfers := world.transfers.modify number Transfer.abort }

def askToExit (world : World) : Link.Outcome × World :=
  let (outcome, endpoint) := world.endpoint.requestShutdown
  let world := { world with endpoint }
  (outcome, match outcome with
    | .ok () => world.note .agentExiting
    | .error _ => world)

def reachEndpoint (world : World) (explicit : Bool) : Transfer × World :=
  let script := world.endpoint.nextScript
  let (outcome, endpoint) := world.endpoint.connect
  let world := { world.note (.connecting explicit script) with endpoint }
  (match outcome with
    | some outcome => .finished outcome
    | none => .hanging, world)

def startConnection (world : World) (explicit : Bool) : Nat × World :=
  match world.latencies.connect with
  | [] =>
    let (transfer, world) := world.reachEndpoint explicit
    world.addTransfer transfer
  | delay :: rest =>
    let world := { world with latencies := { world.latencies with connect := rest } }
    world.addTransfer (.dialing explicit (world.clock + delay))

/-- Starts a teardown. It takes effect at once, however late its end is known. -/
def startTeardown (world : World) (cause : Option OfflineCause) : Nat × World :=
  let (outcome, endpoint) := world.endpoint.teardown cause
  let world := { world with endpoint }
  match world.latencies.teardown with
  | [] => world.addTransfer (.finished outcome)
  | delay :: rest =>
    let world := { world with latencies := { world.latencies with teardown := rest } }
    world.addTransfer (.closing outcome (world.clock + delay))

/-- Brings a transfer on that is due: a connection reaches the endpoint, the end of other work
becomes known. -/
def bringOn (world : World) (number : Nat) : World :=
  match world.transfers[number]? with
  | some (.dialing explicit due) =>
    if due ≤ world.clock then
      let (transfer, world) := world.reachEndpoint explicit
      world.setTransfer number transfer
    else world
  | some (.closing outcome due) =>
    if due ≤ world.clock then world.setTransfer number (.finished outcome) else world
  | _ => world

/-! ## The session -/

/-- Breaks off the attempt that the session holds, if it holds one. -/
def abortAttempt (world : World) : World :=
  match world.node.session.attempt with
  | some attempt => world.abort attempt
  | none => world

def openSession (world : World) : World :=
  world.abortAttempt.withSession .start

def closeSession (world : World) : World :=
  world.abortAttempt.withSession .close

/-- Schedules the next look of the reboot monitor. -/
def scheduleMonitor (world : World) (session delay : Nat) : World :=
  let world := world.note (.schedulingMonitor session delay)
  { world with agenda := world.agenda.schedule world.clock delay session }

/-- The session of the next scheduled look that can run, the look's delay if it comes from a
backlog, and the agenda without it. Out of a backlog it is the oldest look, out of a timetable the
first that is due. -/
def scheduled? (world : World) : Option (Nat × Option Nat × Schedule.Agenda) :=
  match world.agenda with
  | .manual backlog =>
    backlog.take?.map fun ((delay, session), rest) => (session, some delay, .manual rest)
  | .timed timetable =>
    (timetable.take? world.clock).map fun (session, rest) => (session, none, .timed rest)

def withAgenda (world : World) (delay : Option Nat) (agenda : Schedule.Agenda) : World :=
  let world := { world with agenda }
  match delay with
  | some delay => world.note (.runningTask delay)
  | none => world

/-! ## Activity and retirement -/

/-- Notes that the node does useful work now. -/
def recordActivity (world : World) : World :=
  world.withNode fun node => { node with lastActivity := world.clock }

def idleFor (world : World) : Nat :=
  world.clock - world.node.lastActivity

def detach (world : World) : World :=
  if world.node.attached then
    (world.withNode fun node => { node with attached := false }).note .detached
  else world

def retire (world : World) : World :=
  if world.node.retired then world
  else
    ((world.withNode fun node => { node with retired := true }).detach).note .nodeRetired

end World

end BuildAgent
