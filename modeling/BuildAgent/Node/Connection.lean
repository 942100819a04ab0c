import BuildAgent.Node.Stage

/-!
# The connection of a node

The node's side of the link to its agent: taking the node offline and online, starting attempts to
connect, and disconnecting. A node that was retired has no endpoint any more, and then nothing
here does anything.

To disconnect is best effort and always comes to its end. An agent that lives on by itself is
first asked to exit; then the channel is torn down, and the end of the teardown is waited for. A
failure is only noted, as a warning where it is not what an agent that is exiting does.
-/

namespace BuildAgent

namespace World

/-- Whether a channel to the agent is present. -/
def isChannelPresent (world : World) : Bool :=
  world.node.attached && world.endpoint.channelPresent

def offlineCause (world : World) : Option OfflineCause :=
  if world.node.attached then world.endpoint.cause else none

def takeOffline (world : World) (cause : OfflineCause) : World :=
  if world.node.attached then
    let world := world.note (.takingOffline cause)
    { world with endpoint := world.endpoint.mark true (some cause) }
  else world

def bringOnline (world : World) : World :=
  if world.node.attached then
    { world with endpoint := world.endpoint.mark false none }.note .broughtOnline
  else world

/-- Starts an attempt to connect and returns its number. -/
def connect? (world : World) (explicit : Bool) : Option (Nat × World) :=
  if world.node.attached then
    some ((world.note (.startingConnection explicit)).startConnection explicit)
  else none

def noteShutdown (world : World) : Link.Outcome → World
  | .ok () => world.note .askedToExit
  | .error fault =>
    if fault.isExpected then world.note (.goneDuringShutdown fault)
    else world.note (.shutdownRequestFailed fault)

/-- Asks the agent process to exit and notes how that went. -/
def requestShutdown (world : World) : World :=
  let (outcome, world) := world.askToExit
  world.noteShutdown outcome

def noteTeardown (world : World) : Link.Outcome → World
  | .ok () => world.note .tornDown
  | .error fault =>
    if fault.isExpected || world.node.longLived then world.note (.teardownEndedEarly fault)
    else world.note (.teardownFailed fault)

end World

/-- Where a disconnection stands. -/
inductive DisconnectPoint where
  | entering (cause : Option OfflineCause)
  | requesting (cause : Option OfflineCause)
  | tearing (transfer : Nat)
  deriving DecidableEq

namespace DisconnectPoint

def tear (cause : Option OfflineCause) (world : World) : Stage DisconnectPoint Unit :=
  let (transfer, world) := world.startTeardown cause
  .pause (.tearing transfer) world

def enter (cause : Option OfflineCause) (world : World) : Stage DisconnectPoint Unit :=
  if world.node.attached then
    if world.node.longLived && world.endpoint.channelPresent then
      .pause (.requesting cause) world
    else tear cause world
  else .done () (world.note .nothingToDisconnect)

/-- Begins to tear the channel down without asking the agent to exit. -/
def enterTeardown (cause : Option OfflineCause) (world : World) : Stage DisconnectPoint Unit :=
  if world.node.attached then tear cause world else .done () world

/-- Goes on from a point. The end of the teardown has to be known. -/
def resume : DisconnectPoint → World → Stage DisconnectPoint Unit
  | entering cause, world => enter cause world
  | requesting cause, world => tear cause world.requestShutdown
  | tearing transfer, world =>
    match world.outcome? transfer with
    | some outcome => .done () (world.noteTeardown outcome)
    | none => .pause (.tearing transfer) world

end DisconnectPoint

end BuildAgent
