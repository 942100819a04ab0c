import BuildAgent.Link.Fault
import BuildAgent.Link.OfflineCause

/-!
# Endpoints

The endpoint is the local end of the link to the agent on the instance. It knows whether a channel
is present and why the node is offline, if it is. This one is simulated: attempts to connect follow
scripts that were queued, an attempt without a script succeeds, and one fault may be waiting for the
next shutdown request and one for the next teardown.
-/

namespace BuildAgent

/-- How one attempt to connect goes. -/
inductive ConnectScript where
  | succeed
  | launchFail (reason : String)
  | fail (cause : OfflineCause)
  | hang
  deriving DecidableEq, Repr

/-- The local end of the link to an agent. -/
structure Endpoint where
  name : String
  channelPresent : Bool := true
  temporarilyOffline : Bool := false
  cause : Option OfflineCause := none
  scripts : List ConnectScript := []
  shutdownFault : Option Link.Fault := none
  teardownFault : Option Link.Fault := none
  connectCalls : Nat := 0
  teardownCalls : Nat := 0
  shutdownCalls : Nat := 0
  deriving DecidableEq, Repr

namespace Endpoint

/-- Sets the temporarily-offline flag with its cause, or clears both. -/
def mark (endpoint : Endpoint) (offline : Bool) (cause : Option OfflineCause) : Endpoint :=
  { endpoint with temporarilyOffline := offline, cause := if offline then cause else none }

def outcomeOf : Option Link.Fault → Link.Outcome
  | some fault => .error fault
  | none => .ok ()

def requestShutdown (endpoint : Endpoint) : Link.Outcome × Endpoint :=
  (outcomeOf endpoint.shutdownFault,
    { endpoint with shutdownFault := none, shutdownCalls := endpoint.shutdownCalls + 1 })

/-- Tears the channel down. A cause that is given becomes the offline cause. -/
def teardown (endpoint : Endpoint) (cause : Option OfflineCause) : Link.Outcome × Endpoint :=
  (outcomeOf endpoint.teardownFault,
    { endpoint with
      channelPresent := false
      cause := cause.or endpoint.cause
      teardownFault := none
      teardownCalls := endpoint.teardownCalls + 1 })

def nextScript (endpoint : Endpoint) : ConnectScript :=
  endpoint.scripts.headD .succeed

/-- Attempts to connect. An attempt without an outcome never ends. -/
def connect (endpoint : Endpoint) : Option Link.Outcome × Endpoint :=
  let begun := { endpoint with
    scripts := endpoint.scripts.tail, connectCalls := endpoint.connectCalls + 1 }
  match endpoint.nextScript with
  | .succeed => (some (.ok ()), { begun with channelPresent := true })
  | .launchFail reason =>
    (some (.error (.launchFailed reason)),
      { begun with channelPresent := false, cause := some (.launchFailed reason) })
  | .fail cause =>
    (some (.error (.io cause.message)),
      { begun with channelPresent := false, cause := some cause })
  | .hang => (none, begun)

end Endpoint

end BuildAgent
