import BuildAgent.Node.Cache
import BuildAgent.Node.Connection

/-!
# Rebooting a node

A reboot opens a session, takes the node offline with the session as the cause, disconnects, sends
the command and schedules the first look of the monitor. It holds the session lock from the opening
to the end, so reboots follow one after the other and the newest session owns the offline cause.
Failures of the provider are only noted: the instance may reboot anyway.

A look of the monitor holds the session lock for the whole of its observation and decision, so two
looks never both start an attempt to reconnect.
-/

namespace BuildAgent

/-- Where a reboot stands. -/
inductive RebootPoint where
  | entering
  | waiting
  | disconnecting (session : Nat) (point : DisconnectPoint)
  | binding (session : Nat)
  | commanding (session : Nat) (instanceId : InstanceId)
  | diagnosing (session : Nat) (instanceId : InstanceId) (failure : Provider.Failure)
      (point : LookupPoint)
  deriving DecidableEq

namespace RebootPoint

def finish (session : Nat) (world : World) : Stage RebootPoint (Except Refusal Nat) :=
  .done (.ok session) (world.scheduleMonitor session world.node.timings.reboot.initialDelay)

def begin (world : World) : Stage RebootPoint (Except Refusal Nat) :=
  let world := world.openSession
  let session := world.node.session.generation
  let world := (world.note (.preparingReboot session)).takeOffline (.reboot session)
  (DisconnectPoint.enter (some (.reboot session)) world).andThen (.disconnecting session)
    fun () world => .pause (.binding session) world

def resume : RebootPoint → World → Stage RebootPoint (Except Refusal Nat)
  | entering, world =>
    if world.node.retired then .done (.error (.retired world.node.name)) world
    else .pause .waiting world
  | waiting, world => begin world
  | disconnecting session point, world =>
    (point.resume world).andThen (.disconnecting session)
      fun () world => .pause (.binding session) world
  | binding session, world =>
    match world.node.capacity.bound? with
    | some instanceId => .pause (.commanding session instanceId) world
    | none => finish session (world.note .rebootNotSent)
  | commanding session instanceId, world =>
    match world.ask fun provider => provider.command .reboot instanceId with
    | (.ok (), world) => finish session (world.note (.rebootSent instanceId))
    | (.error failure, world) =>
      .pause (.diagnosing session instanceId failure .waiting) world
  | diagnosing session instanceId failure point, world =>
    (point.resume world).andThen (.diagnosing session instanceId failure) fun found world =>
      finish session (world.note (.rebootFailed instanceId failure (diagnosticOf found)))

end RebootPoint

/-- What a look of the monitor did. -/
inductive LookOutcome where
  | superseded
  | attemptStarted
  | pending
  | online
  | retryScheduled
  | abandoned (reason : Reboot.AbandonReason)
  deriving DecidableEq, Repr

/-- Where a look of the monitor stands. -/
inductive LookPoint where
  | waiting
  | refreshing (point : FetchPoint)
  deriving DecidableEq

namespace LookPoint

/-- Closes the session before the node came back. -/
def abandon (session : Nat) (reason : Reboot.AbandonReason) (world : World) :
    LookOutcome × World :=
  (.abandoned reason, world.closeSession.note (.abandoned session reason))

def startAttempt (session recheckAfter : Nat) (world : World) : LookOutcome × World :=
  match world.connect? false with
  | none => abandon session .endpointGone world
  | some (attempt, world) =>
    let world := (world.note (.attemptStarted session)).withSession fun record =>
      { record with attempt := some attempt }
    (.attemptStarted, world.scheduleMonitor session recheckAfter)

/-- Counts a failed launch and schedules another try. -/
def retryLaunch (session after : Nat) (world : World) : LookOutcome × World :=
  let world := world.withSession .recordFailure
  let world := world.note
    (.launchFailed session world.node.session.launchFailures world.offlineCause)
  (.retryScheduled, (world.takeOffline (.reboot session)).scheduleMonitor session after)

def act (session : Nat) (observation : Reboot.Observation) (world : World) :
    LookOutcome × World :=
  match world.node.timings.reboot.decide observation world.node.session.launchFailures with
  | .startAttempt recheckAfter => startAttempt session recheckAfter world
  | .recheck after =>
    (.pending, (world.note (.attemptPending session)).scheduleMonitor session after)
  | .online => (.online, (world.bringOnline.closeSession).note (.instanceOnline session))
  | .retryLaunch after => retryLaunch session after world
  | .abandon reason => abandon session reason world

/-- Takes the attempt that has ended out of the session, and notes it if it failed. -/
def takeAttempt (outcome : Link.Outcome) (world : World) : World :=
  let world := world.withSession fun record => { record with attempt := none }
  match outcome with
  | .ok () => world
  | .error fault => world.note (.attemptFailed fault)

/-- Begins a look, once the session lock is held. -/
def begin (session : Nat) (world : World) : Stage LookPoint LookOutcome :=
  if !world.node.session.isCurrent session then
    .done .superseded (world.note (.superseded session))
  else if world.node.retired then
    let (outcome, world) := abandon session .nodeRetired world
    .done outcome world
  else if !world.node.attached then
    let (outcome, world) := abandon session .endpointGone world
    .done outcome world
  else
    match world.node.session.attempt with
    | none => .pause (.refreshing (.waiting true)) world
    | some attempt =>
      match world.outcome? attempt with
      | none =>
        let (outcome, world) := act session .attemptPending world
        .done outcome world
      | some ended =>
        let world := takeAttempt ended world
        let observation := .attemptFinished world.isChannelPresent world.offlineCause
        let (outcome, world) := act session observation world
        .done outcome world

def afterFetch (session : Nat) (found : Option Snapshot) (world : World) :
    Stage LookPoint LookOutcome :=
  let alive := found.any Snapshot.isAlive
  let stillRebooting := world.offlineCause.any fun cause => cause.isRebootFor session
  let (outcome, world) := act session (.idle alive stillRebooting) world
  .done outcome world

def resume (session : Nat) : LookPoint → World → Stage LookPoint LookOutcome
  | waiting, world => begin session world
  | refreshing point, world =>
    (point.resume world).andThen .refreshing (afterFetch session)

end LookPoint

end BuildAgent
