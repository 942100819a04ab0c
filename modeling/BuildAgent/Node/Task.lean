import BuildAgent.Node.Rebooting
import BuildAgent.Node.Shutdown
import BuildAgent.Node.Tagging

/-!
# Tasks of a node

A `Request` is something the node can be asked to do, an `Answer` what comes of it, and a `Point`
where the work on a request stands between two steps. At its point a task may hold locks, and it
may have to wait: for a lock, for the end of work on the link, or for a time. `Point.holds` and
`Point.obstacle` say so, and `Point.resume` is the step that the task takes once nothing is in its
way.

There are three locks. The session lock guards the record of reboot sessions, the definition lock
the definition, and the cache lock the instance binding and the cached snapshot.
-/

namespace BuildAgent

/-- The locks of a node. -/
inductive Lock where
  | session
  | definition
  | cache
  deriving DecidableEq, Repr

/-- Why the idle watchdog ended. -/
inductive WatchExit where
  | shutdown
  | retired
  deriving DecidableEq, Repr

/-- The memory of an idle watchdog: its interval, the time of its next look, and the count of
shutdown values that it has seen. -/
structure Watch where
  interval : Nat
  deadline : Nat
  seen : Nat
  deriving DecidableEq, Repr

/-- On whose behalf an instance is stopped or terminated. -/
inductive Caller where
  /-- A command that concerns the instance alone. -/
  | instanceCommand
  /-- A command that takes the node out of management when it succeeds. -/
  | nodeCommand
  | idleTimeout
  | watchdog (watch : Watch)
  deriving DecidableEq, Repr

/-- What a task reads from the definition, and what it reads it for. -/
inductive Consultation where
  | definition
  | launchTimeout
  | idleTermination
  | address
  | rebootAfterBuild
  | idleAction (caller : Caller)
  | idleLimit (watch : Watch)
  deriving DecidableEq, Repr

/-- What the node can be asked to do. -/
inductive Request where
  | readDefinition
  | readLaunchTimeout
  | readIdleTermination
  | readInstanceId
  | readCapacity
  | readPhase
  | connectAddress
  | fetch (query : Query) (force : Bool)
  | lookUp
  | assign (instanceId : InstanceId) (announce : Bool)
  | changeTags (change : TagChange)
  | synchronize (change : TagChange) (tags : List Tag)
  | reconfigure (definition : Definition)
  | reboot
  | look (session : Nat)
  | completeBuild
  | stop
  | terminateInstance
  | terminate
  | idleTimeout
  | disconnect (cause : Option OfflineCause)
  | tearDown (cause : Option OfflineCause)
  | watch (interval : Nat)
  deriving DecidableEq

/-- What comes of a request. -/
inductive Answer where
  | nothing
  | definition (definition : Definition)
  | seconds (limit : Option Nat)
  | instanceId (bound : Option InstanceId)
  | capacity (capacity : Capacity)
  | phase (phase : Reboot.Phase)
  | snapshot (found : Option Snapshot)
  | truth (value : Bool)
  | text (value : Option String)
  | time (value : Option Time.Timestamp)
  | tags (tags : TagMap)
  | lookedUp (found : Except Refusal (Option Snapshot))
  | tagOutcome (outcome : Except Refusal TagOutcome)
  | reconfigured (outcome : Except Refusal Unit)
  | rebooted (session : Except Refusal Nat)
  | afterBuild (session : Option Nat)
  | looked (outcome : LookOutcome)
  | idle (action : IdleAction)
  | watchEnded (exit : WatchExit)

/-- Where a task stands between two steps. -/
inductive Point where
  | consulting (consultation : Consultation)
  | readingInstanceId
  | readingCapacity
  | readingPhase
  | fetching (query : Query) (point : FetchPoint)
  | lookingUp (point : LookupPoint)
  | assigning (instanceId : InstanceId) (announce : Bool)
  | changingTags (change : TagChange)
  | synchronizing (change : TagChange) (tags : List Tag) (locked : Bool) (point : SyncPoint)
  | reconfiguring (definition : Definition) (point : ReconfigurePoint)
  | completingBuild
  | rebooting (afterBuild : Bool) (point : RebootPoint)
  | looking (session : Nat) (point : LookPoint)
  | stopping (caller : Caller) (point : StopPoint)
  | terminating (caller : Caller) (point : TerminatePoint)
  | disconnecting (point : DisconnectPoint)
  | tearingDown (cause : Option OfflineCause)
  | startingWatch (interval : Nat)
  | watching (watch : Watch)
  deriving DecidableEq

/-- What a task may have to wait for. -/
inductive Obstacle where
  | lock (lock : Lock)
  | transfer (number : Nat)
  | time (deadline : Nat)
  deriving DecidableEq, Repr

namespace Request

/-- The point at which the work on a request begins. -/
def entry : Request → Point
  | readDefinition => .consulting .definition
  | readLaunchTimeout => .consulting .launchTimeout
  | readIdleTermination => .consulting .idleTermination
  | readInstanceId => .readingInstanceId
  | readCapacity => .readingCapacity
  | readPhase => .readingPhase
  | connectAddress => .consulting .address
  | fetch query force => .fetching query (.waiting force)
  | lookUp => .lookingUp .waiting
  | assign instanceId announce => .assigning instanceId announce
  | changeTags change => .changingTags change
  | synchronize change tags => .synchronizing change tags false .entering
  | reconfigure definition => .reconfiguring definition .waiting
  | reboot => .rebooting false .entering
  | look session => .looking session .waiting
  | completeBuild => .completingBuild
  | stop => .stopping .instanceCommand .entering
  | terminateInstance => .terminating .instanceCommand .entering
  | terminate => .terminating .nodeCommand .entering
  | idleTimeout => .consulting (.idleAction .idleTimeout)
  | disconnect cause => .disconnecting (.entering cause)
  | tearDown cause => .tearingDown cause
  | watch interval => .startingWatch interval

end Request

/-! ## Locks and obstacles -/

namespace FetchPoint

def holdsCache : FetchPoint → Bool
  | waiting _ => false
  | describing .. => true

def obstacle : FetchPoint → Option Obstacle
  | waiting _ => some (.lock .cache)
  | describing .. => none

end FetchPoint

def LookupPoint.obstacle : LookupPoint → Option Obstacle
  | waiting => some (.lock .cache)
  | describing _ => none

def DisconnectPoint.obstacle : DisconnectPoint → Option Obstacle
  | tearing transfer => some (.transfer transfer)
  | _ => none

def SyncPoint.obstacle : SyncPoint → Option Obstacle
  | entering => none
  | looking point => point.obstacle
  | identifying => some (.lock .cache)
  | submitting .. => none

namespace ReconfigurePoint

/-- Whether the replacement of a definition holds the definition lock. -/
def holdsDefinition : ReconfigurePoint → Bool
  | waiting => false
  | _ => true

/-- What the replacement of a definition waits for. -/
def obstacle : ReconfigurePoint → Option Obstacle
  | waiting => some (.lock .definition)
  | clearing _ point => point.obstacle
  | rebinding => some (.lock .cache)
  | pushing _ point => point.obstacle

end ReconfigurePoint

namespace RebootPoint

def holdsSession : RebootPoint → Bool
  | entering => false
  | waiting => false
  | _ => true

def obstacle : RebootPoint → Option Obstacle
  | entering => none
  | waiting => some (.lock .session)
  | disconnecting _ point => point.obstacle
  | binding _ => some (.lock .cache)
  | commanding .. => none
  | diagnosing _ _ _ point => point.obstacle

end RebootPoint

namespace LookPoint

/-- Whether a look of the monitor holds a lock. -/
def holds : LookPoint → Lock → Bool
  | waiting, _ => false
  | refreshing _, .session => true
  | refreshing point, .cache => point.holdsCache
  | refreshing _, .definition => false

/-- What a look of the monitor waits for. -/
def obstacle : LookPoint → Option Obstacle
  | waiting => some (.lock .session)
  | refreshing point => point.obstacle

end LookPoint

def StopPoint.obstacle : StopPoint → Option Obstacle
  | entering => none
  | disconnecting point => point.obstacle
  | binding => some (.lock .cache)
  | commanding _ => none
  | tearing point => point.obstacle
  | diagnosing _ _ point => point.obstacle

def TerminatePoint.obstacle : TerminatePoint → Option Obstacle
  | entering => none
  | disconnecting point => point.obstacle
  | binding => some (.lock .cache)
  | commanding _ => none

namespace Point

/-- Whether a task holds a lock at a point. -/
def holds (point : Point) (lock : Lock) : Bool :=
  match point, lock with
  | fetching _ point, .cache => point.holdsCache
  | synchronizing _ _ locked _, .definition => locked
  | reconfiguring _ point, .definition => point.holdsDefinition
  | rebooting _ point, .session => point.holdsSession
  | looking _ point, lock => point.holds lock
  | _, _ => false

/-- What a task waits for at a point, if it does. -/
def obstacle : Point → Option Obstacle
  | consulting _ => some (.lock .definition)
  | readingInstanceId => some (.lock .cache)
  | readingCapacity => some (.lock .cache)
  | readingPhase => some (.lock .session)
  | fetching _ point => point.obstacle
  | lookingUp point => point.obstacle
  | assigning .. => some (.lock .cache)
  | changingTags _ => some (.lock .definition)
  | synchronizing _ _ _ point => point.obstacle
  | reconfiguring _ point => point.obstacle
  | completingBuild => none
  | rebooting _ point => point.obstacle
  | looking _ point => point.obstacle
  | stopping _ point => point.obstacle
  | terminating _ point => point.obstacle
  | disconnecting point => point.obstacle
  | tearingDown _ => none
  | startingWatch _ => none
  | watching watch => some (.time watch.deadline)

end Point

/-! ## Steps -/

namespace Query

/-- The answer that a fetched snapshot gives to a query. -/
def answer (query : Query) (found : Option Snapshot) : Answer :=
  match query with
  | snapshot => .snapshot found
  | alive => .truth (found.any Snapshot.isAlive)
  | publicDns => .text (found.bind Snapshot.publicDns)
  | privateAddress => .text (found.bind Snapshot.privateAddress)
  | launchTime => .time (found.map Snapshot.launchTime)
  | tags => .tags ((found.map Snapshot.tags).getD .empty)

end Query

namespace Point

def finish {ρ : Type} (answer : ρ → Answer) (result : ρ) (world : World) : Stage Point Answer :=
  .done (answer result) world

/-- Goes on after an idle timeout. The watchdog ends once the instance was terminated, and starts
the idle time anew otherwise. -/
def afterAction (caller : Caller) (action : IdleAction) (world : World) : Stage Point Answer :=
  match caller with
  | .watchdog watch =>
    let world := world.note (.idleTimeoutHandled action)
    if action = .terminated true then .done (.watchEnded .retired) world
    else .pause (.watching watch) world.recordActivity
  | _ => .done (.idle action) world

def afterStop (caller : Caller) (accepted : Bool) (world : World) : Stage Point Answer :=
  match caller with
  | .instanceCommand => .done (.truth accepted) world
  | .nodeCommand => .done (.truth accepted) world
  | _ => afterAction caller (.stopped accepted) world

/-- Goes on after a termination. Unless it concerned the instance alone, a termination that the
provider accepted takes the node out of management. -/
def afterTermination (caller : Caller) (accepted : Bool) (world : World) : Stage Point Answer :=
  let retiring := if accepted then world.retire else world
  match caller with
  | .instanceCommand => .done (.truth accepted) world
  | .nodeCommand => .done (.truth accepted) retiring
  | _ => afterAction caller (.terminated accepted) retiring

def afterReboot (afterBuild : Bool) (result : Except Refusal Nat) (world : World) :
    Stage Point Answer :=
  if afterBuild then
    match result with
    | .ok session => .done (.afterBuild (some session)) world
    | .error refusal => .done (.afterBuild none) (world.note (.rebootSkipped refusal))
  else .done (.rebooted result) world

def consult (consultation : Consultation) (world : World) : Stage Point Answer :=
  let definition := world.node.definition
  match consultation with
  | .definition => .done (.definition definition) world
  | .launchTimeout => .done (.seconds definition.launchTimeout?) world
  | .idleTermination => .done (.seconds definition.idleTermination?) world
  | .address =>
    let query := if definition.usePrivateAddress then Query.privateAddress else .publicDns
    .pause (.fetching query (.waiting false)) world
  | .rebootAfterBuild =>
    if definition.rebootAfterBuild then .pause (.rebooting true .entering) world
    else .done (.afterBuild none) world
  | .idleAction caller =>
    let world := world.note (.idleTimeExpired definition.stopOnTerminate)
    if definition.stopOnTerminate then .pause (.stopping caller .entering) world
    else .pause (.terminating caller .entering) world
  | .idleLimit watch =>
    match definition.idleTermination? with
    | none => .pause (.watching watch) world
    | some limit =>
      if world.idleFor < limit * 1000 then
        .pause (.watching watch) (world.note (.withinIdleLimit world.idleFor))
      else .pause (.consulting (.idleAction (.watchdog watch))) world

/-- Binds the node to an instance; the answer is whether that changed anything. -/
def assign (instanceId : InstanceId) (announce : Bool) (world : World) : Stage Point Answer :=
  let changed := world.node.capacity.bound? ≠ some instanceId
  let world := world.withNode fun node => node.bind instanceId
  .done (.truth changed)
    (if changed && announce then world.note (.instanceAssigned instanceId) else world)

def watchLook (watch : Watch) (world : World) : Stage Point Answer :=
  if world.node.retired then .done (.watchEnded .retired) (world.note .watchdogSawRetirement)
  else
    .pause
      (.consulting (.idleLimit { watch with deadline := watch.deadline + watch.interval })) world

/-- Goes on from a point, once nothing is in the way. -/
def resume : Point → World → Stage Point Answer
  | consulting consultation, world => consult consultation world
  | readingInstanceId, world => .done (.instanceId world.node.capacity.bound?) world
  | readingCapacity, world => .done (.capacity world.node.capacity) world
  | readingPhase, world => .done (.phase world.node.session.phase) world
  | fetching query point, world =>
    (point.resume world).andThen (.fetching query) (finish query.answer)
  | lookingUp point, world => (point.resume world).andThen .lookingUp (finish .lookedUp)
  | assigning instanceId announce, world => assign instanceId announce world
  | changingTags change, world =>
    let tags := world.node.definition.tags
    (SyncPoint.enter change tags world).andThen (.synchronizing change tags true)
      (finish .tagOutcome)
  | synchronizing change tags locked point, world =>
    (point.resume change tags world).andThen (.synchronizing change tags locked)
      (finish .tagOutcome)
  | reconfiguring definition point, world =>
    (point.resume definition world).andThen (.reconfiguring definition) (finish .reconfigured)
  | completingBuild, world => .pause (.consulting .rebootAfterBuild) world.recordActivity
  | rebooting afterBuild point, world =>
    (point.resume world).andThen (.rebooting afterBuild) (afterReboot afterBuild)
  | looking session point, world =>
    (point.resume session world).andThen (.looking session) (finish .looked)
  | stopping caller point, world =>
    (point.resume world).andThen (.stopping caller) (afterStop caller)
  | terminating caller point, world =>
    (point.resume world).andThen (.terminating caller) (afterTermination caller)
  | disconnecting point, world =>
    (point.resume world).andThen .disconnecting fun () => .done .nothing
  | tearingDown cause, world =>
    (DisconnectPoint.enterTeardown cause world).andThen .disconnecting fun () => .done .nothing
  | startingWatch interval, world =>
    .pause (.watching ⟨interval, world.clock, 0⟩)
      (world.note (.watchdogStarted interval))
  | watching watch, world => watchLook watch world

/-- Whether a task at a point has news from the shutdown channel. Once the channel is closed there
is always news. -/
def hasNews (point : Point) (world : World) : Bool :=
  match point with
  | watching watch => watch.seen ≠ world.signal.count || !world.signal.isOpen
  | _ => false

def notice (point : Point) (world : World) : Stage Point Answer :=
  match point with
  | watching watch =>
    if world.signal.value then .done (.watchEnded .shutdown) (world.note .watchdogShuttingDown)
    else .pause (.watching { watch with seen := world.signal.count }) world
  | _ => .pause point world

end Point

end BuildAgent
