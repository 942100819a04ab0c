import BuildAgent.Proofs.Execution.LeftAlone
import BuildAgent.Proofs.Monitor.Finality

/-!
# Stops and terminations report what the provider accepted

There are four ways to shut an instance down: to stop it, to terminate it, to terminate it and take
the node out of management, and to do one of these after an idle timeout, as the definition says.
All of them first disconnect and then send one command, and the answer is whether the provider
accepted it (`Outset.shutdown_reports_acceptance`). They differ in the command and in the caller:
that is a `Shutdown`, and what comes of it is `World.ShutDown`.

That the node is disconnected before anything is asked of the provider cannot be read off the end.
It holds at every stage on the way (`Point.Walks.inOrder`): the provider has not been asked, or the
channel is gone.
-/

namespace BuildAgent

/-- A way to shut an instance down. -/
structure Shutdown where
  /-- Whether the instance is stopped. Otherwise it is terminated. -/
  stops : Bool
  caller : Caller

namespace Shutdown

variable (shutdown : Shutdown)

def operation : Provider.Operation :=
  if shutdown.stops then .stop else .terminate

/-- The state to which the command brings the instance. -/
def state : InstanceState :=
  if shutdown.stops then .stopped else .terminated

/-- Whether the node is taken out of management if the command is accepted. -/
def retires : Bool :=
  !shutdown.stops && shutdown.caller.retires

/-- The answer, by whether the command was accepted. -/
def answer (accepted : Bool) : Answer :=
  shutdown.caller.answer (if shutdown.stops then .stopped else .terminated) accepted

theorem stateAfter_operation : Provider.stateAfter shutdown.operation = some shutdown.state := by
  rcases shutdown with ⟨_ | _, caller⟩ <;> rfl

end Shutdown

/-- How a request shuts the instance down, if it does. -/
def Request.shutdown? (definition : Definition) : Request → Option Shutdown
  | stop => some ⟨true, .instanceCommand⟩
  | terminateInstance => some ⟨false, .instanceCommand⟩
  | terminate => some ⟨false, .nodeCommand⟩
  | idleTimeout => some ⟨definition.stopOnTerminate, .idleTimeout⟩
  | _ => none

namespace World

/-- What is left of the endpoint after its channel was torn down a number of times. A node without
its endpoint leaves it alone. -/
structure PartsWith (before : World) (times : Nat) (after : Endpoint) : Prop where
  detached : before.node.attached = false → after = before.endpoint
  channel : before.node.attached = true → after.channelPresent = false
  cause : after.cause = before.endpoint.cause
  offline : after.temporarilyOffline = before.endpoint.temporarilyOffline
  teardowns : before.node.attached = true →
    after.teardownCalls = before.endpoint.teardownCalls + times
  /-- An agent that lives on by itself is asked to exit, once, if it can be reached. -/
  shutdowns : before.node.attached = true →
    after.shutdownCalls = before.endpoint.shutdownCalls +
      if before.node.longLived && before.endpoint.channelPresent then 1 else 0

/-- What is left after the instance was shut down, or after the provider refused to. -/
structure ShutDown (before : World) (shutdown : Shutdown) (after : World) : Prop where
  /-- Only a termination on behalf of the node that was accepted takes it out of management. -/
  node : after.node =
    let leaves := shutdown.retires && (before.accepted? shutdown.operation).isSome
    { before.node with
      retired := before.node.retired || leaves
      attached := before.node.attached && !leaves }
  /-- The node is disconnected. A stop that was accepted tears the channel down once more. -/
  endpoint : before.PartsWith
    (if shutdown.stops && (before.accepted? shutdown.operation).isSome then 2 else 1)
    after.endpoint
  /-- The command is sent once. A stop that failed is looked into. -/
  calls : after.provider.calls =
    Provider.keepCalls (before.commandCalls shutdown.operation shutdown.stops)
      before.provider.calls
  /-- The state of the instance changes if the command was accepted, and nothing else does. -/
  instances : after.provider.instances =
    match before.accepted? shutdown.operation with
    | some instanceId => (before.provider.setState instanceId shutdown.state).instances
    | none => before.provider.instances
  agenda : after.agenda = before.agenda

/-- What an outline shows of a shutdown is what a shutdown leaves. -/
theorem ShutDown.of_outline {before after : World} {shutdown : Shutdown} {started : Nat}
    (shown : (before.outline started).ShutDown shutdown (after.outline started)) :
    before.ShutDown shutdown after where
  node := shown.node
  endpoint := ⟨shown.endpoint.detached, shown.endpoint.channel, shown.endpoint.cause,
    shown.endpoint.offline, shown.endpoint.teardowns, shown.endpoint.shutdowns⟩
  calls := shown.calls
  instances := shown.instances
  agenda := shown.agenda

@[simp]
theorem accepted?_disconnected (cause : Option OfflineCause) (world : World)
    (operation : Provider.Operation) :
    (world.disconnected cause).accepted? operation = world.accepted? operation := by
  rcases world.disconnected_eq cause with ⟨endpoint, parted, _⟩
  rw [parted]
  rfl

theorem leftManagement_eq {world : World} (coupled : world.node.attached = !world.node.retired) :
    world.leftManagement =
      { world with node := { world.node with retired := true, attached := false } } := by
  rcases retired : world.node.retired with _ | _
  · simp [leftManagement, retired, withNode]
  · have detached : world.node.attached = false := by rw [coupled, retired]; rfl
    simp only [leftManagement, retired, if_true]
    rw [← retired, ← detached]

theorem PartsWith.again {world : World} {times : Nat} {endpoint : Endpoint}
    (parts : world.PartsWith times endpoint) (provider : Provider) :
    ∃ torn, World.parted none { world with endpoint, provider } =
        { world with endpoint := torn, provider } ∧
      world.PartsWith (times + 1) torn := by
  rcases attached : world.node.attached with _ | _
  · refine ⟨endpoint, by simp [parted, attached], ?_⟩
    exact ⟨parts.detached, parts.channel, parts.cause, parts.offline, by simp [attached],
      parts.shutdowns⟩
  · refine ⟨(endpoint.teardown none).2, by simp only [parted, attached]; rfl, ?_⟩
    exact ⟨by simp [attached], fun _ => rfl, parts.cause, parts.offline,
      fun _ => congrArg (· + 1) (parts.teardowns attached), parts.shutdowns⟩

/-- A shutdown disconnects and sends its command. -/
theorem exists_sent (shutdown : Shutdown) (world : World) : ∃ endpoint provider,
    (world.disconnected none).sent shutdown.operation shutdown.stops =
      { world with endpoint, provider } ∧
    world.PartsWith 1 endpoint ∧
    provider.calls = Provider.keepCalls (world.commandCalls shutdown.operation shutdown.stops)
      world.provider.calls ∧
    provider.instances = match world.accepted? shutdown.operation with
      | some instanceId => (world.provider.setState instanceId shutdown.state).instances
      | none => world.provider.instances := by
  rcases world.disconnected_eq none with ⟨endpoint, parted, kept, torn⟩
  have parts : world.PartsWith 1 endpoint := by
    rcases attached : world.node.attached with _ | _
    · rw [kept attached]
      exact ⟨fun _ => rfl, by simp [attached], rfl, rfl, by simp [attached], by simp [attached]⟩
    · have gone := torn attached
      exact ⟨by simp [attached], fun _ => congrArg Endpoint.channelPresent gone,
        (congrArg Endpoint.cause gone :), (congrArg Endpoint.temporarilyOffline gone :),
        fun _ => congrArg Endpoint.teardownCalls gone,
        fun _ => congrArg Endpoint.shutdownCalls gone⟩
  let middle : World := { world with endpoint }
  rcases middle.sent_eq shutdown.operation shutdown.stops with ⟨provider, sent, calls⟩
  have instances := middle.instances_sent shutdown.stops shutdown.stateAfter_operation
  rw [sent] at instances
  rw [parted]
  exact ⟨endpoint, provider, sent, parts, calls, instances⟩

end World

namespace Shutdown

/-- What comes of a shutdown. -/
def outlook (shutdown : Shutdown) (world : World) : Answer × World :=
  let accepted := (world.accepted? shutdown.operation).isSome
  let sent := (world.disconnected none).sent shutdown.operation shutdown.stops
  let parted := if shutdown.stops && accepted then sent.parted none else sent
  (shutdown.answer accepted,
    if shutdown.retires && accepted then parted.leftManagement else parted)

theorem outlook_stop (started now : Nat) (caller : Caller) (world : World) :
    Point.stopOutlook caller ((StopPoint.forecast started).outlook .entering world) now =
      outlook ⟨true, caller⟩ world := by
  have entering : (StopPoint.forecast started).outlook .entering world =
      StopPoint.bindingOutlook (world.disconnected none) := rfl
  rw [entering, StopPoint.bindingOutlook_eq, World.accepted?_disconnected]
  cases caller <;> rfl

theorem outlook_termination (started now : Nat) (caller : Caller) (world : World) :
    Point.terminationOutlook caller ((TerminatePoint.forecast started).outlook .entering world)
      now = outlook ⟨false, caller⟩ world := by
  have entering : (TerminatePoint.forecast started).outlook .entering world =
      TerminatePoint.bindingOutlook (world.disconnected none) := rfl
  rw [entering, TerminatePoint.bindingOutlook_eq, World.accepted?_disconnected]
  cases caller <;> rfl

/-- What is foreseen of a request to shut the instance down. -/
theorem outlook_entry {shutdown : Shutdown} {request : Request} {world : World}
    (plan : request.shutdown? world.node.definition = some shutdown) (started now : Nat)
    (free : Lock → Bool) :
    (Point.forecast started free).outlook request.entry world now = shutdown.outlook world := by
  cases request with
  | stop =>
      cases plan
      exact outlook_stop started now .instanceCommand world
  | terminateInstance =>
      cases plan
      exact outlook_termination started now .instanceCommand world
  | terminate =>
      cases plan
      exact outlook_termination started now .nodeCommand world
  | idleTimeout =>
      cases plan
      have choice : (Point.forecast started free).outlook Request.idleTimeout.entry world =
          if world.node.definition.stopOnTerminate then
            Point.stopOutlook .idleTimeout ((StopPoint.forecast started).outlook .entering world)
          else Point.terminationOutlook .idleTimeout
            ((TerminatePoint.forecast started).outlook .entering world) := rfl
      rw [choice]
      cases world.node.definition.stopOnTerminate with
      | true => exact outlook_stop started now .idleTimeout world
      | false => exact outlook_termination started now .idleTimeout world
  | _ => cases plan

/-- **What is foreseen of a shutdown is what a shutdown leaves.** -/
theorem shutDown_outlook (shutdown : Shutdown) {world : World}
    (coupled : world.node.attached = !world.node.retired) :
    world.ShutDown shutdown (shutdown.outlook world).2 := by
  rcases World.exists_sent shutdown world with
    ⟨endpoint, provider, sent, parts, calls, instances⟩
  let middle : World := { world with endpoint, provider }
  rcases again : shutdown.stops && (world.accepted? shutdown.operation).isSome with _ | _
  · -- Without a second teardown, only the standing of the node is left.
    have once : world.PartsWith
        (if (shutdown.stops && (world.accepted? shutdown.operation).isSome) = true then 2 else 1)
        endpoint := by
      rw [again]
      exact parts
    rcases leaves : shutdown.retires && (world.accepted? shutdown.operation).isSome with _ | _
    · have outlook : (shutdown.outlook world).2 = middle := by
        simp only [outlook, sent, again, leaves]
        rfl
      rw [outlook]
      exact ⟨by simp [leaves, middle], once, calls, instances, rfl⟩
    · have outlook : (shutdown.outlook world).2 =
          { middle with node := { world.node with retired := true, attached := false } } := by
        simp only [outlook, sent, again, leaves]
        exact World.leftManagement_eq coupled
      rw [outlook]
      exact ⟨by simp [leaves], once, calls, instances, rfl⟩
  · have stays : (shutdown.retires && (world.accepted? shutdown.operation).isSome) = false := by
      rw [Bool.and_eq_true] at again
      simp only [retires, again.1, Bool.not_true, Bool.false_and]
    rcases parts.again provider with ⟨torn, parted, twice⟩
    have outlook : (shutdown.outlook world).2 = { world with endpoint := torn, provider } := by
      simp only [outlook, sent, again, stays]
      exact parted
    rw [outlook]
    refine ⟨by simp [stays], ?_, calls, instances, rfl⟩
    rw [again]
    exact twice

end Shutdown

/-! ## First the disconnection, then the command -/

/-- Whether the node is disconnected since a moment, if it had its endpoint then. -/
def World.HasParted (before after : World) : Prop :=
  before.node.attached = true → after.endpoint.channelPresent = false ∧
    before.endpoint.teardownCalls < after.endpoint.teardownCalls

namespace World.HasParted

variable {before middle after : World}

theorem deed (parted : before.HasParted middle) (deed : Deed) :
    before.HasParted (deed.apply middle) := by
  intro attached
  rcases parted attached with ⟨channel, more⟩
  cases deed with
  | tearDown cause =>
      simp only [Deed.apply, World.frame_startTeardown]
      exact ⟨rfl, Nat.lt_succ_of_lt more⟩
  | askToExit =>
      simp only [Deed.apply, World.frame_askToExit]
      exact ⟨channel, more⟩
  | _ =>
      simp only [Deed.apply, World.frame_note, World.frame_ask, World.frame_withNode,
        World.frame_replace, World.frame_recordActivity, World.frame_retire]
      exact ⟨channel, more⟩

/-- No deed brings the channel back. -/
theorem through {permits : Deed → Prop} (parted : before.HasParted middle)
    (through : middle.Through permits after) : before.HasParted after := by
  induction through with
  | refl => exact parted
  | tail _ step parted =>
      rcases step with ⟨deed, _, rfl⟩
      exact parted.deed deed

theorem tear (cause : Option OfflineCause) (world : World) :
    world.HasParted (DisconnectPoint.tear cause world).world := by
  intro attached
  have endpoint : (DisconnectPoint.tear cause world).world.endpoint =
      (world.endpoint.teardown cause).2 := (world.frame_startTeardown cause).2.1
  rw [endpoint]
  exact ⟨rfl, Nat.lt_succ_self _⟩

end World.HasParted

/-- Whether nothing has been asked of the provider since a moment, and nothing was torn down. -/
structure World.Spares (before after : World) : Prop where
  provider : after.provider = before.provider
  attached : after.node.attached = before.node.attached
  teardowns : after.endpoint.teardownCalls = before.endpoint.teardownCalls

theorem World.HasParted.of_spares {before middle after : World} (spares : before.Spares middle)
    (parted : middle.HasParted after) : before.HasParted after := by
  intro attached
  rcases parted (spares.attached.trans attached) with ⟨channel, more⟩
  exact ⟨channel, spares.teardowns ▸ more⟩

/-- Whether a procedure either has the disconnection ahead of it and has asked nothing of the
provider, or has disconnected the node. -/
inductive Stage.InOrder {π ρ : Type} (isAhead : π → Bool) (before : World) : Stage π ρ → Prop
  | ahead {point : π} {world : World} (ahead : isAhead point = true)
      (spares : before.Spares world) : InOrder isAhead before (.pause point world)
  | parted {stage : Stage π ρ} (parted : before.HasParted stage.world) :
      InOrder isAhead before stage

theorem Stage.InOrder.andThen {π π' ρ ρ' : Type} {inner : π → Bool} {outer : π' → Bool}
    {before : World} {stage : Stage π ρ} {wrap : π → π'} {next : ρ → World → Stage π' ρ'}
    (part : stage.InOrder inner before)
    (ahead : ∀ point, inner point = true → outer (wrap point) = true)
    (keeps : ∀ result world, before.HasParted world →
      before.HasParted (next result world).world) :
    (stage.andThen wrap next).InOrder outer before := by
  cases part with
  | @ahead point world ahead_part spares => exact .ahead (ahead point ahead_part) spares
  | parted parted =>
      cases stage with
      | pause point world => exact .parted parted
      | done result world => exact .parted (keeps result world parted)

namespace DisconnectPoint

variable {before world : World}

/-- Whether a disconnection has yet to tear the channel down. -/
def isAhead : DisconnectPoint → Bool
  | tearing _ => false
  | _ => true

end DisconnectPoint

/-- Whether a stop has the disconnection ahead of it. -/
def StopPoint.isAhead : StopPoint → Bool
  | entering => true
  | disconnecting point => point.isAhead
  | _ => false

/-- Whether a termination has the disconnection ahead of it. -/
def TerminatePoint.isAhead : TerminatePoint → Bool
  | entering => true
  | disconnecting point => point.isAhead
  | _ => false

/-- Whether a task is about to shut the instance down and has the disconnection ahead of it. -/
def Point.isAhead : Point → Bool
  | stopping _ point => point.isAhead
  | terminating _ point => point.isAhead
  | consulting (.idleAction _) => true
  | _ => false

namespace DisconnectPoint

variable {before world : World}

theorem inOrder_enter (cause : Option OfflineCause) (spares : before.Spares world) :
    (enter cause world).InOrder isAhead before := by
  simp only [enter]
  split
  · split
    · exact .ahead rfl spares
    · exact .parted (.of_spares spares (.tear cause world))
  · rename_i detached
    refine .parted fun attached => ?_
    exact absurd (spares.attached.trans attached) detached

theorem inOrder_resume {point : DisconnectPoint} (ahead : point.isAhead = true)
    (spares : before.Spares world) : (point.resume world).InOrder isAhead before := by
  cases point with
  | entering cause => exact inOrder_enter cause spares
  | requesting cause =>
      -- To ask the agent to exit is neither a teardown nor a call of the provider.
      have outline := world.outline_requestShutdown 0
      have node : world.requestShutdown.node = world.node := (congrArg World.node outline :)
      have endpoint := congrArg Endpoint.teardownCalls world.endpoint_requestShutdown
      refine .parted (.of_spares ?_ (.tear cause world.requestShutdown))
      exact ⟨world.provider_requestShutdown.trans spares.provider,
        (congrArg Node.attached node).trans spares.attached, endpoint.trans spares.teardowns⟩
  | tearing transfer => cases ahead

end DisconnectPoint

theorem StopPoint.inOrder_resume {before world : World} {point : StopPoint}
    (ahead : point.isAhead = true) (spares : before.Spares world) :
    (point.resume world).InOrder isAhead before := by
  cases point with
  | entering =>
      exact (DisconnectPoint.inOrder_enter none spares).andThen (fun _ ahead => ahead)
        fun _ _ parted => parted
  | disconnecting inner =>
      exact (DisconnectPoint.inOrder_resume ahead spares).andThen (fun _ ahead => ahead)
        fun _ _ parted => parted
  | _ => cases ahead

theorem TerminatePoint.inOrder_resume {before world : World} {point : TerminatePoint}
    (ahead : point.isAhead = true) (spares : before.Spares world) :
    (point.resume world).InOrder isAhead before := by
  cases point with
  | entering =>
      exact (DisconnectPoint.inOrder_enter none spares).andThen (fun _ ahead => ahead)
        fun _ _ parted => parted
  | disconnecting inner =>
      exact (DisconnectPoint.inOrder_resume ahead spares).andThen (fun _ ahead => ahead)
        fun _ _ parted => parted
  | _ => cases ahead

namespace Point

variable {before world : World} {point : Point}

theorem inOrder_resume (ahead : point.isAhead = true) (spares : before.Spares world) :
    (point.resume world).InOrder isAhead before := by
  cases point with
  | stopping caller inner =>
      refine (StopPoint.inOrder_resume ahead spares).andThen (fun _ ahead => ahead) ?_
      intro accepted middle parted
      have goes : middle.Through (fun _ => True) (afterStop caller accepted middle).world :=
        through_afterStop (fun _ => trivial) trivial caller accepted middle
      exact parted.through goes
  | terminating caller inner =>
      refine (TerminatePoint.inOrder_resume ahead spares).andThen (fun _ ahead => ahead) ?_
      intro accepted middle parted
      have goes : middle.Through (fun _ => True)
          (afterTermination caller accepted middle).world :=
        through_afterTermination (fun _ => trivial) trivial trivial caller accepted middle
      exact parted.through goes
  | consulting consultation =>
      cases consultation with
      | idleAction caller =>
          simp only [resume, consult]
          split <;> exact .ahead rfl ⟨spares.provider, spares.attached, spares.teardowns⟩
      | _ => cases ahead
  | _ => cases ahead

/-- A shutdown that is left alone does not become a reboot. -/
theorem isMonitor_of_resume {started : Nat} {free : Lock → Bool} {next : Point} {after : World}
    (own : (forecast started free).own point) (ordinary : point.isMonitor = false)
    (paused : point.resume world = .pause next after) : next.isMonitor = false := by
  cases point with
  | stopping caller inner =>
      rcases Stage.andThen_eq_pause paused with ⟨later, _, rfl⟩ | ⟨accepted, middle, _, ended⟩
      · rfl
      · cases caller with
        | watchdog watch => cases own.2.1
        | _ => cases ended
  | terminating caller inner =>
      rcases Stage.andThen_eq_pause paused with ⟨later, _, rfl⟩ | ⟨accepted, middle, _, ended⟩
      · rfl
      · cases caller with
        | watchdog watch => cases own.2.1
        | _ => cases ended
  | consulting consultation =>
      cases consultation with
      | idleAction caller =>
          simp only [resume, consult] at paused
          split at paused <;> cases paused <;> rfl
      | _ => cases own
  | rebooting afterBuild inner => cases ordinary
  | _ => cases own

end Point

theorem Stage.InOrder.within {before : World} {started : Nat} {stage : Stage Point Answer}
    {change : World → World} (inOrder : stage.InOrder Point.isAhead before)
    (outline : (change stage.world).outline started = stage.world.outline started) :
    (stage.within change).InOrder Point.isAhead before := by
  have provider : (change stage.world).provider = stage.world.provider :=
    (congrArg World.provider outline :)
  have endpoint : (change stage.world).endpoint = stage.world.endpoint :=
    (congrArg World.endpoint outline :)
  have node : (change stage.world).node = stage.world.node := (congrArg World.node outline :)
  cases inOrder with
  | ahead ahead spares =>
      exact .ahead ahead ⟨provider.trans spares.provider,
        (congrArg Node.attached node).trans spares.attached,
        (congrArg Endpoint.teardownCalls endpoint).trans spares.teardowns⟩
  | parted parted =>
      refine .parted fun attached => ?_
      have same : (stage.within change).world.endpoint = stage.world.endpoint := by
        cases stage <;> exact endpoint
      rw [same]
      exact parted attached

theorem Stage.point?_within (stage : Stage Point Answer) (change : World → World) :
    (stage.within change).point? = stage.point? := by
  cases stage <;> rfl

/-- **A shutdown that is left alone first disconnects, then it asks the provider.** -/
theorem Point.Walks.inOrder {before : World} {free : Lock → Bool} {point : Point}
    {stage : Stage Point Answer} (own : (forecast before.transfers.length free).own point)
    (ordinary : point.isMonitor = false) (ahead : point.isAhead = true)
    (walks : point.Walks before stage) :
    stage.InOrder isAhead before ∧
      ∀ next, stage.point? = some next → next.isMonitor = false := by
  induction walks with
  | begun =>
      refine ⟨.ahead ahead ⟨rfl, rfl, rfl⟩, fun next same => ?_⟩
      cases same
      exact ordinary
  | @passed stage earlier duration hypothesis =>
      rw [Stage.point?_within]
      have untold : World.outline 0 { stage.world with clock := stage.world.clock + duration } =
          stage.world.outline 0 := rfl
      exact ⟨hypothesis.1.within untold, hypothesis.2⟩
  | @broughtOn stage earlier transfer later hypothesis =>
      rw [Stage.point?_within]
      have goesOn := (earlier.goesWell own).goesOn
      have untold := stage.world.outline_bringOn before.transfers.length later
        (goesOn.added transfer · later)
      exact ⟨hypothesis.1.within untold, hypothesis.2⟩
  | @resumed next middle earlier known hypothesis =>
      rcases hypothesis with ⟨inOrder, stays⟩
      have still := stays next rfl
      refine ⟨?_, ?_⟩
      · cases inOrder with
        | ahead ahead spares => exact inOrder_resume ahead spares
        | parted parted => exact .parted (parted.through (through still middle))
      · intro further same
        rcases led : next.resume middle with ⟨point, after⟩ | ⟨answer, after⟩
        · rw [led] at same
          cases same
          exact isMonitor_of_resume (earlier.goesWell own).foreseen.1 still led
        · rw [led] at same
          cases same

/-! ## Requests to shut the instance down -/

namespace Shutdown

variable {shutdown : Shutdown} {request : Request} {definition : Definition}

/-- A request to shut the instance down needs the cache lock, and after an idle timeout the
definition lock. -/
theorem own_entry (plan : request.shutdown? definition = some shutdown) {started : Nat}
    {free : Lock → Bool} (cacheFree : free .cache = true)
    (definitionFree : request = .idleTimeout → free .definition = true) :
    (Point.forecast started free).own request.entry := by
  cases request with
  | stop => exact ⟨trivial, rfl, cacheFree⟩
  | terminateInstance => exact ⟨trivial, rfl, cacheFree⟩
  | terminate => exact ⟨trivial, rfl, cacheFree⟩
  | idleTimeout => exact ⟨rfl, definitionFree rfl, cacheFree⟩
  | _ => cases plan

theorem isAhead_entry (plan : request.shutdown? definition = some shutdown) :
    request.entry.isAhead = true ∧ request.entry.isMonitor = false := by
  cases request <;> first | exact ⟨rfl, rfl⟩ | cases plan

end Shutdown

namespace Outset

/-- **A shutdown reports what the provider accepted.** Take any execution that can be reached, and
let somebody stop the instance, terminate it, terminate it on behalf of the node, or handle an idle
timeout, in which case the definition says which of the two it is. If the locks that this needs are
free and nothing interrupts it:

* However far it has come, it can be carried to its end.
* On the way, nothing has been asked of the provider until the node is disconnected.
* When it has ended, nothing else that was under way has moved, the answer is whether the provider
  accepted the one command, which is sent if the node is bound to an instance, and the world is as a
  shutdown leaves it. -/
theorem shutdown_reports_acceptance (outset : Outset) (moves : List Move) {number : Nat}
    {request : Request} {shutdown : Shutdown} {steps : List Move}
    (plan : request.shutdown? (outset.execution.run moves).world.node.definition = some shutdown)
    (fresh : (outset.execution.run moves).nextNumber ≤ number)
    (held : (outset.execution.run moves).world.node.held = true)
    (cacheFree : (outset.execution.run moves).isFree .cache = true)
    (definitionFree : request = .idleTimeout →
      (outset.execution.run moves).isFree .definition = true)
    (alone : ∀ move ∈ steps,
      move.isOf number (outset.execution.run moves).world.transfers.length = true) :
    let before := outset.execution.run moves
    let call := outset.execution.run (moves ++ .start number request :: steps)
    (∃ rest, (∀ move ∈ rest, move.isOf number before.world.transfers.length = true) ∧
      (call.run rest).task? number = none) ∧
    (call.world.provider = before.world.provider ∨ before.world.HasParted call.world) ∧
    (call.task? number = none → ∃ now,
      before.Answered number request
        (shutdown.answer (before.world.accepted? shutdown.operation).isSome) now call ∧
      before.world.ShutDown shutdown call.world) := by
  intro before call
  have own : (Point.forecast before.world.transfers.length before.isFree).own request.entry :=
    Shutdown.own_entry plan cacheFree definitionFree
  rcases outset.left_alone moves fresh held own alone with ⟨ends, foreseen⟩
  refine ⟨ends, ?_, fun ended => ?_⟩
  · have whole : call = before.run (.start number request :: steps) :=
      outset.execution.run_append moves _
    have orderly : before.Orderly := (outset.sound_run moves).orderly
    rcases before.run_left_alone request orderly fresh held alone with ⟨stage, walks, led⟩
    rcases Shutdown.isAhead_entry plan with ⟨ahead, ordinary⟩
    rw [whole, led.world]
    cases (walks.inOrder own ordinary ahead).1 with
    | ahead _ spares => exact .inl spares.provider
    | parted parted => exact .inr parted
  · rcases foreseen ended with ⟨answer, now, answered, outlook⟩
    let shown := before.world.outline before.world.transfers.length
    have planned : request.shutdown? shown.node.definition = some shutdown := plan
    have left := outlook.trans (Shutdown.outlook_entry planned _ now before.isFree)
    rcases Prod.mk.inj left with ⟨rfl, outline⟩
    have coupled : shown.node.attached = !shown.node.retired := outset.coupled_run moves
    have reached : shown.ShutDown shutdown
        (call.world.outline before.world.transfers.length) :=
      outline ▸ shutdown.shutDown_outlook coupled
    exact ⟨now, answered, .of_outline reached⟩

/-- A node on an instance that is stopped when it goes idle, and whose agent lives on by itself. -/
def stoppedWhenIdle (instanceId : InstanceId) : Outset :=
  { onInstance instanceId with
    definition := { Definition.onDemand "node" instanceId with
      stopOnTerminate := true
      longLivedAgent := true } }

/-- An idle timeout of such a node stops the instance, after one request to exit and with one
teardown on each side of the command, although the first of them fails. -/
theorem shutdown_reports_acceptance_idle : ∃ after : Execution,
    (stoppedWhenIdle someInstance).execution.run
        ([.happen (.failTeardown .crashed)] ++ .start 0 .idleTimeout ::
          List.replicate 7 (.resume 0)) = after ∧
      after.reports.map Report.answer = [.idle (.stopped true)] ∧
      after.world.endpoint.shutdownCalls = 1 ∧ after.world.endpoint.teardownCalls = 2 ∧
      after.world.provider.calls = [⟨.stop, [someInstance], []⟩] ∧
      after.world.provider.instances.map Snapshot.state = [.stopped] ∧
      after.world.node.retired = false := by
  have plan : Request.idleTimeout.shutdown?
      ((stoppedWhenIdle someInstance).execution.run
        [.happen (.failTeardown .crashed)]).world.node.definition =
      some ⟨true, .idleTimeout⟩ := rfl
  have alone : ∀ move ∈ List.replicate 7 (Move.resume 0), move.isOf 0 0 = true := by decide
  rcases ((stoppedWhenIdle someInstance).shutdown_reports_acceptance
    [.happen (.failTeardown .crashed)] plan (Nat.le_refl 0) rfl rfl (fun _ => rfl) alone).2.2 rfl
    with ⟨now, answered, left⟩
  exact ⟨_, rfl, congrArg (List.map Report.answer) answered.reports,
    left.endpoint.shutdowns rfl, left.endpoint.teardowns rfl, left.calls,
    congrArg (List.map Snapshot.state) left.instances, congrArg Node.retired left.node⟩

end Outset

end BuildAgent
