import BuildAgent.Proofs.Monitor.Outcomes
import BuildAgent.Proofs.Task.Calls
import BuildAgent.Proofs.World.Frames

/-!
# The outline of a world

A call that is left alone comes to the same whatever the time is, however long its teardowns take
and whatever the journal says. `World.outline` leaves these out, together with the transfers that
were started since a given moment, and keeps the node, the endpoint, the provider, the agenda and
the transfers of before. Each change that a call makes has an outline of its own, a change of the
outline of the world: these are the equations below.
-/

namespace BuildAgent

namespace Provider

/-- Whether the provider would accept a command. -/
def accepts (provider : Provider) (operation : Operation) (instanceId : InstanceId) : Bool :=
  (provider.command operation instanceId).answer.isOk

variable (provider : Provider) (operation : Operation) (instanceId : InstanceId)

/-- A command is accepted if no failure waits for it and the instance is known. -/
theorem accepts_eq : provider.accepts operation instanceId =
    ((provider.waitingFailure? operation).isNone && (provider.find? instanceId).isSome) := by
  have known : (provider.record ⟨operation, [instanceId], []⟩).find? instanceId =
      provider.find? instanceId := rfl
  simp only [accepts, command, perform]
  cases provider.waitingFailure? operation with
  | some failure => rfl
  | none =>
      simp only [known]
      cases provider.find? instanceId <;> rfl

/-- Nothing changes in the table of the provider but the state that a command is about, and that
only if the command is accepted. -/
theorem instances_command {state : InstanceState} (brings : stateAfter operation = some state) :
    (provider.command operation instanceId).provider.instances =
      if provider.accepts operation instanceId then (provider.setState instanceId state).instances
      else provider.instances := by
  have known : (provider.record ⟨operation, [instanceId], []⟩).find? instanceId =
      provider.find? instanceId := rfl
  rw [accepts_eq]
  simp only [command, perform]
  cases provider.waitingFailure? operation with
  | some failure => rfl
  | none =>
      simp only [known]
      cases provider.find? instanceId with
      | none => rfl
      | some snapshot =>
          rw [brings]
          rfl

@[simp]
theorem instances_describe (instanceIds : List InstanceId) :
    (provider.describe instanceIds).provider.instances = provider.instances := by
  simp only [describe, perform]
  split <;> rfl

end Provider

namespace World

/-- The world without its clock, its journal and its latencies, and with the transfers up to a
number alone. -/
def outline (started : Nat) (world : World) : World :=
  { world with
    clock := 0
    journal := []
    latencies := {}
    transfers := world.transfers.take started }

/-! ## The outlines of changes -/

/-- The agent was asked to exit. -/
def exitAsked (world : World) : World :=
  { world with endpoint := world.endpoint.requestShutdown.2 }

/-- The channel was torn down. -/
def channelTorn (cause : Option OfflineCause) (world : World) : World :=
  { world with endpoint := (world.endpoint.teardown cause).2 }

/-- The node was taken offline, if it has its endpoint. -/
def markedOffline (cause : OfflineCause) (world : World) : World :=
  if world.node.attached then world.mark true (some cause) else world

/-- The channel was torn down, if the node has its endpoint. -/
def parted (cause : Option OfflineCause) (world : World) : World :=
  if world.node.attached then world.channelTorn cause else world

/-- The node was disconnected, if it has its endpoint. -/
def disconnected (cause : Option OfflineCause) (world : World) : World :=
  if world.node.attached then
    (if world.node.longLived && world.endpoint.channelPresent then world.exitAsked
      else world).channelTorn cause
  else world

/-- A call of the provider was made. -/
def called {α : Type} (call : Provider → Provider.Reply α) (world : World) : World :=
  { world with provider := (call world.provider).provider }

def described (instanceId : InstanceId) (world : World) : World :=
  world.called fun provider => provider.describe [instanceId]

def commanded (operation : Provider.Operation) (instanceId : InstanceId) (world : World) : World :=
  world.called fun provider => provider.command operation instanceId

/-- The instance that the node is bound to, if the provider would accept a command to it. -/
def accepted? (operation : Provider.Operation) (world : World) : Option InstanceId :=
  world.node.capacity.bound?.filter fun instanceId => world.provider.accepts operation instanceId

/-- The calls that come of a command. A command that fails is looked into, if it is diagnosed. -/
def commandCalls (operation : Provider.Operation) (diagnosed : Bool) (world : World) :
    List Provider.Call :=
  match world.node.capacity.bound? with
  | some instanceId =>
    ⟨operation, [instanceId], []⟩ ::
      if diagnosed && !world.provider.accepts operation instanceId then
        [⟨.describe, [instanceId], []⟩]
      else []
  | none => []

/-- A command was sent, if the node is bound to an instance, and looked into if it failed. -/
def sent (operation : Provider.Operation) (diagnosed : Bool) (world : World) : World :=
  match world.node.capacity.bound? with
  | some instanceId =>
    if diagnosed && !world.provider.accepts operation instanceId then
      (world.commanded operation instanceId).described instanceId
    else world.commanded operation instanceId
  | none => world

/-- The next look of a session was scheduled at a time. -/
def bookedAt (now session delay : Nat) (world : World) : World :=
  { world with agenda := world.agenda.schedule now delay session }

/-- The node was taken out of management. -/
def leftManagement (world : World) : World :=
  if world.node.retired then world
  else world.withNode fun node => { node with retired := true, attached := false }

variable (started : Nat) (world : World)

@[simp]
theorem node_outline : (world.outline started).node = world.node := rfl

@[simp]
theorem endpoint_outline : (world.outline started).endpoint = world.endpoint := rfl

@[simp]
theorem provider_outline : (world.outline started).provider = world.provider := rfl

@[simp]
theorem outline_note (event : Journal.Event) :
    (world.note event).outline started = world.outline started := rfl

theorem outline_of_ask {α : Type} {call : Provider → Provider.Reply α}
    {answer : Except Provider.Failure α} {after : World}
    (asked : world.ask call = (answer, after)) :
    answer = (call world.provider).answer ∧
      after.outline started = (world.outline started).called call := by
  have outline : (world.ask call).2.outline started = (world.outline started).called call := by
    simp only [ask]
    split <;> rfl
  have answered : (world.ask call).1 = (call world.provider).answer := rfl
  rw [asked] at outline answered
  exact ⟨answered, outline⟩

theorem outline_of_command {operation : Provider.Operation} {instanceId : InstanceId}
    {answer : Except Provider.Failure Unit} {after : World}
    (asked : world.ask (fun provider => provider.command operation instanceId) =
      (answer, after)) :
    world.provider.accepts operation instanceId = answer.isOk ∧
      after.outline started = (world.outline started).commanded operation instanceId ∧
      after.transfers = world.transfers := by
  rcases world.outline_of_ask started asked with ⟨answered, outline⟩
  have frame := world.frame_ask fun provider => provider.command operation instanceId
  rw [asked] at frame
  exact ⟨congrArg Except.isOk answered.symm, outline, frame.2.2.1⟩

@[simp]
theorem outline_noteTeardown (outcome : Link.Outcome) :
    (world.noteTeardown outcome).outline started = world.outline started := by
  simp only [noteTeardown]
  split
  · rfl
  · split <;> rfl

@[simp]
theorem outline_requestShutdown :
    world.requestShutdown.outline started = (world.outline started).exitAsked := by
  simp only [requestShutdown, askToExit, noteShutdown]
  repeat' split
  all_goals rfl

@[simp]
theorem transfers_requestShutdown : world.requestShutdown.transfers = world.transfers := by
  simp only [requestShutdown, askToExit, noteShutdown]
  repeat' split
  all_goals rfl

@[simp]
theorem outline_takeOffline (cause : OfflineCause) :
    (world.takeOffline cause).outline started =
      (world.outline started).markedOffline cause := by
  by_cases attached : world.node.attached = true
  · have shown : (world.outline started).node.attached = true := attached
    rw [takeOffline, if_pos attached, markedOffline, if_pos shown]
    rfl
  · have shown : ¬(world.outline started).node.attached = true := attached
    rw [takeOffline, if_neg attached, markedOffline, if_neg shown]

/-- A teardown takes effect at once, and it starts a transfer that was not there before. -/
theorem outline_startTeardown (cause : Option OfflineCause)
    (reached : started ≤ world.transfers.length) :
    (world.startTeardown cause).2.outline started =
      (world.outline started).channelTorn cause := by
  have kept : ∀ transfer, (world.transfers ++ [transfer]).take started =
      world.transfers.take started := fun _ => List.take_append_of_le_length reached
  simp only [startTeardown]
  split <;> simp only [addTransfer, outline, kept] <;> rfl

@[simp]
theorem outline_openSession :
    world.openSession.outline started = (world.outline started).openSession := by
  simp only [openSession, abortAttempt, node_outline]
  split
  · simp only [withSession, withNode, abort, outline, List.take_modify]
  · rfl

@[simp]
theorem outline_retire :
    world.retire.outline started = (world.outline started).leftManagement := by
  rcases retired : world.node.retired with _ | _
  · rcases attached : world.node.attached with _ | _ <;>
      simp [retire, leftManagement, retired, detach, attached, withNode, note, outline]
  · simp [retire, leftManagement, retired]

/-- What belongs to later transfers leaves the outline alone. -/
theorem outline_bringOn {number : Nat} (later : started ≤ number)
    (resting : ∀ transfer, world.transfers[number]? = some transfer →
      transfer.isConnecting = false) :
    (world.bringOn number).outline started = world.outline started := by
  have kept : ∀ transfer, (world.transfers.set number transfer).take started =
      world.transfers.take started := by
    intro transfer
    exact List.take_set_of_le later
  simp only [bringOn]
  split
  · rename_i found
    cases resting _ found
  · split
    · simp only [setTransfer, outline, kept]
    · rfl
  · rfl

/-! ## What the changes leave -/

/-- A disconnection is about the endpoint alone. -/
theorem disconnected_eq (cause : Option OfflineCause) :
    ∃ endpoint, world.disconnected cause = { world with endpoint } ∧
      (world.node.attached = false → endpoint = world.endpoint) ∧
      (world.node.attached = true → endpoint =
        { world.endpoint with
          channelPresent := false
          cause := cause.or world.endpoint.cause
          shutdownFault := endpoint.shutdownFault
          teardownFault := none
          teardownCalls := world.endpoint.teardownCalls + 1
          shutdownCalls := world.endpoint.shutdownCalls +
            if world.node.longLived && world.endpoint.channelPresent then 1 else 0 }) := by
  rcases attached : world.node.attached with _ | _
  · exact ⟨world.endpoint, by simp [disconnected, attached], fun _ => rfl, nofun⟩
  · rcases asks : world.node.longLived && world.endpoint.channelPresent with _ | _
    · exact ⟨_, by simp only [disconnected, attached, asks]; rfl, nofun, fun _ => rfl⟩
    · exact ⟨_, by simp only [disconnected, attached, asks]; rfl, nofun, fun _ => rfl⟩

theorem accepted?_of_bound {world : World} {operation : Provider.Operation}
    {instanceId : InstanceId} (bound : world.node.capacity.bound? = some instanceId) :
    world.accepted? operation =
      if world.provider.accepts operation instanceId then some instanceId else none := by
  rw [accepted?, bound, Option.filter_some]

/-- A command is about the provider alone. -/
theorem sent_eq (operation : Provider.Operation) (diagnosed : Bool) :
    ∃ provider, world.sent operation diagnosed = { world with provider } ∧
      provider.calls = Provider.keepCalls (world.commandCalls operation diagnosed)
        world.provider.calls := by
  rcases bound : world.node.capacity.bound? with _ | instanceId
  · refine ⟨world.provider, ?_, ?_⟩
    · simp only [sent, bound]
    · simp only [commandCalls, bound]
      rfl
  · have commanded := world.provider.calls_command operation instanceId
    simp only [sent, commandCalls, bound]
    split
    · exact ⟨_, rfl, (Provider.calls_describe _ [instanceId]).trans (congrArg _ commanded)⟩
    · exact ⟨_, rfl, commanded⟩

/-- A command to stop or to terminate changes the state of the instance that it is about, and that
only if it is accepted. -/
theorem instances_sent {operation : Provider.Operation} {state : InstanceState} (diagnosed : Bool)
    (brings : Provider.stateAfter operation = some state) :
    (world.sent operation diagnosed).provider.instances =
      match world.accepted? operation with
      | some instanceId => (world.provider.setState instanceId state).instances
      | none => world.provider.instances := by
  rcases bound : world.node.capacity.bound? with _ | instanceId
  · simp only [sent, accepted?, bound]
    rfl
  · have described := (world.commanded operation instanceId).provider.instances_describe
      [instanceId]
    have commanded : (world.sent operation diagnosed).provider.instances =
        (world.provider.command operation instanceId).provider.instances := by
      simp only [sent, bound]
      split
      · exact described
      · rfl
    rw [commanded, world.provider.instances_command operation instanceId brings,
      accepted?_of_bound bound]
    split <;> rfl

end World

end BuildAgent
