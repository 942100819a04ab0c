import BuildAgent.Proofs.Execution.Alone
import BuildAgent.Proofs.Provider.Tags
import BuildAgent.Proofs.Reboot.Attempts

/-!
# The course of an undisturbed reboot

Of all that a world holds, a reboot that nothing disturbs changes little: the record of its session,
the backlog of looks, and what the endpoint knows of its channel. That is its `Course`. The rest it
only relies on (`World.Undisturbed`): the node stays managed, the provider answers and shows an
instance that is alive, and connections reach the endpoint at once.

`World.OnCourse` says both. For each change that a reboot or a look makes, a lemma here says to
which course it leads, so their procedures can be followed without opening any of the changes.
-/

namespace BuildAgent

/-! ## The provider -/

namespace Provider

/-- Whether a provider shows an instance that is alive and lets no description fail. -/
structure Serves (provider : Provider) (instanceId : InstanceId) : Prop where
  alive : ∃ snapshot, provider.find? instanceId = some snapshot ∧ snapshot.isAlive = true
  answering : provider.waitingFailure? .describe = none

variable {provider : Provider} {instanceId : InstanceId}

theorem Serves.record (serves : provider.Serves instanceId) (call : Call) :
    (provider.record call).Serves instanceId := by
  refine ⟨serves.alive, ?_⟩
  have answering := serves.answering
  simp only [waitingFailure?, Option.map_eq_none_iff, List.find?_eq_none] at answering ⊢
  intro waiting waits
  exact answering waiting (List.mem_of_mem_eraseP waits)

/-- A description shows the instance. -/
theorem Serves.describe (serves : provider.Serves instanceId) :
    ∃ snapshot after, provider.describe [instanceId] = ⟨.ok [snapshot], after, none⟩ ∧
      snapshot.isAlive = true ∧ after.Serves instanceId := by
  rcases serves.record ⟨.describe, [instanceId], []⟩ with ⟨⟨snapshot, found, alive⟩, answering⟩
  refine ⟨snapshot, _, ?_, alive, serves.record ⟨.describe, [instanceId], []⟩⟩
  simp [Provider.describe, perform, serves.answering, found]

/-- The command to reboot leaves the status of the instance, and whatever fails, no description
does. -/
theorem Serves.command (serves : provider.Serves instanceId) :
    (provider.command .reboot instanceId).provider.Serves instanceId := by
  have recorded := serves.record ⟨.reboot, [instanceId], []⟩
  rcases recorded.alive with ⟨snapshot, found, alive⟩
  simp only [Provider.command, perform]
  split
  · exact recorded
  · simp only [found]
    exact ⟨⟨_, find?_update _ found, alive⟩, recorded.answering⟩

end Provider

/-! ## Courses -/

/-- The endpoint after an attempt that has ended. -/
def Endpoint.attempted (endpoint : Endpoint) : Endpoint :=
  { endpoint with
    channelPresent := endpoint.nextScript.cause?.isNone
    cause := endpoint.nextScript.cause?.or endpoint.cause
    scripts := endpoint.scripts.tail
    connectCalls := endpoint.connectCalls + 1 }

theorem Endpoint.connect_eq {endpoint : Endpoint} (ends : endpoint.nextScript ≠ .hang) :
    ∃ outcome, endpoint.connect = (some outcome, endpoint.attempted) := by
  simp only [connect, attempted]
  cases script : endpoint.nextScript with
  | hang => exact absurd script ends
  | _ => exact ⟨_, rfl⟩

theorem Transfer.NoneDue.append {transfers : List Transfer} (noneDue : NoneDue transfers)
    {transfer : Transfer} (idle : transfer.due? = none) : NoneDue (transfers ++ [transfer]) := by
  intro other among
  rcases List.mem_append.mp among with old | new
  · exact noneDue other old
  · rw [List.mem_singleton.mp new, idle]

theorem Transfer.NoneDue.abort {transfers : List Transfer} (noneDue : NoneDue transfers)
    (number : Nat) : NoneDue (transfers.modify number Transfer.abort) := by
  intro transfer among
  rcases List.mem_iff_getElem?.mp among with ⟨position, found⟩
  rw [List.getElem?_modify] at found
  rcases Option.map_eq_some_iff.mp found with ⟨old, stood, rfl⟩
  split
  · cases old <;> rfl
  · exact noneDue old (List.mem_of_getElem? stood)

/-- What a reboot and its looks are about. -/
structure Course where
  session : Reboot.Session
  backlog : Schedule.Backlog Nat
  channel : Bool
  cause : Option OfflineCause
  scripts : List ConnectScript
  attempts : Nat

/-- The course after the next attempt to connect. -/
def Course.attempted (course : Course) : Course :=
  let script := course.scripts.headD .succeed
  { course with
    channel := script.cause?.isNone
    cause := script.cause?.or course.cause
    scripts := course.scripts.tail
    attempts := course.attempts + 1 }

/-- The course once another look of a session is scheduled. -/
def Course.schedule (course : Course) (session delay : Nat) : Course :=
  { course with backlog := course.backlog.schedule delay session }

namespace World

/-- The world after a teardown whose end is known. -/
def torn (world : World) (cause : OfflineCause) (clock : Nat) (delays : List Nat)
    (outcome : Link.Outcome) : World :=
  { world with
    clock
    latencies := { world.latencies with teardown := delays }
    endpoint := (world.endpoint.teardown (some cause)).2
    transfers := world.transfers ++ [.finished outcome] }

theorem outcome?_torn (world : World) (cause : OfflineCause) (clock : Nat) (delays : List Nat)
    (outcome : Link.Outcome) :
    (world.torn cause clock delays outcome).outcome? world.transfers.length = some outcome := by
  simp [torn, World.outcome?, Transfer.outcome?]

/-- What a reboot relies on: a node that stays managed, on an instance that is present and alive,
no failure that waits for a description, and nothing that is under way on the link. -/
structure Undisturbed (world : World) : Prop where
  held : world.node.held = true
  managed : world.node.retired = false
  attached : world.node.attached = true
  serves : ∃ instanceId, world.node.capacity.bound? = some instanceId ∧
    world.provider.Serves instanceId
  prompt : world.latencies.connect = []
  noneDue : Transfer.NoneDue world.transfers

/-- Whether a world is undisturbed and stands at a point of a course. -/
structure OnCourse (world : World) (policy : Reboot.Policy) (course : Course) : Prop
    extends world.Undisturbed where
  policy : world.node.timings.reboot = policy
  session : world.node.session = course.session
  agenda : world.agenda = .manual course.backlog
  channel : world.endpoint.channelPresent = course.channel
  cause : world.endpoint.cause = course.cause
  scripts : world.endpoint.scripts = course.scripts
  attempts : world.endpoint.connectCalls = course.attempts

namespace OnCourse

variable {world : World} {policy : Reboot.Policy} {course : Course}
  (onCourse : world.OnCourse policy course)

include onCourse

theorem still : world.Still :=
  ⟨onCourse.noneDue, course.backlog, onCourse.agenda⟩

theorem note (event : Journal.Event) : (world.note event).OnCourse policy course :=
  { onCourse with }

theorem withSession (change : Reboot.Session → Reboot.Session) :
    (world.withSession change).OnCourse policy
      { course with session := change course.session } :=
  { onCourse with session := congrArg change onCourse.session }

theorem keep (force : Bool) (instanceId : InstanceId) (found : Option Snapshot) :
    (FetchPoint.keep force instanceId found world).OnCourse policy course :=
  { onCourse with }

theorem withAgenda (delay : Nat) (backlog : Schedule.Backlog Nat) :
    (world.withAgenda (some delay) (.manual backlog)).OnCourse policy { course with backlog } :=
  { onCourse with agenda := rfl }

theorem scheduleMonitor (session delay : Nat) :
    (world.scheduleMonitor session delay).OnCourse policy (course.schedule session delay) :=
  { onCourse with
    agenda := by
      simp [World.scheduleMonitor, World.note, onCourse.agenda, Schedule.Agenda.schedule,
        Course.schedule] }

theorem takeOffline (cause : OfflineCause) :
    (world.takeOffline cause).OnCourse policy { course with cause := some cause } := by
  simp only [World.takeOffline, onCourse.attached, if_true]
  exact { onCourse with cause := rfl }

theorem bringOnline : world.bringOnline.OnCourse policy { course with cause := none } := by
  simp only [World.bringOnline, onCourse.attached, if_true]
  exact { onCourse with cause := rfl }

theorem abortAttempt : world.abortAttempt.OnCourse policy course := by
  simp only [World.abortAttempt]
  split
  · exact { onCourse with noneDue := onCourse.noneDue.abort _ }
  · exact onCourse

theorem openSession : world.openSession.OnCourse policy
    { course with session := course.session.start } :=
  onCourse.abortAttempt.withSession .start

theorem closeSession : world.closeSession.OnCourse policy
    { course with session := course.session.close } :=
  onCourse.abortAttempt.withSession .close

theorem requestShutdown : world.requestShutdown.OnCourse policy course := by
  have asked : world.askToExit.2.OnCourse policy course := by
    simp only [World.askToExit]
    split <;> exact { onCourse with }
  simp only [World.requestShutdown, World.noteShutdown]
  split
  · exact asked.note _
  · split <;> exact asked.note _

theorem noteTeardown (outcome : Link.Outcome) :
    (world.noteTeardown outcome).OnCourse policy course := by
  simp only [World.noteTeardown]
  split
  · exact onCourse.note _
  · split <;> exact onCourse.note _

theorem torn (cause : OfflineCause) (clock : Nat) (delays : List Nat) (outcome : Link.Outcome) :
    (world.torn cause clock delays outcome).OnCourse policy
      { course with channel := false, cause := some cause } :=
  { onCourse with
    noneDue := onCourse.noneDue.append rfl
    channel := rfl
    cause := rfl }

/-- A description shows the instance, which is alive. -/
theorem describe {instanceId : InstanceId}
    (bound : world.node.capacity.bound? = some instanceId) :
    ∃ snapshot after, world.ask (fun provider => provider.describe [instanceId]) =
        (.ok [snapshot], after) ∧
      snapshot.isAlive = true ∧ after.OnCourse policy course := by
  rcases onCourse.serves with ⟨_, same, serves⟩
  cases bound.symm.trans same
  rcases serves.describe with ⟨snapshot, after, described, alive, served⟩
  refine ⟨snapshot, { world with provider := after }, ?_, alive, ?_⟩
  · simp [World.ask, described]
  · exact { onCourse with serves := ⟨instanceId, bound, served⟩ }

theorem command {instanceId : InstanceId}
    (bound : world.node.capacity.bound? = some instanceId) :
    (world.ask fun provider => provider.command .reboot instanceId).2.OnCourse policy course := by
  rcases onCourse.serves with ⟨_, same, serves⟩
  cases bound.symm.trans same
  simp only [World.ask]
  split <;> exact { onCourse with serves := ⟨instanceId, bound, serves.command⟩ }

/-- An attempt that does not hang reaches the endpoint and ends at once. -/
theorem attempt (ends : course.scripts.headD .succeed ≠ .hang) :
    ∃ attempt outcome after, world.connect? false = some (attempt, after) ∧
      after.outcome? attempt = some outcome ∧ after.OnCourse policy course.attempted := by
  have script : world.endpoint.nextScript = course.scripts.headD .succeed := by
    simp [Endpoint.nextScript, onCourse.scripts]
  rcases Endpoint.connect_eq (script ▸ ends) with ⟨outcome, connected⟩
  let begun := (world.note (.startingConnection false)).note
    (.connecting false world.endpoint.nextScript)
  refine ⟨world.transfers.length, outcome, { begun with
    endpoint := world.endpoint.attempted
    transfers := world.transfers ++ [.finished outcome] }, ?_, ?_, ?_⟩
  · simp [begun, World.connect?, onCourse.attached, World.startConnection, World.note,
      onCourse.prompt, World.reachEndpoint, connected, World.addTransfer]
  · simp [World.outcome?, Transfer.outcome?]
  · exact { onCourse with
      noneDue := onCourse.noneDue.append rfl
      channel := by simp [Endpoint.attempted, Course.attempted, script]
      cause := by simp [Endpoint.attempted, Course.attempted, script, onCourse.cause]
      scripts := congrArg List.tail onCourse.scripts
      attempts := congrArg (· + 1) onCourse.attempts }

end OnCourse

end World

end BuildAgent
