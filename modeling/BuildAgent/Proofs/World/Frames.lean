import BuildAgent.Node.Rebooting
import BuildAgent.Node.Tagging
import BuildAgent.Proofs.World.Transfers

/-!
# What a change of the world leaves alone

For each change of the world a lemma that tells what becomes of the node, the endpoint, the
transfers, the agenda and the clock. All of them are rewriting rules, so `simp` reads a part of the
world off a sequence of changes without opening any of them.
-/

namespace BuildAgent

@[simp]
theorem Node.frame_bind (node : Node) (instanceId : InstanceId) :
    (node.bind instanceId).session = node.session ∧
      (node.bind instanceId).retired = node.retired ∧
      (node.bind instanceId).attached = node.attached ∧
      (node.bind instanceId).held = node.held := by
  simp only [Node.bind]
  split <;> exact ⟨rfl, rfl, rfl, rfl⟩

namespace World

variable (world : World)

/-! ## Elementary changes -/

@[simp]
theorem frame_note (event : Journal.Event) :
    (world.note event).node = world.node ∧ (world.note event).endpoint = world.endpoint ∧
      (world.note event).transfers = world.transfers ∧ (world.note event).agenda = world.agenda ∧
      (world.note event).clock = world.clock :=
  ⟨rfl, rfl, rfl, rfl, rfl⟩

@[simp]
theorem frame_withNode (change : Node → Node) :
    (world.withNode change).node = change world.node ∧
      (world.withNode change).endpoint = world.endpoint ∧
      (world.withNode change).transfers = world.transfers ∧
      (world.withNode change).agenda = world.agenda ∧ (world.withNode change).clock = world.clock :=
  ⟨rfl, rfl, rfl, rfl, rfl⟩

@[simp]
theorem frame_withSession (change : Reboot.Session → Reboot.Session) :
    (world.withSession change).node = { world.node with session := change world.node.session } ∧
      (world.withSession change).endpoint = world.endpoint ∧
      (world.withSession change).transfers = world.transfers ∧
      (world.withSession change).agenda = world.agenda ∧
      (world.withSession change).clock = world.clock :=
  ⟨rfl, rfl, rfl, rfl, rfl⟩

@[simp]
theorem frame_recordActivity :
    world.recordActivity.node = { world.node with lastActivity := world.clock } ∧
      world.recordActivity.endpoint = world.endpoint ∧
      world.recordActivity.transfers = world.transfers ∧
      world.recordActivity.agenda = world.agenda ∧ world.recordActivity.clock = world.clock :=
  ⟨rfl, rfl, rfl, rfl, rfl⟩

/-- A new definition leaves the capacity, the cache, the sessions and the standing of the node. -/
@[simp]
theorem frame_replace (definition : Definition) :
    (ReconfigurePoint.replace definition world).node =
        { world.node with
          longLived := definition.longLivedAgent
          definition := { definition with capacity := some world.node.capacity } } ∧
      (ReconfigurePoint.replace definition world).endpoint = world.endpoint ∧
      (ReconfigurePoint.replace definition world).transfers = world.transfers ∧
      (ReconfigurePoint.replace definition world).agenda = world.agenda ∧
      (ReconfigurePoint.replace definition world).clock = world.clock :=
  ⟨rfl, rfl, rfl, rfl, rfl⟩

@[simp]
theorem frame_scheduleMonitor (session delay : Nat) :
    (world.scheduleMonitor session delay).node = world.node ∧
      (world.scheduleMonitor session delay).endpoint = world.endpoint ∧
      (world.scheduleMonitor session delay).transfers = world.transfers ∧
      (world.scheduleMonitor session delay).agenda =
        world.agenda.schedule world.clock delay session ∧
      (world.scheduleMonitor session delay).clock = world.clock :=
  ⟨rfl, rfl, rfl, rfl, rfl⟩

@[simp]
theorem frame_withAgenda (delay : Option Nat) (agenda : Schedule.Agenda) :
    (world.withAgenda delay agenda).node = world.node ∧
      (world.withAgenda delay agenda).endpoint = world.endpoint ∧
      (world.withAgenda delay agenda).transfers = world.transfers ∧
      (world.withAgenda delay agenda).agenda = agenda ∧
      (world.withAgenda delay agenda).clock = world.clock := by
  cases delay <;> exact ⟨rfl, rfl, rfl, rfl, rfl⟩

/-! ## The provider and the endpoint -/

@[simp]
theorem frame_ask {α : Type} (call : Provider → Provider.Reply α) :
    (world.ask call).2.node = world.node ∧ (world.ask call).2.endpoint = world.endpoint ∧
      (world.ask call).2.transfers = world.transfers ∧
      (world.ask call).2.agenda = world.agenda ∧ (world.ask call).2.clock = world.clock := by
  simp only [ask]
  split <;> exact ⟨rfl, rfl, rfl, rfl, rfl⟩

/-- A request to the agent changes the endpoint's own record of such requests, and the journal. -/
@[simp]
theorem frame_askToExit :
    world.askToExit.2.node = world.node ∧
      world.askToExit.2.endpoint = world.endpoint.requestShutdown.2 ∧
      world.askToExit.2.transfers = world.transfers ∧
      world.askToExit.2.agenda = world.agenda ∧ world.askToExit.2.clock = world.clock := by
  simp only [askToExit]
  split <;> exact ⟨rfl, rfl, rfl, rfl, rfl⟩

theorem endpoint_requestShutdown :
    world.requestShutdown.endpoint = world.endpoint.requestShutdown.2 := by
  rcases asked : world.askToExit with ⟨outcome, middle⟩
  have endpoint := world.frame_askToExit.2.1
  rw [asked] at endpoint
  simp only [requestShutdown, asked, noteShutdown]
  split
  · exact endpoint
  · split <;> exact endpoint

@[simp]
theorem frame_startTeardown (cause : Option OfflineCause) :
    (world.startTeardown cause).2.node = world.node ∧
      (world.startTeardown cause).2.endpoint = (world.endpoint.teardown cause).2 ∧
      (world.startTeardown cause).2.agenda = world.agenda ∧
      (world.startTeardown cause).2.clock = world.clock := by
  simp only [startTeardown]
  split <;> exact ⟨rfl, rfl, rfl, rfl⟩

theorem goesOn_startTeardown (cause : Option OfflineCause) :
    GoesOn world.transfers (world.startTeardown cause).2.transfers := by
  simp only [startTeardown]
  split <;> exact GoesOn.append_of_resting rfl

@[simp]
theorem frame_takeOffline (cause : OfflineCause) :
    (world.takeOffline cause).node = world.node ∧
      (world.takeOffline cause).transfers = world.transfers ∧
      (world.takeOffline cause).agenda = world.agenda ∧
      (world.takeOffline cause).clock = world.clock := by
  simp only [takeOffline]
  split <;> exact ⟨rfl, rfl, rfl, rfl⟩

theorem endpoint_takeOffline {world : World} (attached : world.node.attached = true)
    (cause : OfflineCause) :
    (world.takeOffline cause).endpoint = world.endpoint.mark true (some cause) := by
  simp [takeOffline, attached]

@[simp]
theorem frame_bringOnline :
    world.bringOnline.node = world.node ∧ world.bringOnline.transfers = world.transfers ∧
      world.bringOnline.agenda = world.agenda ∧ world.bringOnline.clock = world.clock := by
  simp only [bringOnline]
  split <;> exact ⟨rfl, rfl, rfl, rfl⟩

/-! ## The attempt of the session -/

@[simp]
theorem frame_abortAttempt :
    world.abortAttempt.node = world.node ∧ world.abortAttempt.endpoint = world.endpoint ∧
      world.abortAttempt.agenda = world.agenda ∧ world.abortAttempt.clock = world.clock := by
  simp only [abortAttempt]
  split <;> exact ⟨rfl, rfl, rfl, rfl⟩

theorem goesOn_abortAttempt : GoesOn world.transfers world.abortAttempt.transfers := by
  simp only [abortAttempt]
  split
  · exact .modify_abort _ _
  · exact .refl _

/-! ## Retirement -/

@[simp]
theorem frame_retire :
    world.retire.endpoint = world.endpoint ∧ world.retire.transfers = world.transfers ∧
      world.retire.agenda = world.agenda ∧ world.retire.clock = world.clock := by
  simp only [retire]
  split
  · exact ⟨rfl, rfl, rfl, rfl⟩
  · simp only [note, detach]
    split <;> exact ⟨rfl, rfl, rfl, rfl⟩

/-- To retire changes the standing of the node and nothing else about it. -/
theorem node_retire : world.retire.node = world.node ∨
    world.retire.node = { world.node with retired := true, attached := false } := by
  simp only [retire]
  split
  · exact .inl rfl
  · right
    rcases attached_eq : world.node.attached with _ | _ <;> simp [detach, attached_eq]

/-! ## The clock and the shutdown channel -/

/-- What the node reads and never sets: the time, and what was sent to its watchdogs. -/
def given : Nat × ShutdownSignal :=
  (world.clock, world.signal)

@[simp]
theorem given_note (event : Journal.Event) : (world.note event).given = world.given := rfl

@[simp]
theorem given_withNode (change : Node → Node) : (world.withNode change).given = world.given := rfl

@[simp]
theorem given_withSession (change : Reboot.Session → Reboot.Session) :
    (world.withSession change).given = world.given := rfl

@[simp]
theorem given_recordActivity : world.recordActivity.given = world.given := rfl

@[simp]
theorem given_replace (definition : Definition) :
    (ReconfigurePoint.replace definition world).given = world.given := rfl

@[simp]
theorem given_scheduleMonitor (session delay : Nat) :
    (world.scheduleMonitor session delay).given = world.given := rfl

@[simp]
theorem given_withAgenda (delay : Option Nat) (agenda : Schedule.Agenda) :
    (world.withAgenda delay agenda).given = world.given := by
  cases delay <;> rfl

@[simp]
theorem given_ask {α : Type} (call : Provider → Provider.Reply α) :
    (world.ask call).2.given = world.given := by
  simp only [ask]
  split <;> rfl

@[simp]
theorem given_askToExit : world.askToExit.2.given = world.given := by
  simp only [askToExit]
  split <;> rfl

@[simp]
theorem given_reachEndpoint (explicit : Bool) :
    (world.reachEndpoint explicit).2.given = world.given := rfl

@[simp]
theorem given_startConnection (explicit : Bool) :
    (world.startConnection explicit).2.given = world.given := by
  simp only [startConnection]
  split <;> rfl

theorem clock_startConnection (explicit : Bool) :
    (world.startConnection explicit).2.clock = world.clock :=
  congrArg Prod.fst (world.given_startConnection explicit)

@[simp]
theorem given_startTeardown (cause : Option OfflineCause) :
    (world.startTeardown cause).2.given = world.given := by
  simp only [startTeardown]
  split <;> rfl

@[simp]
theorem given_bringOn (number : Nat) : (world.bringOn number).given = world.given := by
  simp only [bringOn]
  split
  · split <;> rfl
  · split <;> rfl
  · rfl

@[simp]
theorem given_takeOffline (cause : OfflineCause) :
    (world.takeOffline cause).given = world.given := by
  simp only [takeOffline]
  split <;> rfl

@[simp]
theorem given_bringOnline : world.bringOnline.given = world.given := by
  simp only [bringOnline]
  split <;> rfl

@[simp]
theorem given_abortAttempt : world.abortAttempt.given = world.given := by
  simp only [abortAttempt]
  split <;> rfl

@[simp]
theorem given_retire : world.retire.given = world.given := by
  simp only [retire]
  split
  · rfl
  · simp only [note, detach]
    split <;> rfl

end World

end BuildAgent
