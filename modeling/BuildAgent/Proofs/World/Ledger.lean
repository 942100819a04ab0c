import BuildAgent.Proofs.World.Frames

/-!
# The ledger of attempts

Whenever the node starts an attempt to connect, it notes so twice: that a connection is started, and
for which session. The entries of these two kinds are the ledger of attempts, and a policy that is
the same throughout tells what they may add up to. Here is which changes of the world leave both
alone: all but the start of an attempt.
-/

namespace BuildAgent

/-- Whether an event is about the start of an attempt to connect. -/
def Journal.Event.isLaunch : Journal.Event → Bool
  | startingConnection _ => true
  | attemptStarted _ => true
  | _ => false

namespace World

/-- What the journal says about the start of attempts, the latest first. -/
def launches (world : World) : List Journal.Event :=
  (world.journal.map Journal.Entry.event).filter Journal.Event.isLaunch

/-- The timings of the node and the attempts that it started. -/
def ledger (world : World) : Timings × List Journal.Event :=
  (world.node.timings, world.launches)

variable (world : World)

theorem launches_note (event : Journal.Event) :
    (world.note event).launches =
      if event.isLaunch then event :: world.launches else world.launches := by
  simp only [launches, note, List.map_cons, List.filter_cons]

@[simp]
theorem ledger_note (event : Journal.Event) (other : event.isLaunch = false) :
    (world.note event).ledger = world.ledger := by
  simp [ledger, launches_note, other]

theorem ledger_withNode {change : Node → Node}
    (same : (change world.node).timings = world.node.timings) :
    (world.withNode change).ledger = world.ledger := by
  simp only [ledger, frame_withNode, same]
  rfl

@[simp]
theorem ledger_withSession (change : Reboot.Session → Reboot.Session) :
    (world.withSession change).ledger = world.ledger := rfl

@[simp]
theorem ledger_recordActivity : world.recordActivity.ledger = world.ledger := rfl

@[simp]
theorem ledger_bind (instanceId : InstanceId) :
    (world.withNode fun node => node.bind instanceId).ledger = world.ledger := by
  refine world.ledger_withNode ?_
  simp only [Node.bind]
  split <;> rfl

@[simp]
theorem ledger_replace (definition : Definition) :
    (ReconfigurePoint.replace definition world).ledger = world.ledger := rfl

@[simp]
theorem ledger_withAgenda (delay : Option Nat) (agenda : Schedule.Agenda) :
    (world.withAgenda delay agenda).ledger = world.ledger := by
  cases delay <;> rfl

/-! ## The provider and the endpoint -/

theorem ledger_ask {α : Type} {call : Provider → Provider.Reply α}
    (other : ∀ event, (call world.provider).event = some event → event.isLaunch = false) :
    (world.ask call).2.ledger = world.ledger := by
  rcases left : (call world.provider).event with _ | event
  · simp only [ask, left]
    rfl
  · simp only [ask, left]
    exact ledger_note _ _ (other event left)

@[simp]
theorem ledger_describe (instanceIds : List InstanceId) :
    (world.ask fun provider => provider.describe instanceIds).2.ledger = world.ledger := by
  refine world.ledger_ask ?_
  intro event left
  simp only [Provider.describe, Provider.perform] at left
  split at left
  · cases left
    rfl
  · cases left

@[simp]
theorem ledger_command (operation : Provider.Operation) (instanceId : InstanceId) :
    (world.ask fun provider => provider.command operation instanceId).2.ledger =
      world.ledger := by
  refine world.ledger_ask ?_
  intro event left
  simp only [Provider.command, Provider.perform] at left
  split at left
  · cases left
    rfl
  · split at left
    · cases left
    · cases left
      rfl

@[simp]
theorem ledger_changeTags (change : TagChange) (instanceId : InstanceId) (batch : List Tag) :
    (world.ask fun provider => provider.changeTags change instanceId batch).2.ledger =
      world.ledger := by
  refine world.ledger_ask ?_
  intro event left
  simp only [Provider.changeTags, Provider.perform] at left
  split at left
  · cases left
    rfl
  · split at left <;> cases left

@[simp]
theorem ledger_askToExit : world.askToExit.2.ledger = world.ledger := by
  simp only [askToExit]
  split
  · exact ledger_note _ _ rfl
  · rfl

@[simp]
theorem ledger_noteShutdown (outcome : Link.Outcome) :
    (world.noteShutdown outcome).ledger = world.ledger := by
  rcases outcome with fault | _
  · simp only [noteShutdown]
    split <;> exact ledger_note _ _ rfl
  · exact ledger_note _ _ rfl

@[simp]
theorem ledger_requestShutdown : world.requestShutdown.ledger = world.ledger := by
  simp [requestShutdown]

@[simp]
theorem ledger_noteTeardown (outcome : Link.Outcome) :
    (world.noteTeardown outcome).ledger = world.ledger := by
  rcases outcome with fault | _
  · simp only [noteTeardown]
    split <;> exact ledger_note _ _ rfl
  · exact ledger_note _ _ rfl

@[simp]
theorem ledger_startTeardown (cause : Option OfflineCause) :
    (world.startTeardown cause).2.ledger = world.ledger := by
  simp only [startTeardown]
  split <;> rfl

@[simp]
theorem ledger_takeOffline (cause : OfflineCause) :
    (world.takeOffline cause).ledger = world.ledger := by
  simp only [takeOffline]
  split
  · exact world.ledger_note (.takingOffline cause) rfl
  · rfl

@[simp]
theorem ledger_bringOnline : world.bringOnline.ledger = world.ledger := by
  simp only [bringOnline]
  split
  · exact ledger_note _ _ rfl
  · rfl

@[simp]
theorem ledger_reachEndpoint (explicit : Bool) :
    (world.reachEndpoint explicit).2.ledger = world.ledger := by
  simp only [reachEndpoint]
  exact ledger_note world (.connecting explicit world.endpoint.nextScript) rfl

@[simp]
theorem ledger_startConnection (explicit : Bool) :
    (world.startConnection explicit).2.ledger = world.ledger := by
  simp only [startConnection]
  split
  · exact world.ledger_reachEndpoint explicit
  · rfl

@[simp]
theorem ledger_bringOn (number : Nat) : (world.bringOn number).ledger = world.ledger := by
  simp only [bringOn]
  split
  · split
    · exact world.ledger_reachEndpoint _
    · rfl
  · split <;> rfl
  · rfl

/-! ## Sessions and retirement -/

@[simp]
theorem ledger_abortAttempt : world.abortAttempt.ledger = world.ledger := by
  simp only [abortAttempt]
  split <;> rfl

@[simp]
theorem ledger_openSession : world.openSession.ledger = world.ledger := by
  simp [openSession]

@[simp]
theorem ledger_closeSession : world.closeSession.ledger = world.ledger := by
  simp [closeSession]

@[simp]
theorem ledger_retire : world.retire.ledger = world.ledger := by
  simp only [retire, detach]
  split
  · rfl
  · split
    · exact (ledger_note _ _ rfl).trans ((ledger_note _ _ rfl).trans rfl)
    · exact (ledger_note _ _ rfl).trans rfl

/-- An attempt that is started goes into the ledger, and its connection does too. -/
theorem ledger_attempted (session : Nat) :
    (((world.note (.startingConnection false)).startConnection false).2.note
        (.attemptStarted session)).ledger =
      (world.node.timings,
        .attemptStarted session :: .startingConnection false :: world.launches) := by
  have started := (world.note (.startingConnection false)).ledger_startConnection false
  simp only [ledger, Prod.mk.injEq] at started ⊢
  refine ⟨started.1, ?_⟩
  rw [launches_note, started.2, launches_note]
  rfl

end World

end BuildAgent
