import BuildAgent.Node.Happening
import BuildAgent.Node.Rebooting
import BuildAgent.Node.Tagging

/-!
# What the node does not look at

Nothing that the node does depends on the journal, and a node whose endpoint is detached does not
look at the endpoint either. A `Guise` is what may be exchanged behind its back: the journal may
have a past before its first entry, and the endpoint may be another one. The changes of the world
that are blind to a guise commute with it, and the lemmas here are rewriting rules that move the
guise outwards.
-/

namespace BuildAgent

/-- Entries that are older than all others, and an endpoint if it is another one. -/
structure Guise where
  past : List Journal.Entry
  endpoint : Option Endpoint

/-- Whether the endpoint stays. -/
def Guise.IsPast (guise : Guise) : Prop :=
  ∃ past, guise = ⟨past, none⟩

namespace World

def under (world : World) (guise : Guise) : World :=
  { world with
    journal := world.journal ++ guise.past
    endpoint := guise.endpoint.getD world.endpoint }

/-- The world with another endpoint. -/
def facing (world : World) (endpoint : Endpoint) : World :=
  { world with endpoint }

theorem under_facing (world : World) (endpoint : Endpoint) :
    world.under ⟨[], some endpoint⟩ = world.facing endpoint := by
  simp [under, facing]

/-- Whether a node cannot tell its world from the same world under a guise. -/
def IsBlindTo (world : World) (guise : Guise) : Prop :=
  guise.IsPast ∨ world.node.attached = false

theorem IsBlindTo.of_attached {world after : World} {guise : Guise} (blind : world.IsBlindTo guise)
    (same : after.node.attached = world.node.attached) : after.IsBlindTo guise :=
  blind.imp_right same.trans

theorem IsBlindTo.note {world : World} {guise : Guise} (blind : world.IsBlindTo guise)
    (event : Journal.Event) : (world.note event).IsBlindTo guise :=
  blind

variable (world : World) (guise : Guise)

/-! ## What can be seen of a world -/

@[simp]
theorem frame_under :
    (world.under guise).node = world.node ∧ (world.under guise).clock = world.clock ∧
      (world.under guise).signal = world.signal ∧
      (world.under guise).transfers = world.transfers ∧
      (world.under guise).latencies = world.latencies ∧
      (world.under guise).provider = world.provider ∧
      (world.under guise).agenda = world.agenda :=
  ⟨rfl, rfl, rfl, rfl, rfl, rfl, rfl⟩

@[simp]
theorem endpoint_under (past : List Journal.Entry) :
    (world.under ⟨past, none⟩).endpoint = world.endpoint := rfl

@[simp]
theorem outcome?_under (number : Nat) :
    (world.under guise).outcome? number = world.outcome? number := rfl

@[simp]
theorem idleFor_under : (world.under guise).idleFor = world.idleFor := rfl

theorem isChannelPresent_under (blind : world.IsBlindTo guise) :
    (world.under guise).isChannelPresent = world.isChannelPresent := by
  rcases blind with ⟨past, rfl⟩ | detached
  · rfl
  · simp [isChannelPresent, detached]

theorem offlineCause_under (blind : world.IsBlindTo guise) :
    (world.under guise).offlineCause = world.offlineCause := by
  rcases blind with ⟨past, rfl⟩ | detached
  · rfl
  · simp [offlineCause, detached]

/-! ## Changes that do not concern the endpoint -/

@[simp]
theorem note_under (event : Journal.Event) :
    (world.under guise).note event = (world.note event).under guise := rfl

@[simp]
theorem withNode_under (change : Node → Node) :
    (world.under guise).withNode change = (world.withNode change).under guise := rfl

@[simp]
theorem withSession_under (change : Reboot.Session → Reboot.Session) :
    (world.under guise).withSession change = (world.withSession change).under guise := rfl

@[simp]
theorem recordActivity_under :
    (world.under guise).recordActivity = world.recordActivity.under guise := rfl

@[simp]
theorem scheduleMonitor_under (session delay : Nat) :
    (world.under guise).scheduleMonitor session delay =
      (world.scheduleMonitor session delay).under guise := rfl

@[simp]
theorem replace_under (definition : Definition) :
    ReconfigurePoint.replace definition (world.under guise) =
      (ReconfigurePoint.replace definition world).under guise := rfl

@[simp]
theorem withAgenda_under (delay : Option Nat) (agenda : Schedule.Agenda) :
    (world.under guise).withAgenda delay agenda =
      (world.withAgenda delay agenda).under guise := by
  cases delay <;> rfl

@[simp]
theorem ask_under {α : Type} (call : Provider → Provider.Reply α) :
    (world.under guise).ask call = ((world.ask call).1, (world.ask call).2.under guise) := by
  simp only [ask, frame_under]
  split <;> rfl

@[simp]
theorem noteShutdown_under (outcome : Link.Outcome) :
    (world.under guise).noteShutdown outcome = (world.noteShutdown outcome).under guise := by
  rcases outcome with fault | _
  · simp only [noteShutdown]
    split <;> rfl
  · rfl

@[simp]
theorem noteTeardown_under (outcome : Link.Outcome) :
    (world.under guise).noteTeardown outcome = (world.noteTeardown outcome).under guise := by
  rcases outcome with fault | _
  · simp only [noteTeardown, frame_under]
    split <;> rfl
  · rfl

@[simp]
theorem abortAttempt_under :
    (world.under guise).abortAttempt = world.abortAttempt.under guise := by
  simp only [abortAttempt, frame_under]
  split <;> rfl

@[simp]
theorem openSession_under : (world.under guise).openSession = world.openSession.under guise := by
  simp [openSession]

@[simp]
theorem closeSession_under : (world.under guise).closeSession = world.closeSession.under guise := by
  simp [closeSession]

@[simp]
theorem detach_under : (world.under guise).detach = world.detach.under guise := by
  simp only [detach, frame_under]
  split <;> rfl

@[simp]
theorem retire_under : (world.under guise).retire = world.retire.under guise := by
  simp only [retire, frame_under, withNode_under, detach_under]
  split <;> rfl

/-! ## Changes of the endpoint -/

section Past

variable (past : List Journal.Entry)

@[simp]
theorem askToExit_under : (world.under ⟨past, none⟩).askToExit =
    (world.askToExit.1, world.askToExit.2.under ⟨past, none⟩) := by
  simp only [askToExit, endpoint_under]
  split <;> rfl

@[simp]
theorem requestShutdown_under :
    (world.under ⟨past, none⟩).requestShutdown = world.requestShutdown.under ⟨past, none⟩ := by
  simp [requestShutdown]

@[simp]
theorem startTeardown_under (cause : Option OfflineCause) :
    (world.under ⟨past, none⟩).startTeardown cause =
      ((world.startTeardown cause).1, (world.startTeardown cause).2.under ⟨past, none⟩) := by
  simp only [startTeardown, endpoint_under, frame_under]
  split <;> rfl

@[simp]
theorem reachEndpoint_under (explicit : Bool) :
    (world.under ⟨past, none⟩).reachEndpoint explicit =
      ((world.reachEndpoint explicit).1, (world.reachEndpoint explicit).2.under ⟨past, none⟩) := by
  simp only [reachEndpoint, endpoint_under]
  split <;> rfl

@[simp]
theorem startConnection_under (explicit : Bool) :
    (world.under ⟨past, none⟩).startConnection explicit =
      ((world.startConnection explicit).1,
        (world.startConnection explicit).2.under ⟨past, none⟩) := by
  simp only [startConnection, frame_under, reachEndpoint_under]
  split <;> rfl

@[simp]
theorem bringOn_under (number : Nat) :
    (world.under ⟨past, none⟩).bringOn number = (world.bringOn number).under ⟨past, none⟩ := by
  simp only [bringOn, frame_under, reachEndpoint_under]
  split
  · split <;> rfl
  · split <;> rfl
  · rfl

end Past

/-! Where the endpoint is detached, these do nothing to it. -/

theorem takeOffline_under (blind : world.IsBlindTo guise) (cause : OfflineCause) :
    (world.under guise).takeOffline cause = (world.takeOffline cause).under guise := by
  rcases blind with ⟨past, rfl⟩ | detached
  · simp only [takeOffline, frame_under]
    split <;> rfl
  · simp [takeOffline, detached]

theorem bringOnline_under (blind : world.IsBlindTo guise) :
    (world.under guise).bringOnline = world.bringOnline.under guise := by
  rcases blind with ⟨past, rfl⟩ | detached
  · simp only [bringOnline, frame_under]
    split <;> rfl
  · simp [bringOnline, detached]

theorem connect?_under (blind : world.IsBlindTo guise) (explicit : Bool) :
    (world.under guise).connect? explicit =
      (world.connect? explicit).map fun (attempt, begun) => (attempt, begun.under guise) := by
  rcases blind with ⟨past, rfl⟩ | detached
  · simp only [connect?, frame_under, note_under, startConnection_under]
    split <;> rfl
  · simp [connect?, detached]

end World

@[simp]
theorem Happening.apply_under (happening : Happening) (world : World) (past : List Journal.Entry) :
    happening.apply (world.under ⟨past, none⟩) = (happening.apply world).under ⟨past, none⟩ := by
  cases happening with
  | describe instanceIds => simp [apply]
  | command operation instanceId => simp [apply]
  | changeTags change instanceId batch => simp [apply]
  | requestShutdown => simp [apply]
  | connect explicit => simp [apply]
  | _ => rfl

end BuildAgent
