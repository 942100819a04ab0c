import BuildAgent.Proofs.Execution.LeftAlone
import BuildAgent.Proofs.Monitor.Finality

/-!
# Reboots succeed

A reboot of a node that is managed succeeds, whatever state it finds and whatever fails on the way:
a request to exit, a teardown, the command and the look at the instance that follows a failed
command are best effort, and none of them keeps the session from being opened or its first look from
being scheduled (`Outset.reboot_succeeds`). What comes of the reboot is `World.Rebooted`.
-/

namespace BuildAgent

namespace World

/-- What a reboot leaves that has scheduled its first look at a time. -/
structure Rebooted (before : World) (now : Nat) (after : World) : Prop where
  /-- The session is new and live. Nothing else that the node holds has changed. -/
  node : after.node = { before.node with
    session := { generation := before.node.session.generation + 1, active := true } }
  /-- The attempt of the session before is broken off, and no other work is. -/
  transfers : ∀ number < before.transfers.length, after.transfers[number]? =
    if before.node.session.attempt = some number then
      before.transfers[number]?.map Transfer.abort
    else before.transfers[number]?
  channel : after.endpoint.channelPresent = false
  offline : after.endpoint.temporarilyOffline = true
  cause : after.endpoint.cause = some (.reboot (before.node.session.generation + 1))
  teardowns : after.endpoint.teardownCalls = before.endpoint.teardownCalls + 1
  /-- An agent that lives on by itself is asked to exit, once, if it can be reached. -/
  shutdowns : after.endpoint.shutdownCalls = before.endpoint.shutdownCalls +
    if before.node.longLived && before.endpoint.channelPresent then 1 else 0
  connects : after.endpoint.connectCalls = before.endpoint.connectCalls
  calls : after.provider.calls =
    Provider.keepCalls (before.commandCalls .reboot true) before.provider.calls
  /-- One look is scheduled, behind those that wait already. -/
  agenda : after.agenda = before.agenda.schedule now before.node.timings.reboot.initialDelay
    (before.node.session.generation + 1)
  /-- What was added to the agenda is that look of the new session, after the initial delay. -/
  entered : Schedule.Agenda.Enters now before.node.timings.reboot.initialDelay
    (before.node.session.generation + 1) before.agenda after.agenda
  /-- The attempt that is broken off ends so, unless it had ended; then it stays as it was. -/
  broken : ∀ number transfer, before.node.session.attempt = some number →
    before.transfers[number]? = some transfer → after.transfers[number]? =
      some (if transfer.outcome?.isNone then .aborted else transfer)

variable (world : World)

theorem openSession_eq : world.openSession =
    { world with
      node := { world.node with session := world.node.session.start }
      transfers := world.abortAttempt.transfers } := by
  simp only [openSession, abortAttempt]
  split <;> rfl

theorem getElem?_abortAttempt (number : Nat) : world.abortAttempt.transfers[number]? =
    if world.node.session.attempt = some number then
      world.transfers[number]?.map Transfer.abort
    else world.transfers[number]? := by
  simp only [abortAttempt]
  split
  · rename_i attempt holds
    simp only [abort, List.getElem?_modify, holds, Option.some.injEq]
    split
    · rfl
    · exact Option.map_id'
  · rename_i free
    simp [free]

/-- What an outline shows of a reboot is what a reboot leaves. -/
theorem Rebooted.of_outline {before after : World} {now : Nat}
    (rebooted : (before.outline before.transfers.length).Rebooted now
      (after.outline before.transfers.length)) : before.Rebooted now after where
  node := rebooted.node
  transfers number inside := by
    have shown := rebooted.transfers number
    simp only [outline, List.take_length, List.getElem?_take_of_lt inside] at shown
    exact shown inside
  channel := rebooted.channel
  offline := rebooted.offline
  cause := rebooted.cause
  teardowns := rebooted.teardowns
  shutdowns := rebooted.shutdowns
  connects := rebooted.connects
  calls := rebooted.calls
  agenda := rebooted.agenda
  entered := rebooted.entered
  broken number transfer held found := by
    have inside : number < before.transfers.length := (List.getElem?_eq_some_iff.mp found).1
    have shown := rebooted.broken number transfer held
    simp only [outline, List.take_length, List.getElem?_take_of_lt inside] at shown
    exact shown found

end World

/-- What is foreseen of a reboot of a node that is managed. -/
theorem RebootPoint.rebooted_outlook (started now : Nat) {before : World}
    (managed : before.node.retired = false) (attached : before.node.attached = true) :
    ∃ after, (forecast started).outlook .entering before now =
      (.ok (before.node.session.generation + 1), after) ∧ before.Rebooted now after := by
  let session := before.node.session.generation + 1
  let opened : World := { before with
    node := { before.node with session := before.node.session.start }
    transfers := before.abortAttempt.transfers }
  let marked := opened.mark true (some (.reboot session))
  have outlook : (forecast started).outlook .entering before now =
      finishOutlook session ((marked.disconnected (some (.reboot session))).sent .reboot true)
        now := by
    have entering : (forecast started).outlook .entering before = waitingOutlook before := by
      simp only [forecast, managed]
      rfl
    have prepared : opened.markedOffline (.reboot session) = marked := if_pos attached
    simp only [entering, waitingOutlook, bindingOutlook_eq, before.openSession_eq]
    exact congrArg (fun world => finishOutlook session
      ((World.disconnected (some (.reboot session)) world).sent .reboot true) now) prepared
  rcases marked.disconnected_eq (some (.reboot session)) with ⟨endpoint, parted, _, torn⟩
  rcases World.sent_eq { marked with endpoint } .reboot true with ⟨provider, sent, calls⟩
  have reached := torn attached
  rw [parted, sent] at outlook
  refine ⟨_, outlook, ?_⟩
  exact {
    node := rfl
    transfers := fun number _ => before.getElem?_abortAttempt number
    channel := congrArg Endpoint.channelPresent reached
    offline := congrArg Endpoint.temporarilyOffline reached
    cause := congrArg Endpoint.cause reached
    teardowns := congrArg Endpoint.teardownCalls reached
    shutdowns := congrArg Endpoint.shutdownCalls reached
    connects := (congrArg Endpoint.connectCalls reached :)
    calls
    agenda := rfl
    entered := before.agenda.enters_schedule _ _ _
    broken := by
      intro number transfer held found
      have broken := before.getElem?_abortAttempt number
      rw [if_pos held, found, Option.map_some, Transfer.abort_eq] at broken
      exact broken }

namespace Outset

/-- **A reboot succeeds from every state and whatever fails.** Take any execution that can be
reached whose node is managed, and ask for a reboot. If the locks that it needs are free and nothing
interrupts it, then however far it has come it can be carried to its end, and when it has ended,
nothing else that was under way has moved, the answer is the number of a new session, one more than
that of the session before, and the world is as a reboot leaves it. That holds whatever failures
wait for the request to exit, for the teardown, for the command and for the diagnosis. -/
theorem reboot_succeeds (outset : Outset) (moves : List Move) {number : Nat} {steps : List Move}
    (fresh : (outset.execution.run moves).nextNumber ≤ number)
    (held : (outset.execution.run moves).world.node.held = true)
    (managed : (outset.execution.run moves).world.node.retired = false)
    (sessionFree : (outset.execution.run moves).isFree .session = true)
    (cacheFree : (outset.execution.run moves).isFree .cache = true)
    (alone : ∀ move ∈ steps,
      move.isOf number (outset.execution.run moves).world.transfers.length = true) :
    let before := outset.execution.run moves
    let call := outset.execution.run (moves ++ .start number .reboot :: steps)
    (∃ rest, (∀ move ∈ rest, move.isOf number before.world.transfers.length = true) ∧
      (call.run rest).task? number = none) ∧
    (call.task? number = none → ∃ now,
      before.Answered number .reboot
        (.rebooted (.ok (before.world.node.session.generation + 1))) now call ∧
      before.world.Rebooted now call.world) := by
  intro before call
  have attached : before.world.node.attached = true := by
    rw [outset.coupled_run moves, managed]
    rfl
  have own : (Point.forecast before.world.transfers.length before.isFree).own
      Request.reboot.entry := ⟨trivial, sessionFree, cacheFree⟩
  rcases outset.left_alone moves fresh held own alone with ⟨ends, foreseen⟩
  refine ⟨ends, fun ended => ?_⟩
  rcases foreseen ended with ⟨answer, now, answered, outlook⟩
  let shown := before.world.outline before.world.transfers.length
  have managed_shown : shown.node.retired = false := managed
  rcases RebootPoint.rebooted_outlook before.world.transfers.length now managed_shown attached with
    ⟨after, result, rebooted⟩
  rcases Prod.mk.inj (outlook.trans (congrArg (Prod.map Answer.rebooted id) result)) with
    ⟨rfl, outline⟩
  exact ⟨now, answered, .of_outline (outline ▸ rebooted)⟩

/-- A node on an instance whose agent lives on by itself. -/
def longLived (instanceId : InstanceId) : Outset :=
  { onInstance instanceId with
    definition := { Definition.onDemand "node" instanceId with longLivedAgent := true } }

/-- Everything that a reboot makes use of fails, and its teardown takes a second. -/
def everythingFails : List Move :=
  [.happen (.failShutdown .crashed), .happen (.failTeardown .crashed),
    .happen (.delayTeardown 1000), .happen (.failNext .reboot (.throttled .reboot)),
    .happen (.failNext .describe (.throttled .describe))]

/-- The moves of a reboot on its own. -/
def rebootAlone : List Move :=
  [.resume 0, .resume 0, .resume 0, .pass 1000, .bringOn 0, .resume 0, .resume 0, .resume 0,
    .resume 0, .resume 0]

/-- The reboot opens the first session nevertheless, after one request to exit, one teardown, the
command and its diagnosis. -/
theorem reboot_succeeds_everythingFails : ∃ after : World,
    ((longLived someInstance).execution.run
        (everythingFails ++ .start 0 .reboot :: rebootAlone)).world = after ∧
      after.node.session = { generation := 1, active := true } ∧
      after.endpoint.cause = some (.reboot 1) ∧ after.endpoint.shutdownCalls = 1 ∧
      after.endpoint.teardownCalls = 1 ∧
      after.provider.calls = [⟨.reboot, [someInstance], []⟩, ⟨.describe, [someInstance], []⟩] := by
  have alone : ∀ move ∈ rebootAlone, move.isOf 0 0 = true := by decide
  rcases ((longLived someInstance).reboot_succeeds everythingFails (Nat.le_refl 0) rfl rfl rfl rfl
    alone).2 rfl with ⟨now, _, rebooted⟩
  exact ⟨_, rfl, congrArg Node.session rebooted.node, rebooted.cause, rebooted.shutdowns,
    rebooted.teardowns, rebooted.calls⟩

end Outset

end BuildAgent
