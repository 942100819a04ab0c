import BuildAgent.Proofs.Execution.LeftAlone
import BuildAgent.Proofs.Monitor.Detached

/-!
# Disconnecting is best effort

To disconnect comes to its end whatever goes wrong with the link. Two things can: the agent may not
take the request to exit, and the channel may not come down properly. Neither keeps the other from
being tried, and what is left is the same in every case but for the journal. There each of them is a
warning only where it is news: an agent that exits breaks the link off, so that is not, and if the
agent lives on by itself no failure of the teardown is.

`World.TornDown` says what a disconnection has done to the world from the start of the teardown on,
and `Stage.Disconnects` where a disconnection that is left alone can stand, with the number of steps
that it may still need. Time and work on the link keep to these stages, and each step of the
disconnection brings it nearer to its end (`Stage.Disconnects.resume`). So it can be carried there
from wherever it stands (`Execution.HasLed.exists_end`).

`Outset.disconnects_at_best_effort` is the main result. It is about any execution that can be
reached, and as the endpoint at the outset, the definition and the moves are arbitrary, these are
all states that the node, the link and the endpoint can be in.
-/

namespace BuildAgent

/-- A fault that is news although the agent may be exiting. -/
def Link.surprise? (fault : Option Fault) : Option Fault :=
  fault.filter fun fault => fault ≠ .aborted ∧ fault ≠ .channelClosed

theorem Link.surprise?_some (fault : Fault) :
    surprise? (some fault) = if fault.isExpected then none else some fault := by
  cases fault <;> rfl

/-! ## What a disconnection leaves -/

/-- Whether work on the link has an outcome or will have it. -/
def Transfer.EndsWith (outcome : Link.Outcome) : Transfer → Prop
  | closing settled _ => settled = outcome
  | finished settled => settled = outcome
  | _ => False

namespace World

/-- The events in the journal, the latest first. -/
def events (world : World) : List Journal.Event :=
  world.journal.map Journal.Entry.event

/-- The warnings among them. -/
def warnings (world : World) : List Journal.Event :=
  world.events.filter fun event => event.level = .warning

/-- Whether a disconnection would ask the agent to exit. -/
def asksToExit (world : World) : Bool :=
  world.node.longLived && world.endpoint.channelPresent

/-- What a disconnection notes of the request to the agent. -/
def shutdownEvents (world : World) : List Journal.Event :=
  if world.asksToExit then
    match world.endpoint.shutdownFault with
    | none => [.askedToExit, .agentExiting]
    | some fault =>
      if fault.isExpected then [.goneDuringShutdown fault] else [.shutdownRequestFailed fault]
  else []

/-- What it notes of the teardown. -/
def teardownEvent (world : World) : Journal.Event :=
  match world.endpoint.teardownFault with
  | none => .tornDown
  | some fault =>
    if fault.isExpected || world.node.longLived then .teardownEndedEarly fault
    else .teardownFailed fault

/-- The endpoint after a disconnection. A fault that waited for the teardown is used up, and one
that waited for the request to the agent only if there was such a request. -/
def endpointLeft (cause : Option OfflineCause) (world : World) : Endpoint :=
  { world.endpoint with
    channelPresent := false
    cause := cause.or world.endpoint.cause
    shutdownFault := if world.asksToExit then none else world.endpoint.shutdownFault
    teardownFault := none
    teardownCalls := world.endpoint.teardownCalls + 1
    shutdownCalls := world.endpoint.shutdownCalls + if world.asksToExit then 1 else 0 }

/-- What has become of the world since the channel came down, with the events that were noted. -/
structure TornDown (before : World) (cause : Option OfflineCause) (noted : List Journal.Event)
    (after : World) : Prop where
  node : after.node = before.node
  provider : after.provider = before.provider
  agenda : after.agenda = before.agenda
  endpoint : after.endpoint = before.endpointLeft cause
  events : after.events = noted ++ before.events
  transfers : ∃ teardown, after.transfers = before.transfers ++ [teardown] ∧
    teardown.EndsWith (Endpoint.outcomeOf before.endpoint.teardownFault)

/-! ## The changes on the way -/

variable {before world : World} {cause : Option OfflineCause} {noted : List Journal.Event}

theorem bringOn_of_beyond {number : Nat} (beyond : world.transfers.length ≤ number) :
    world.bringOn number = world := by
  simp only [bringOn, List.getElem?_eq_none beyond]

theorem events_requestShutdown (world : World) :
    world.requestShutdown.events =
      (match world.endpoint.shutdownFault with
        | none => [.askedToExit, .agentExiting]
        | some fault =>
          if fault.isExpected then [.goneDuringShutdown fault]
          else [.shutdownRequestFailed fault]) ++ world.events := by
  rcases failing : world.endpoint.shutdownFault with _ | fault
  · simp [requestShutdown, askToExit, Endpoint.requestShutdown, Endpoint.outcomeOf, failing,
      noteShutdown, events, note]
  · simp only [requestShutdown, askToExit, Endpoint.requestShutdown, Endpoint.outcomeOf, failing,
      noteShutdown]
    split <;> rfl

theorem node_requestShutdown (world : World) :
    world.requestShutdown.node = world.node ∧
      world.requestShutdown.agenda = world.agenda := by
  have frame := world.frame_askToExit
  simp only [requestShutdown, noteShutdown]
  split
  · exact ⟨frame.1, frame.2.2.2.1⟩
  · split <;> exact ⟨frame.1, frame.2.2.2.1⟩

/-- The teardown gets the next number, and its outcome is settled. -/
theorem startTeardown_eq (cause : Option OfflineCause) (world : World) :
    ∃ latencies teardown, world.startTeardown cause =
        (world.transfers.length,
          { world with
            endpoint := (world.endpoint.teardown cause).2
            latencies
            transfers := world.transfers ++ [teardown] }) ∧
      teardown.EndsWith (Endpoint.outcomeOf world.endpoint.teardownFault) := by
  simp only [startTeardown]
  split
  · exact ⟨_, _, rfl, rfl⟩
  · exact ⟨_, _, rfl, rfl⟩

theorem TornDown.passed (torn : before.TornDown cause noted world) (duration : Nat) :
    before.TornDown cause noted { world with clock := world.clock + duration } :=
  ⟨torn.node, torn.provider, torn.agenda, torn.endpoint, torn.events, torn.transfers⟩

/-- The teardown is found under the number that was free before. -/
theorem TornDown.exists_teardown (torn : before.TornDown cause noted world) :
    ∃ teardown, world.transfers[before.transfers.length]? = some teardown ∧
      teardown.EndsWith (Endpoint.outcomeOf before.endpoint.teardownFault) := by
  rcases torn.transfers with ⟨teardown, transfers, ends⟩
  exact ⟨teardown, by rw [transfers, List.getElem?_concat_length], ends⟩

theorem TornDown.bringOn (torn : before.TornDown cause noted world) {number : Nat}
    (since : before.transfers.length ≤ number) :
    before.TornDown cause noted (world.bringOn number) := by
  rcases torn.transfers with ⟨teardown, transfers, ends⟩
  by_cases own : number = before.transfers.length
  · have found : world.transfers[number]? = some teardown := by
      rw [transfers, own, List.getElem?_concat_length]
    cases teardown with
    | closing outcome due =>
        by_cases passed : due ≤ world.clock
        · simp only [World.bringOn, found, if_pos passed]
          refine ⟨torn.node, torn.provider, torn.agenda, torn.endpoint, torn.events,
            .finished outcome, ?_, ends⟩
          simp [setTransfer, transfers, own]
        · simp only [World.bringOn, found, if_neg passed]
          exact torn
    | finished outcome =>
        simp only [World.bringOn, found]
        exact torn
    | _ => cases ends
  · have beyond : world.transfers.length ≤ number := by
      simp only [transfers, List.length_append, List.length_singleton]
      omega
    rw [bringOn_of_beyond beyond]
    exact torn

/-- The end of the teardown is noted. -/
theorem TornDown.noteTeardown (torn : before.TornDown cause noted world) :
    before.TornDown cause (before.teardownEvent :: noted)
      (world.noteTeardown (Endpoint.outcomeOf before.endpoint.teardownFault)) := by
  have events : (before.teardownEvent :: world.events) =
      (before.teardownEvent :: noted) ++ before.events := by
    rw [torn.events, List.cons_append]
  rcases torn with ⟨node, provider, agenda, endpoint, _, transfers⟩
  rcases failing : before.endpoint.teardownFault with _ | fault
  · simp only [teardownEvent, failing] at events ⊢
    refine ⟨node, provider, agenda, endpoint, events, transfers⟩
  · simp only [teardownEvent, failing] at events ⊢
    simp only [World.noteTeardown, Endpoint.outcomeOf, node]
    split at events
    · rename_i early
      rw [if_pos early, if_pos early]
      exact ⟨node, provider, agenda, endpoint, events, transfers⟩
    · rename_i late
      rw [if_neg late, if_neg late]
      exact ⟨node, provider, agenda, endpoint, events, transfers⟩

end World

/-- No work goes on at a number that is still free. -/
theorem Stage.within_bringOn_of_beyond {π ρ : Type} {stage : Stage π ρ} {number : Nat}
    (beyond : stage.world.transfers.length ≤ number) :
    stage.within (fun world => world.bringOn number) = stage := by
  cases stage with
  | pause point world => exact congrArg (pause point) (World.bringOn_of_beyond beyond)
  | done result world => exact congrArg (done result) (World.bringOn_of_beyond beyond)

/-! ## Where a disconnection can stand -/

/-- The stages of a disconnection that is left alone, each with the number of steps that it may
still need. -/
inductive Stage.Disconnects (before : World) (cause : Option OfflineCause) :
    Nat → Stage Point Answer → Prop
  | entering (now : Nat) :
      Disconnects before cause 3
        (.pause (.disconnecting (.entering cause)) { before with clock := now })
  | requesting (now : Nat) (attached : before.node.attached = true)
      (asks : before.asksToExit = true) :
      Disconnects before cause 2
        (.pause (.disconnecting (.requesting cause)) { before with clock := now })
  | tearing {world : World} (attached : before.node.attached = true)
      (torn : before.TornDown cause before.shutdownEvents world) :
      Disconnects before cause 1
        (.pause (.disconnecting (.tearing before.transfers.length)) world)
  | ended {world : World} (attached : before.node.attached = true)
      (torn : before.TornDown cause (before.teardownEvent :: before.shutdownEvents) world) :
      Disconnects before cause 0 (.done .nothing world)
  | refused (now noted : Nat) (detached : before.node.attached = false) :
      Disconnects before cause 0 (.done .nothing
        { before with
          clock := now
          journal := ⟨noted, .nothingToDisconnect⟩ :: before.journal })

namespace DisconnectPoint

variable {before world : World} {cause : Option OfflineCause}

/-- The teardown starts once the agent was asked to exit, if it is asked. -/
theorem disconnects_tear (attached : before.node.attached = true)
    (node : world.node = before.node) (provider : world.provider = before.provider)
    (agenda : world.agenda = before.agenda) (transfers : world.transfers = before.transfers)
    (endpoint : world.endpoint =
      if before.asksToExit then before.endpoint.requestShutdown.2 else before.endpoint)
    (events : world.events = before.shutdownEvents ++ before.events) :
    Stage.Disconnects before cause 1
      ((tear cause world).andThen .disconnecting fun () => .done .nothing) := by
  rcases world.startTeardown_eq cause with ⟨latencies, teardown, started, ends⟩
  simp only [tear, started, Stage.andThen_pause, transfers]
  apply Stage.Disconnects.tearing attached
  refine ⟨node, provider, agenda, ?_, events, teardown, rfl, ?_⟩
  · rw [endpoint]
    rcases asks : before.asksToExit with _ | _
    · simp [World.endpointLeft, Endpoint.teardown, asks]
    · simp [World.endpointLeft, Endpoint.teardown, Endpoint.requestShutdown, asks]
  · rw [endpoint] at ends
    split at ends <;> exact ends

/-- A disconnection begins with the request to the agent, with the teardown, or not at all. -/
theorem disconnects_enter (before : World) (cause : Option OfflineCause) (now : Nat) :
    ∃ fewer, fewer < 3 ∧ Stage.Disconnects before cause fewer
      ((enter cause { before with clock := now }).andThen .disconnecting
        fun () => .done .nothing) := by
  rcases attached : before.node.attached with _ | _
  · have detached : ({ before with clock := now } : World).node.attached = false := attached
    rw [enter_of_detached detached]
    exact ⟨0, by omega, .refused now now attached⟩
  · simp only [enter, attached, if_true]
    rcases asks : before.asksToExit with _ | _
    · rw [World.asksToExit] at asks
      rw [if_neg (by simp [asks])]
      refine ⟨1, by omega, disconnects_tear attached rfl rfl rfl rfl ?_ ?_⟩
      · simp [World.asksToExit, asks]
      · simp [World.shutdownEvents, World.asksToExit, asks, World.events]
    · rw [World.asksToExit] at asks
      rw [if_pos asks]
      exact ⟨2, by omega, .requesting now attached asks⟩

/-- The teardown follows the request to the agent in the same step, however that went. -/
theorem disconnects_request (attached : before.node.attached = true)
    (asks : before.asksToExit = true) (now : Nat) :
    Stage.Disconnects before cause 1
      ((tear cause (World.requestShutdown { before with clock := now })).andThen
        .disconnecting fun () => .done .nothing) := by
  rcases World.node_requestShutdown { before with clock := now } with ⟨node, agenda⟩
  apply disconnects_tear attached node (World.provider_requestShutdown _) agenda
    (World.transfers_requestShutdown _)
  · rw [World.endpoint_requestShutdown, if_pos asks]
  · rw [World.events_requestShutdown, World.shutdownEvents, if_pos asks]
    rfl

end DisconnectPoint

namespace Stage.Disconnects

variable {before middle : World} {cause : Option OfflineCause} {left : Nat} {next : Point}
  {stage : Stage Point Answer}

theorem passed (stands : stage.Disconnects before cause left) (duration : Nat) :
    (stage.within fun world => { world with clock := world.clock + duration }).Disconnects
      before cause left := by
  cases stands with
  | entering now => exact .entering (now + duration)
  | requesting now attached asks => exact .requesting (now + duration) attached asks
  | tearing attached torn => exact .tearing attached (torn.passed duration)
  | ended attached torn => exact .ended attached (torn.passed duration)
  | refused now noted detached => exact .refused (now + duration) noted detached

theorem broughtOn (stands : stage.Disconnects before cause left) {transfer : Nat}
    (own : before.transfers.length ≤ transfer) :
    (stage.within fun world => world.bringOn transfer).Disconnects before cause left := by
  cases stands with
  | entering now =>
      rw [within_bringOn_of_beyond own]
      exact .entering now
  | requesting now attached asks =>
      rw [within_bringOn_of_beyond own]
      exact .requesting now attached asks
  | tearing attached torn => exact .tearing attached (torn.bringOn own)
  | ended attached torn => exact .ended attached (torn.bringOn own)
  | refused now noted detached =>
      rw [within_bringOn_of_beyond own]
      exact .refused now noted detached

/-- Each step of its own brings a disconnection nearer to its end. -/
theorem resume (stands : (Stage.pause next middle).Disconnects before cause left)
    (known : ∀ transfer, next.obstacle = some (.transfer transfer) →
      (middle.outcome? transfer).isSome = true) :
    ∃ fewer, fewer < left ∧ (next.resume middle).Disconnects before cause fewer := by
  cases stands with
  | entering now => exact DisconnectPoint.disconnects_enter before cause now
  | requesting now attached asks =>
      exact ⟨1, by omega, DisconnectPoint.disconnects_request attached asks now⟩
  | tearing attached torn =>
      rcases torn.exists_teardown with ⟨teardown, found, ends⟩
      have ended := known before.transfers.length rfl
      have settled : middle.outcome? before.transfers.length =
          some (Endpoint.outcomeOf before.endpoint.teardownFault) := by
        simp only [World.outcome?, found, Option.bind_some] at ended ⊢
        cases teardown with
        | finished outcome => exact congrArg some ends
        | closing outcome due => cases ended
        | _ => cases ends
      simp only [Point.resume, DisconnectPoint.resume, settled, andThen_done]
      exact ⟨0, by omega, .ended attached torn.noteTeardown⟩

end Stage.Disconnects

/-- A disconnection that is left alone keeps to its stages. -/
theorem Point.Walks.disconnects {before : World} {cause : Option OfflineCause}
    {stage : Stage Point Answer}
    (walks : (Point.disconnecting (.entering cause)).Walks before stage) :
    ∃ left, stage.Disconnects before cause left := by
  induction walks with
  | begun => exact ⟨3, .entering before.clock⟩
  | passed earlier duration hypothesis =>
      rcases hypothesis with ⟨left, stands⟩
      exact ⟨left, stands.passed duration⟩
  | broughtOn earlier transfer own hypothesis =>
      rcases hypothesis with ⟨left, stands⟩
      exact ⟨left, stands.broughtOn own⟩
  | resumed earlier known hypothesis =>
      rcases hypothesis with ⟨left, stands⟩
      rcases stands.resume known with ⟨fewer, _, reached⟩
      exact ⟨fewer, reached⟩

/-! ## Disconnections come to their end -/

namespace Execution

variable {execution call : Execution} {number : Nat} {request : Request}
  {stage : Stage Point Answer} {cause : Option OfflineCause}

/-- The next step of a disconnection can be taken at once, or when its teardown has ended. -/
theorem HasLed.exists_ready {next : Point} {middle : World} {left : Nat}
    (led : execution.HasLed (entered number request) (.pause next middle) call)
    (stands : (Stage.pause next middle).Disconnects execution.world cause left) :
    ∃ waits later,
      (∀ move ∈ waits, move.isOf number execution.world.transfers.length = true) ∧
      execution.HasLed (entered number request) (.pause next later) (call.run waits) ∧
      (Stage.pause next later).Disconnects execution.world cause left ∧
      ∀ transfer, next.obstacle = some (.transfer transfer) →
        (later.outcome? transfer).isSome = true := by
  cases stands with
  | entering now =>
      refine ⟨[], _, by simp, led, .entering now, ?_⟩
      intro transfer waits
      cases waits
  | requesting now attached asks =>
      refine ⟨[], _, by simp, led, .requesting now attached asks, ?_⟩
      intro transfer waits
      cases waits
  | tearing attached torn =>
      rcases torn.exists_teardown with ⟨teardown, found, ends⟩
      cases teardown with
      | closing outcome due =>
          -- Time makes the end of the teardown due, and then it becomes known.
          have later := led.withWorld fun world => { world with clock := world.clock + due }
          refine ⟨[.pass due, .bringOn execution.world.transfers.length], _, ?_,
            later.withWorld fun world => world.bringOn execution.world.transfers.length,
            ((Stage.Disconnects.tearing attached torn).passed due).broughtOn (Nat.le_refl _), ?_⟩
          · simp [Move.isOf]
          · intro transfer waits
            cases waits
            exact Option.isSome_of_eq_some
              (World.outcome?_bringOn found (Nat.le_add_left due middle.clock))
      | finished outcome =>
          refine ⟨[], _, by simp, led, .tearing attached torn, ?_⟩
          intro transfer waits
          cases waits
          simp [World.outcome?, found, Transfer.outcome?]
      | _ => cases ends

/-- However far a disconnection has come, it can be carried to its end. -/
theorem HasLed.exists_end {left : Nat}
    (led : execution.HasLed (entered number request) stage call) (orderly : call.Orderly)
    (numbered : ∀ task ∈ execution.running, task.number < number)
    (stands : stage.Disconnects execution.world cause left) :
    ∃ rest, (∀ move ∈ rest, move.isOf number execution.world.transfers.length = true) ∧
      (call.run rest).task? number = none := by
  induction left using Nat.strongRecOn generalizing call stage with
  | ind left hypothesis =>
      cases stage with
      | done answer after => exact ⟨[], by simp, led.task?_of_done numbered⟩
      | pause next middle =>
          rcases led.exists_ready stands with ⟨waits, later, own, waited, stands, known⟩
          have order : (call.run waits).Orderly := orderly.run waits
          have ready : (call.run waits).isReady
              ({ entered number request with point := next } : Task) = true := by
            have world : (call.run waits).world = later := waited.world
            simp only [isReady]
            cases stands with
            | tearing attached torn =>
                simp only [Point.obstacle, DisconnectPoint.obstacle, isClear, world]
                exact known _ rfl
            | _ => rfl
          rcases stands.resume known with ⟨fewer, less, reached⟩
          have resumed := waited.resume order ready
          have steps : (call.run (waits ++ [.resume number])) =
              (call.run waits).apply (.resume number) := call.run_concat waits _
          rcases hypothesis fewer less (steps ▸ resumed) (orderly.run _) reached with
            ⟨rest, theirs, ended⟩
          refine ⟨waits ++ [.resume number] ++ rest, ?_, ?_⟩
          · intro move made
            simp only [List.mem_append, List.mem_singleton] at made
            rcases made with (early | rfl) | late
            · exact own move early
            · simp [Move.isOf]
            · exact theirs move late
          · rw [run_append]
            exact ended

end Execution

/-! ## What is left in the end -/

namespace World

/-- The warnings that come of a disconnection, the latest first. -/
def linkWarnings (world : World) : List Journal.Event :=
  (if world.node.longLived then []
    else (Link.surprise? world.endpoint.teardownFault).toList.map .teardownFailed) ++
  if world.asksToExit then
    (Link.surprise? world.endpoint.shutdownFault).toList.map .shutdownRequestFailed
  else []

/-- What a disconnection leaves. Whether the node has its endpoint or not, nothing changes about the
node, the provider and the agenda. -/
structure CutOff (before : World) (cause : Option OfflineCause) (after : World) : Prop where
  node : after.node = before.node
  provider : after.provider = before.provider
  agenda : after.agenda = before.agenda
  /-- A node with its endpoint is parted from its agent, with these events and these warnings. -/
  parted : before.node.attached = true → after.endpoint = before.endpointLeft cause ∧
    after.events = before.teardownEvent :: before.shutdownEvents ++ before.events ∧
    after.warnings = before.linkWarnings ++ before.warnings
  /-- Nothing happens to the endpoint and the link of a node that has lost it. -/
  stayed : before.node.attached = false → after.endpoint = before.endpoint ∧
    after.transfers = before.transfers ∧ after.events = .nothingToDisconnect :: before.events ∧
    after.warnings = before.warnings

variable {before after : World} {cause : Option OfflineCause}

theorem filter_teardownEvent (world : World) :
    [world.teardownEvent].filter (fun event => event.level = .warning) =
      if world.node.longLived then []
      else (Link.surprise? world.endpoint.teardownFault).toList.map .teardownFailed := by
  rcases failing : world.endpoint.teardownFault with _ | fault
  · simp [teardownEvent, failing, Link.surprise?, Journal.Event.level]
  · simp only [teardownEvent, failing, Link.surprise?_some]
    cases fault.isExpected <;> cases world.node.longLived <;> rfl

theorem filter_shutdownEvents (world : World) :
    world.shutdownEvents.filter (fun event => event.level = .warning) =
      if world.asksToExit then
        (Link.surprise? world.endpoint.shutdownFault).toList.map .shutdownRequestFailed
      else [] := by
  rcases asks : world.asksToExit with _ | _
  · simp [shutdownEvents, asks]
  · rcases failing : world.endpoint.shutdownFault with _ | fault
    · simp [shutdownEvents, asks, failing, Link.surprise?, Journal.Event.level]
    · simp only [shutdownEvents, asks, failing, Link.surprise?_some]
      cases fault.isExpected <;> rfl

theorem warnings_of_events
    (events : after.events = before.teardownEvent :: before.shutdownEvents ++ before.events) :
    after.warnings = before.linkWarnings ++ before.warnings := by
  have split : before.teardownEvent :: before.shutdownEvents ++ before.events =
      [before.teardownEvent] ++ before.shutdownEvents ++ before.events := rfl
  rw [warnings, events, split, List.filter_append, List.filter_append, filter_teardownEvent,
    filter_shutdownEvents]
  rfl

end World

namespace Stage.Disconnects

variable {before after : World} {cause : Option OfflineCause} {left : Nat} {answer : Answer}
  {stage : Stage Point Answer}

/-- On the way the endpoint is as it was until it is as the disconnection leaves it. By then the
request to the agent is in the journal. -/
theorem atOnce (stands : stage.Disconnects before cause left) :
    stage.world.endpoint = before.endpoint ∨
      (stage.world.endpoint = before.endpointLeft cause ∧
        before.shutdownEvents ++ before.events <:+ stage.world.events) := by
  cases stands with
  | entering now => exact .inl rfl
  | requesting now attached asks => exact .inl rfl
  | tearing attached torn =>
      exact .inr ⟨torn.endpoint, torn.events ▸ List.suffix_rfl⟩
  | ended attached torn =>
      refine .inr ⟨torn.endpoint, ?_⟩
      have events : _ = before.teardownEvent :: (before.shutdownEvents ++ before.events) :=
        torn.events
      exact events ▸ List.suffix_cons _ _
  | refused now noted detached => exact .inl rfl

theorem disconnected (stands : (Stage.done answer after).Disconnects before cause left) :
    answer = .nothing ∧ before.CutOff cause after ∧
      GoesOn before.transfers after.transfers := by
  cases stands with
  | ended attached torn =>
      rcases torn with ⟨node, provider, agenda, endpoint, events, teardown, transfers, ends⟩
      refine ⟨rfl, ⟨node, provider, agenda, fun _ =>
        ⟨endpoint, events, World.warnings_of_events events⟩, by simp [attached]⟩, ?_⟩
      have resting : teardown.isConnecting = false := by
        cases teardown with
        | closing outcome due => rfl
        | finished outcome => rfl
        | _ => cases ends
      rw [transfers]
      exact GoesOn.append_of_resting resting
  | refused now noted detached =>
      exact ⟨rfl, ⟨rfl, rfl, rfl, by simp [detached], fun _ => ⟨rfl, rfl, rfl, rfl⟩⟩, .refl _⟩

end Stage.Disconnects

/-! ## Nodes without their endpoint -/

/-- To tear the channel down on a node that has lost its endpoint takes one step, which changes
nothing. -/
theorem Point.Walks.stays {before : World} {cause : Option OfflineCause}
    {stage : Stage Point Answer} (detached : before.node.attached = false)
    (walks : (Point.tearingDown cause).Walks before stage) :
    ∃ now, stage = .pause (.tearingDown cause) { before with clock := now } ∨
      stage = .done .nothing { before with clock := now } := by
  induction walks with
  | begun => exact ⟨before.clock, .inl rfl⟩
  | passed earlier duration hypothesis =>
      rcases hypothesis with ⟨now, rfl | rfl⟩
      · exact ⟨now + duration, .inl rfl⟩
      · exact ⟨now + duration, .inr rfl⟩
  | broughtOn earlier transfer own hypothesis =>
      rcases hypothesis with ⟨now, rfl | rfl⟩
      · exact ⟨now, .inl (Stage.within_bringOn_of_beyond own)⟩
      · exact ⟨now, .inr (Stage.within_bringOn_of_beyond own)⟩
  | resumed earlier known hypothesis =>
      rcases hypothesis with ⟨now, stands | stands⟩
      · cases stands
        have still : ({ before with clock := now } : World).node.attached = false := detached
        refine ⟨now, .inr ?_⟩
        rw [resume, DisconnectPoint.enterTeardown_of_detached still, Stage.andThen_done]
      · cases stands

/-! ## The main result -/

namespace Point

/-- Time does not run back while a call is left alone. -/
theorem Walks.clock_le {point : Point} {before : World} {stage : Stage Point Answer}
    (walks : point.Walks before stage) : before.clock ≤ stage.world.clock := by
  induction walks with
  | begun => exact Nat.le_refl _
  | @resumed next middle earlier known since =>
      rw [next.clock_resume middle]
      exact since
  | @passed stage earlier duration since =>
      cases stage <;> exact Nat.le_trans since (Nat.le_add_right _ _)
  | @broughtOn stage earlier transfer own since =>
      have same := stage.world.clock_bringOn transfer
      cases stage <;> exact Nat.le_trans since (Nat.le_of_eq same.symm)

end Point

/-- Nothing comes of a request to tear the channel down, nor of anything else that would have to
reach the endpoint. -/
structure Execution.Detached (before : Execution) (number : Nat) (cause : Option OfflineCause)
    (call : Execution) : Prop where
  tornDown : call.task? number = none → ∃ now,
    before.Answered number (.tearDown cause) .nothing now call ∧
    call.world = { before.world with clock := now }
  takenOffline : ∀ cause, before.world.takeOffline cause = before.world
  broughtOnline : before.world.bringOnline = before.world
  unconnected : ∀ explicit, before.world.connect? explicit = none

namespace Outset

/-- **To disconnect is best effort, and warns of what is news.** Take any execution that can be
reached, and let somebody disconnect and be left alone:

* However far it has come, it can be carried to its end.
* On the way the endpoint is as it was until it is as the disconnection leaves it. By then the
  request to the agent, if there was to be one, is in the journal.
* When it has ended, nothing else that was under way has moved, and the world is as a disconnection
  leaves it, with the warnings of a disconnection and no others.
* On a node without its endpoint, a request to tear the channel down, to take the node offline, to
  bring it online or to connect changes nothing. -/
theorem disconnects_at_best_effort (outset : Outset) (moves : List Move) {number : Nat}
    (cause : Option OfflineCause) {steps : List Move}
    (fresh : (outset.execution.run moves).nextNumber ≤ number)
    (held : (outset.execution.run moves).world.node.held = true)
    (alone : ∀ move ∈ steps,
      move.isOf number (outset.execution.run moves).world.transfers.length = true) :
    let before := outset.execution.run moves
    let call := outset.execution.run (moves ++ .start number (.disconnect cause) :: steps)
    (∃ rest, (∀ move ∈ rest, move.isOf number before.world.transfers.length = true) ∧
      (call.run rest).task? number = none) ∧
    (call.world.endpoint = before.world.endpoint ∨
      (call.world.endpoint = before.world.endpointLeft cause ∧
        before.world.shutdownEvents ++ before.world.events <:+ call.world.events)) ∧
    (call.task? number = none → ∃ now,
      before.Answered number (.disconnect cause) .nothing now call ∧
      before.world.CutOff cause call.world) ∧
    (before.world.node.attached = false → before.Detached number cause
      (outset.execution.run (moves ++ .start number (.tearDown cause) :: steps))) := by
  intro before call
  have orderly : before.Orderly := (outset.sound_run moves).orderly
  have whole : call = before.run (.start number (.disconnect cause) :: steps) :=
    outset.execution.run_append moves _
  have order : call.Orderly := whole ▸ orderly.run _
  have numbered : ∀ task ∈ before.running, task.number < number := fun task among =>
    Nat.lt_of_lt_of_le (orderly.numbered task among) fresh
  rcases before.run_left_alone (.disconnect cause) orderly fresh held alone with
    ⟨stage, walks, led⟩
  rw [← whole] at led
  rcases walks.disconnects with ⟨left, stands⟩
  refine ⟨led.exists_end order numbered stands, ?_, ?_, ?_⟩
  · rw [led.world]
    exact stands.atOnce
  · intro ended
    rcases led.exists_done order ended with ⟨answer, rfl⟩
    rcases stands.disconnected with ⟨rfl, disconnected, goesOn⟩
    exact ⟨_, led.answered_of_done walks.clock_le goesOn, disconnected⟩
  · intro detached
    have parts : outset.execution.run (moves ++ .start number (.tearDown cause) :: steps) =
        before.run (.start number (.tearDown cause) :: steps) :=
      outset.execution.run_append moves _
    rw [parts]
    refine ⟨?_, ?_, ?_, ?_⟩
    · intro ended
      rcases before.run_left_alone (.tearDown cause) orderly fresh held alone with
        ⟨stage, walks, led⟩
      rcases led.exists_done (orderly.run _) ended with ⟨answer, rfl⟩
      rcases walks.stays detached with ⟨now, stands | stands⟩
      · cases stands
      · rcases Stage.done.inj stands with ⟨rfl, world⟩
        have transfers := congrArg World.transfers world
        have answered := led.answered_of_done walks.clock_le (transfers ▸ .refl _)
        have clock : _ = now := congrArg World.clock world
        rw [clock] at answered
        exact ⟨now, answered, world⟩
    · intro cause
      exact if_neg (by simp [detached])
    · exact if_neg (by simp [detached])
    · intro explicit
      exact if_neg (by simp [detached])

/-- A node whose agent lives on by itself. -/
def livingOn : Outset :=
  { plain with definition := { name := "node", longLivedAgent := true } }

/-- Both the request to such an agent and the teardown fail, for reasons that are no part of an
exit. The channel is gone all the same, and only the failure of the request is a warning. Once the
node is retired, a connection cannot even be started. -/
theorem disconnects_at_best_effort_livingOn : ∃ after : Execution,
    livingOn.execution.run
        ([.happen (.failShutdown (.io "broken pipe")), .happen (.failTeardown .crashed)] ++
          .start 0 (.disconnect none) :: List.replicate 3 (.resume 0)) = after ∧
      after.reports.map Report.answer = [.nothing] ∧
      after.world.endpoint.channelPresent = false ∧
      after.world.endpoint.shutdownCalls = 1 ∧ after.world.endpoint.teardownCalls = 1 ∧
      after.world.warnings = [.shutdownRequestFailed (.io "broken pipe")] ∧
      (livingOn.execution.run [.retire]).world.connect? true = none := by
  have alone : ∀ move ∈ List.replicate 3 (Move.resume 0), move.isOf 0 0 = true := by decide
  rcases (livingOn.disconnects_at_best_effort
    [.happen (.failShutdown (.io "broken pipe")), .happen (.failTeardown .crashed)] none
    (Nat.le_refl 0) rfl alone).2.2.1 rfl with ⟨now, answered, left⟩
  rcases left.parted rfl with ⟨endpoint, events, warnings⟩
  have retired := (livingOn.disconnects_at_best_effort [.retire] none (Nat.le_refl 0) rfl
    alone).2.2.2 rfl
  exact ⟨_, rfl, congrArg (List.map Report.answer) answered.reports,
    congrArg Endpoint.channelPresent endpoint, congrArg Endpoint.shutdownCalls endpoint,
    congrArg Endpoint.teardownCalls endpoint, warnings, retired.unconnected true⟩

end Outset

end BuildAgent
