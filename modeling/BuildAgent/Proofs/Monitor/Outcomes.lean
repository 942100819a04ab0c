import BuildAgent.Proofs.Monitor.Looks
import BuildAgent.Proofs.Reboot.Machine
import BuildAgent.Proofs.Schedule.Agenda
import BuildAgent.Proofs.Task.Calls
import BuildAgent.Proofs.Task.Past

/-!
# What a look sees and what belongs to its outcome

`World.sight` is what a look of the monitor goes by, and `World.sighted` the world once it has been
seen: without an attempt the cache is refreshed first. `LookOutcome.carryOut` says for each outcome
what is done then to the session, the endpoint, the agenda and the transfers. Both are written
without the journal, so what a look does is compared with them apart from the journal
(`World.bare`). `LookOutcome.Touches` says what that is field by field: which connections are made,
what is entered in the agenda, and how the endpoint is marked.

`World.FollowsMachine` puts the two together with the state machine: the look took a step of the
machine, and did what belongs to its outcome. What a look decides on an attempt follows the machine
(`LookPoint.follows_begin`), and so does what it decides on a snapshot
(`LookPoint.follows_afterFetch`).
-/

namespace BuildAgent

/-! ## What a look sees and does -/

namespace World

/-- Schedules the next look of a session, without a line in the journal. -/
def book (world : World) (session delay : Nat) : World :=
  { world with agenda := world.agenda.schedule world.clock delay session }

/-- Sets the temporarily-offline flag of the endpoint with its cause, or clears both. -/
def mark (world : World) (offline : Bool) (cause : Option OfflineCause) : World :=
  { world with endpoint := world.endpoint.mark offline cause }

/-- The world after a forced fetch: the instance behind the node was described once, if there is
one, and an answer is kept. -/
def refreshed (world : World) : World :=
  match world.node.capacity.bound? with
  | none => world
  | some instanceId =>
    let reply := world.provider.describe [instanceId]
    let entry := match reply.answer with
      | .ok found => ⟨found.head?, some world.clock⟩
      | .error _ => world.node.entry
    { world with provider := reply.provider, node := { world.node with entry } }

/-- The world once a look has seen what it goes by. Without an attempt the cache was refreshed, and
an attempt that has ended is no longer held. -/
def sighted (world : World) : World :=
  match world.node.session.attempt with
  | none => world.refreshed
  | some attempt =>
    match world.outcome? attempt with
    | none => world
    | some _ => world.withSession fun record => { record with attempt := none }

/-- What a look sees in a world with an endpoint. -/
def sight (world : World) : Reboot.Sight where
  alive := world.refreshed.node.entry.snapshot.any Snapshot.isAlive
  attemptEnded := world.node.session.attempt.any fun attempt => (world.outcome? attempt).isSome
  channelPresent := world.endpoint.channelPresent
  cause := world.endpoint.cause

end World

/-- What a look with an outcome does to a world, but for the journal. -/
def LookOutcome.carryOut (session : Nat) (world : World) : LookOutcome → World
  | superseded => world
  | attemptStarted =>
    let (attempt, connecting) := world.startConnection false
    (connecting.withSession fun record => { record with attempt := some attempt }).book session
      world.node.timings.reboot.pendingRecheck
  | pending => world.book session world.node.timings.reboot.pendingRecheck
  | online => (world.mark false none).withSession .close
  | retryScheduled =>
    ((world.withSession .recordFailure).mark true (some (.reboot session))).book session
      world.node.timings.reboot.initialDelay
  | abandoned _ => world.withSession .close

/-- What a look with an outcome touches of the endpoint, the transfers and the agenda. -/
inductive LookOutcome.Touches (session : Nat) (before after : World) : LookOutcome → Prop where
  /-- A look that finds its session over, or ends it without a connection, touches nothing. -/
  | nothing {outcome : LookOutcome}
      (ends : outcome = .superseded ∨ ∃ reason, outcome = .abandoned reason)
      (endpoint : after.endpoint = before.endpoint)
      (transfers : after.transfers = before.transfers) (agenda : after.agenda = before.agenda) :
      Touches session before after outcome
  /-- An attempt whose connection takes time is one more transfer, which the session holds. -/
  | dialed {delay : Nat} {rest : List Nat} (waits : before.latencies.connect = delay :: rest)
      (endpoint : after.endpoint = before.endpoint)
      (transfers : after.transfers =
        before.transfers ++ [.dialing false (before.clock + delay)])
      (held : after.node.session.attempt = some before.transfers.length)
      (entered : Schedule.Agenda.Enters before.clock before.node.timings.reboot.pendingRecheck
        session before.agenda after.agenda) :
      Touches session before after .attemptStarted
  /-- An attempt that reaches the endpoint at once is one call to connect besides. -/
  | connected (prompt : before.latencies.connect = [])
      (calls : after.endpoint.connectCalls = before.endpoint.connectCalls + 1)
      (flag : after.endpoint.temporarilyOffline = before.endpoint.temporarilyOffline)
      (endpoint : after.endpoint = before.endpoint.connect.2)
      (transfers : after.transfers =
        before.transfers ++ [before.endpoint.connect.1.elim .hanging .finished])
      (held : after.node.session.attempt = some before.transfers.length)
      (entered : Schedule.Agenda.Enters before.clock before.node.timings.reboot.pendingRecheck
        session before.agenda after.agenda) :
      Touches session before after .attemptStarted
  /-- An attempt that is under way is looked at again later. -/
  | pending (endpoint : after.endpoint = before.endpoint)
      (transfers : after.transfers = before.transfers)
      (entered : Schedule.Agenda.Enters before.clock before.node.timings.reboot.pendingRecheck
        session before.agenda after.agenda) :
      Touches session before after .pending
  /-- The mark of the endpoint is cleared, flag and cause. -/
  | online (endpoint : after.endpoint =
        { before.endpoint with temporarilyOffline := false, cause := none })
      (transfers : after.transfers = before.transfers) (agenda : after.agenda = before.agenda) :
      Touches session before after .online
  /-- The mark of the endpoint is set again, and the next look comes after the initial delay. -/
  | retried (endpoint : after.endpoint =
        { before.endpoint with temporarilyOffline := true, cause := some (.reboot session) })
      (transfers : after.transfers = before.transfers)
      (entered : Schedule.Agenda.Enters before.clock before.node.timings.reboot.initialDelay
        session before.agenda after.agenda) :
      Touches session before after .retryScheduled

/-! ## The journal has no part in it -/

namespace World

variable {world : World}

@[simp]
theorem bare_note (event : Journal.Event) : (world.note event).bare = world.bare := rfl

@[simp]
theorem bare_withSession (change : Reboot.Session → Reboot.Session) :
    (world.withSession change).bare = world.bare.withSession change := rfl

@[simp]
theorem bare_book (session delay : Nat) :
    (world.book session delay).bare = world.bare.book session delay := rfl

@[simp]
theorem bare_mark (offline : Bool) (cause : Option OfflineCause) :
    (world.mark offline cause).bare = world.bare.mark offline cause := rfl

@[simp]
theorem bare_scheduleMonitor (session delay : Nat) :
    (world.scheduleMonitor session delay).bare = world.bare.book session delay := rfl

theorem bare_takeOffline (attached : world.node.attached = true) (cause : OfflineCause) :
    (world.takeOffline cause).bare = world.bare.mark true (some cause) := by
  rw [takeOffline, if_pos attached]
  rfl

theorem bare_bringOnline (attached : world.node.attached = true) :
    world.bringOnline.bare = world.bare.mark false none := by
  rw [bringOnline, if_pos attached]
  rfl

theorem node_of_bare {other : World} (alike : world.bare = other.bare) : world.node = other.node :=
  show world.bare.node = other.bare.node from congrArg World.node alike

theorem endpoint_of_bare {other : World} (alike : world.bare = other.bare) :
    world.endpoint = other.endpoint :=
  show world.bare.endpoint = other.bare.endpoint from congrArg World.endpoint alike

theorem transfers_of_bare {other : World} (alike : world.bare = other.bare) :
    world.transfers = other.transfers :=
  show world.bare.transfers = other.bare.transfers from congrArg World.transfers alike

theorem agenda_of_bare {other : World} (alike : world.bare = other.bare) :
    world.agenda = other.agenda :=
  show world.bare.agenda = other.bare.agenda from congrArg World.agenda alike

theorem frame_refreshed (world : World) : world.refreshed = { world with
    provider := world.refreshed.provider
    node := { world.node with entry := world.refreshed.node.entry } } := by
  simp only [refreshed]
  split <;> rfl

/-- What a look sees changes nothing but the provider and the node, and no setting of the node. -/
theorem sighted_eq (world : World) : ∃ provider node,
    world.sighted = { world with provider, node } ∧ node.timings = world.node.timings := by
  rcases held : world.node.session.attempt with _ | attempt
  · refine ⟨world.refreshed.provider,
      { world.node with entry := world.refreshed.node.entry }, ?_, rfl⟩
    simp only [sighted, held]
    exact world.frame_refreshed
  · rcases ended : world.outcome? attempt with _ | outcome
    · refine ⟨world.provider, world.node, ?_, rfl⟩
      simp only [sighted, held, ended]
    · refine ⟨world.provider,
        { world.node with session := { world.node.session with attempt := none } }, ?_, rfl⟩
      simp only [sighted, held, ended]
      rfl

/-- A refresh makes one call if there is an instance to describe, and none otherwise. -/
theorem calls_refreshed (world : World) : world.refreshed.provider.calls = Provider.keepCall?
    (world.node.capacity.bound?.map Provider.Call.describing) world.provider.calls := by
  simp only [refreshed]
  split
  · rename_i unbound
    rw [unbound]
    rfl
  · rename_i instanceId bound
    rw [bound]
    exact world.provider.calls_describe [instanceId]

/-- Without an attempt nothing is broken off. -/
theorem closeSession_of_idle (idle : world.node.session.attempt = none) :
    world.closeSession = world.withSession .close := by
  rw [closeSession, abortAttempt, idle]

theorem bare_ask {α : Type} (world : World) (call : Provider → Provider.Reply α) :
    (world.ask call).2.bare = { world.bare with provider := (call world.provider).provider } := by
  simp only [ask]
  split <;> rfl

theorem bare_startConnection (world : World) (explicit : Bool) :
    (world.bare.startConnection explicit).1 = (world.startConnection explicit).1 ∧
      (world.bare.startConnection explicit).2.bare = (world.startConnection explicit).2.bare := by
  have connected : (world.bare.under ⟨world.journal, none⟩).startConnection explicit = _ :=
    world.bare.startConnection_under world.journal explicit
  have same : world.bare.under ⟨world.journal, none⟩ = world := rfl
  rw [same] at connected
  rw [connected]
  exact ⟨rfl, rfl⟩

end World

theorem LookOutcome.bare_carryOut (outcome : LookOutcome) (session : Nat) {world other : World}
    (alike : world.bare = other.bare) :
    (outcome.carryOut session world).bare = (outcome.carryOut session other).bare := by
  have moved : ∀ world : World, (outcome.carryOut session world).bare =
      (outcome.carryOut session world.bare).bare := by
    intro world
    cases outcome with
    | attemptStarted =>
        rcases world.bare_startConnection false with ⟨number, connected⟩
        simp only [carryOut, World.bare_book, World.bare_withSession, number, connected]
        rfl
    | _ => rfl
  rw [moved world, moved other, alike]

/-- A world that is left as the outcome wants it was touched as the outcome says. -/
theorem LookOutcome.touches_of_carried (outcome : LookOutcome) {session : Nat}
    {before after : World}
    (carried : after.bare = (outcome.carryOut session before.sighted).bare) :
    outcome.Touches session before after := by
  have endpoint := World.endpoint_of_bare carried
  have transfers := World.transfers_of_bare carried
  have agenda := World.agenda_of_bare carried
  have record := congrArg Node.session (World.node_of_bare carried)
  rcases before.sighted_eq with ⟨provider, node, sighted, timings⟩
  rw [sighted] at endpoint transfers agenda record
  have entered (delay : Nat) := before.agenda.enters_schedule before.clock delay session
  cases outcome with
  | superseded => exact .nothing (.inl rfl) endpoint transfers agenda
  | abandoned reason => exact .nothing (.inr ⟨reason, rfl⟩) endpoint transfers agenda
  | online => exact .online endpoint transfers agenda
  | pending =>
      refine .pending endpoint transfers ?_
      rw [agenda, ← timings]
      exact entered _
  | retryScheduled =>
      refine .retried endpoint transfers ?_
      rw [agenda, ← timings]
      exact entered _
  | attemptStarted =>
      let seen : World := { before with provider, node }
      have clock := seen.clock_startConnection false
      rcases seen.startConnection_eq false with ⟨number, _, waiting, _⟩
      simp only [carryOut, World.book, World.withSession, World.withNode]
        at endpoint transfers agenda
      have booked : Schedule.Agenda.Enters before.clock
          before.node.timings.reboot.pendingRecheck session before.agenda after.agenda := by
        rw [agenda, waiting, clock, ← timings]
        exact entered _
      have held : after.node.session.attempt = some before.transfers.length := by
        rw [record]
        exact congrArg some number
      rcases seen.startConnection_cases false with
        ⟨delay, rest, waits, kept, appended⟩ | ⟨prompt, reached, appended⟩
      · rw [kept] at endpoint
        rw [appended] at transfers
        exact .dialed waits endpoint transfers held booked
      · rw [reached] at endpoint
        rw [appended] at transfers
        rcases before.endpoint.counted_connect with ⟨calls, flag⟩
        exact .connected prompt (endpoint ▸ calls) (endpoint ▸ flag) endpoint transfers held booked

namespace LookPoint

variable {world : World} {session : Nat} {observation : Reboot.Observation}

theorem bare_abandon (idle : world.node.session.attempt = none) (reason : Reboot.AbandonReason) :
    (abandon session reason world).2.bare = (world.withSession .close).bare := by
  simp only [abandon, World.closeSession_of_idle idle]
  rfl

/-- On a node with an endpoint an attempt can be started. -/
theorem act_of_rebooting (attached : world.node.attached = true) :
    act session (.idle true true) world =
      let connected := (world.note (.startingConnection false)).startConnection false
      let noted := connected.2.note (.attemptStarted session)
      (.attemptStarted, (noted.withSession fun record =>
        { record with attempt := some connected.1 }).scheduleMonitor session
          world.node.timings.reboot.pendingRecheck) := by
  have decided : act session (.idle true true) world =
      startAttempt session world.node.timings.reboot.pendingRecheck world := rfl
  rw [decided, startAttempt, World.connect?, if_pos attached]

/-- What a look decides on it carries out. -/
theorem bare_act (attached : world.node.attached = true)
    (idle : observation ≠ .attemptPending → world.node.session.attempt = none) :
    (act session observation world).2.bare =
      ((act session observation world).1.carryOut session world).bare := by
  cases observation with
  | idle alive stillRebooting =>
      have none_held := idle nofun
      cases alive with
      | false => exact bare_abandon none_held _
      | true =>
          cases stillRebooting with
          | false => exact bare_abandon none_held _
          | true =>
              rw [act_of_rebooting attached, LookOutcome.bare_carryOut .attemptStarted session
                (World.bare_note (.startingConnection false)).symm]
              rfl
  | attemptPending => rfl
  | attemptFinished present cause =>
      have none_held := idle nofun
      cases present with
      | true =>
          have closed : world.bringOnline.closeSession = world.bringOnline.withSession .close :=
            World.closeSession_of_idle (by simpa using none_held)
          simp only [act, Reboot.Policy.decide, closed, World.bare_note, World.bare_withSession,
            World.bare_bringOnline attached, LookOutcome.carryOut, World.bare_mark]
      | false =>
          rcases world.node.timings.reboot.decide_of_absent cause
            world.node.session.launchFailures with retried | ⟨reason, given, _⟩
          · simp only [act, retried, retryLaunch, World.bare_scheduleMonitor]
            rw [World.bare_takeOffline (by simpa using attached)]
            rfl
          · simp only [act, given]
            exact bare_abandon none_held _

theorem machine_act (attached : world.node.attached = true)
    (idle : observation ≠ .attemptPending → world.node.session.attempt = none) :
    (act session observation world).2.node.session.machine =
      ((act session observation world).1.carryOut session world).node.session.machine := by
  rw [World.node_of_bare (bare_act attached idle)]

end LookPoint

/-! ## A look takes a step of the machine -/

theorem Reboot.Session.active_of_isCurrent {record : Session} {session : Nat}
    (current : record.isCurrent session = true) : record.active = true := by
  simp only [isCurrent, Bool.and_eq_true] at current
  exact current.1

theorem OfflineCause.any_isRebootFor {cause : Option OfflineCause} {session : Nat} :
    (cause.any fun cause => cause.isRebootFor session) = true ↔ cause = some (.reboot session) := by
  rcases cause with _ | cause
  · simp
  · cases cause <;> simp [isRebootFor]

/-- Whether a look with an outcome took a step of the machine, and did to the world what belongs to
its outcome. -/
structure World.FollowsMachine (session : Nat) (before : World) (outcome : LookOutcome)
    (after : World) : Prop where
  step : Reboot.Machine.Step before.node.timings.reboot session before.sight
    before.node.session.machine outcome after.node.session.machine
  carried : after.bare = (outcome.carryOut session before.sighted).bare

namespace LookPoint

variable {world : World} {sight : Reboot.Sight}

/-- What a look decides while its session waits is what the machine does. -/
theorem step_idle (session : Nat) (attached : world.node.attached = true)
    (live : world.node.session.active = true) (idle : world.node.session.attempt = none)
    {alive stillRebooting : Bool} (seen : sight.alive = alive)
    (own : sight.cause = some (.reboot session) ↔ stillRebooting = true) :
    Reboot.Machine.Step world.node.timings.reboot session sight
      (.awaitingReboot world.node.session.launchFailures)
      (act session (.idle alive stillRebooting) world).1
      (act session (.idle alive stillRebooting) world).2.node.session.machine := by
  rw [machine_act attached fun _ => idle]
  cases alive with
  | false => exact .gone seen
  | true =>
      cases stillRebooting with
      | false => exact .ousted seen (by simpa using own)
      | true =>
          have stands : (LookOutcome.carryOut session world .attemptStarted).node.session.machine =
              .attemptInFlight world.node.session.launchFailures
                (world.startConnection false).1 := by
            simp [LookOutcome.carryOut, World.book, Reboot.Session.machine,
              (world.startConnection_eq false).2.1, live]
          rw [act_of_rebooting attached, stands]
          exact .started _ seen (own.mpr rfl)

/-- What a look decides once an attempt has ended is what the machine does. -/
theorem step_finished (session : Nat) (attached : world.node.attached = true)
    (live : world.node.session.active = true) (idle : world.node.session.attempt = none)
    (ended : sight.attemptEnded = true) (attempt : Nat) :
    Reboot.Machine.Step world.node.timings.reboot session sight
      (.attemptInFlight world.node.session.launchFailures attempt)
      (act session (.attemptFinished sight.channelPresent sight.cause) world).1
      (act session (.attemptFinished sight.channelPresent sight.cause)
        world).2.node.session.machine := by
  rw [machine_act attached fun _ => idle]
  rcases present : sight.channelPresent with _ | _
  · by_cases failed : ∃ reason, sight.cause = some (.launchFailed reason)
    · rcases failed with ⟨reason, failed⟩
      rcases spent : world.node.timings.reboot.isExhausted
        (Reboot.countFailure world.node.session.launchFailures) with _ | _
      · have stands : (LookOutcome.carryOut session world .retryScheduled).node.session.machine =
            .awaitingReboot (Reboot.countFailure world.node.session.launchFailures) := by
          simp [LookOutcome.carryOut, World.book, World.mark, Reboot.Session.machine,
            Reboot.Session.recordFailure, live, idle]
        simp only [act, failed, Reboot.Policy.decide_of_spare spent, retryLaunch]
        rw [stands]
        exact .retried ended present failed (Reboot.Policy.isExhausted_eq_false_iff.mp spent)
      · rcases Reboot.Policy.isExhausted_iff.mp spent with ⟨limit, limited, reached⟩
        simp only [act, failed, Reboot.Policy.decide_of_spent spent, abandon]
        exact .exhausted ended present failed limited reached
    · have other : ∀ reason, sight.cause ≠ some (.launchFailed reason) :=
        fun reason same => failed ⟨reason, same⟩
      simp only [act, Reboot.Policy.decide_of_other other, abandon]
      exact .refused ended present other
  · exact .online ended present

variable {session : Nat}

section Begin

variable (current : world.node.session.isCurrent session = true)
  (managed : world.node.retired = false) (attached : world.node.attached = true)

include current managed attached

theorem begin_of_idle (idle : world.node.session.attempt = none) :
    begin session world = .pause (.refreshing (.waiting true)) world := by
  simp only [begin, current, managed, attached, idle]
  rfl

theorem begin_of_pending {attempt : Nat} (busy : world.node.session.attempt = some attempt)
    (known : world.outcome? attempt = none) : begin session world =
      .done (act session .attemptPending world).1 (act session .attemptPending world).2 := by
  simp only [begin, current, managed, attached, busy, known]
  rfl

theorem begin_of_ended {attempt : Nat} {ended : Link.Outcome}
    (busy : world.node.session.attempt = some attempt)
    (known : world.outcome? attempt = some ended) :
    let taken := takeAttempt ended world
    let decided := act session (.attemptFinished taken.isChannelPresent taken.offlineCause) taken
    begin session world = .done decided.1 decided.2 := by
  simp only [begin, current, managed, attached, busy, known]
  rfl

end Begin

/-- A look that finds an attempt under way leaves it alone. -/
theorem follows_pending {attempt : Nat} (live : world.node.session.active = true)
    (busy : world.node.session.attempt = some attempt) (known : world.outcome? attempt = none) :
    world.FollowsMachine session (act session .attemptPending world).1
      (act session .attemptPending world).2 := by
  have stands : world.node.session.machine =
      .attemptInFlight world.node.session.launchFailures attempt := by
    simp [Reboot.Session.machine, live, busy]
  have underWay : world.sight.attemptEnded = false := by
    simp [World.sight, busy, known]
  constructor
  · have same : (act session .attemptPending world).2.node = world.node := rfl
    rw [same, stands]
    exact .pending underWay
  · simp only [World.sighted, busy, known]
    rfl

/-- A look that finds an attempt that has ended takes it out and decides by the endpoint. -/
theorem follows_ended {attempt : Nat} {ended : Link.Outcome}
    (live : world.node.session.active = true) (attached : world.node.attached = true)
    (busy : world.node.session.attempt = some attempt)
    (known : world.outcome? attempt = some ended) :
    let taken := takeAttempt ended world
    let decided := act session (.attemptFinished taken.isChannelPresent taken.offlineCause) taken
    world.FollowsMachine session decided.1 decided.2 := by
  intro taken decided
  have stands : world.node.session.machine =
      .attemptInFlight world.node.session.launchFailures attempt := by
    simp [Reboot.Session.machine, live, busy]
  have sighted : taken.bare = world.sighted.bare := by
    simp only [World.sighted, busy, known, taken]
    cases ended <;> rfl
  have node : taken.node =
      { world.node with session := { world.node.session with attempt := none } } :=
    (frame_takeAttempt ended world).1
  have still : taken.node.attached = true := by rw [node, attached]
  have idle : taken.node.session.attempt = none := by rw [node]
  have channel : taken.isChannelPresent = world.sight.channelPresent := by
    simp [World.isChannelPresent, World.sight, attached, taken]
  have cause : taken.offlineCause = world.sight.cause := by
    simp [World.offlineCause, World.sight, attached, taken]
  have closed : world.sight.attemptEnded = true := by
    simp [World.sight, busy, known]
  constructor
  · have step := step_finished session still (by rw [node, live]) idle closed attempt
    rw [← channel, ← cause, node] at step
    rw [stands]
    exact step
  · exact (bare_act still fun _ => idle).trans (LookOutcome.bare_carryOut _ session sighted)

/-- A look that finds an attempt decides at once. -/
theorem follows_begin {attempt : Nat} (current : world.node.session.isCurrent session = true)
    (managed : world.node.retired = false) (attached : world.node.attached = true)
    (busy : world.node.session.attempt = some attempt) :
    ∃ outcome after, begin session world = .done outcome after ∧
      world.FollowsMachine session outcome after := by
  have live := Reboot.Session.active_of_isCurrent current
  rcases known : world.outcome? attempt with _ | ended
  · exact ⟨_, _, begin_of_pending current managed attached busy known,
      follows_pending live busy known⟩
  · exact ⟨_, _, begin_of_ended current managed attached busy known,
      follows_ended live attached busy known⟩

/-- A look that has refreshed the cache decides on the snapshot that it found. -/
theorem follows_afterFetch {middle : World} (live : world.node.session.active = true)
    (attached : world.node.attached = true) (idle : world.node.session.attempt = none)
    (refreshed : middle.bare = world.refreshed.bare) :
    ∃ outcome after, afterFetch session middle.node.entry.snapshot middle = .done outcome after ∧
      world.FollowsMachine session outcome after := by
  refine ⟨_, _, rfl, ?_⟩
  have stands : world.node.session.machine =
      .awaitingReboot world.node.session.launchFailures := by
    simp [Reboot.Session.machine, live, idle]
  have sighted : middle.bare = world.sighted.bare := by
    simp only [World.sighted, idle]
    exact refreshed
  have node : middle.node = { world.node with entry := world.refreshed.node.entry } := by
    rw [World.node_of_bare refreshed, World.frame_refreshed]
  have endpoint : middle.endpoint = world.endpoint := by
    rw [World.endpoint_of_bare refreshed, World.frame_refreshed]
  have still : middle.node.attached = true := by rw [node, attached]
  have none_held : middle.node.session.attempt = none := by rw [node, idle]
  have alive : world.sight.alive = middle.node.entry.snapshot.any Snapshot.isAlive := by
    rw [node]
    rfl
  have cause : middle.offlineCause = world.sight.cause := by
    rw [World.offlineCause, if_pos still, endpoint]
    rfl
  constructor
  · have own : world.sight.cause = some (.reboot session) ↔
        (middle.offlineCause.any fun cause => cause.isRebootFor session) = true := by
      rw [← cause]
      exact OfflineCause.any_isRebootFor.symm
    have step := step_idle session still (by rw [node, live]) none_held alive own
    have policy : middle.node.timings = world.node.timings := by rw [node]
    have failures : middle.node.session.launchFailures = world.node.session.launchFailures := by
      rw [node]
    rw [policy, failures] at step
    rw [stands]
    exact step
  · exact (bare_act still fun _ => none_held).trans (LookOutcome.bare_carryOut _ session sighted)

end LookPoint

end BuildAgent
