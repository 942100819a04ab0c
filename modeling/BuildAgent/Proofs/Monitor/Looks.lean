import BuildAgent.Proofs.Reboot.Policy
import BuildAgent.Proofs.Task.Deeds
import BuildAgent.Proofs.Task.Locks
import BuildAgent.Proofs.World.Sessions

/-!
# What a look of the reboot monitor does

A look that finds its session live ends in one of four ways (`LookPoint.Effect`): the session is
closed, an attempt is started, the attempt under way is left alone, or an attempt that failed to
launch is put aside. In all but the first the next look is scheduled.
-/

namespace BuildAgent

/-- How a failed launch is put aside: the session holds no attempt any more, the node is marked as
rebooting again, and no channel is present. -/
structure World.Retries (session : Nat) (before after : World) : Prop where
  generation : after.node.session.generation = before.node.session.generation
  active : after.node.session.active = before.node.session.active
  attempt : after.node.session.attempt = none
  agenda : ∃ now delay, after.agenda = before.agenda.schedule now delay session
  standing : after.node.standing = before.node.standing
  transfers : after.transfers = before.transfers
  endpoint : after.endpoint = before.endpoint.mark true (some (.reboot session))
  channel : before.endpoint.channelPresent = false

namespace LookPoint

/-- What a look does to a live session. -/
inductive Effect (session : Nat) (before after : World) : LookOutcome → Prop where
  | closed (outcome : LookOutcome) (resets : before.Resets .close after) :
      Effect session before after outcome
  | started (attempt : Nat) (idle : before.node.session.attempt = none)
      (attempts : before.Attempts session attempt after) :
      Effect session before after .attemptStarted
  | rechecked (attempt delay : Nat) (busy : before.node.session.attempt = some attempt)
      (underWay : before.outcome? attempt = none)
      (scheduled :
        after = (before.note (.attemptPending session)).scheduleMonitor session delay) :
      Effect session before after .pending
  | retried (attempt : Nat) (busy : before.node.session.attempt = some attempt)
      (ended : (before.outcome? attempt).isSome = true) (retries : before.Retries session after) :
      Effect session before after .retryScheduled

variable {session : Nat} {before middle after world : World} {outcome : LookOutcome}

theorem resets_abandon (session : Nat) (reason : Reboot.AbandonReason) (world : World) :
    world.Resets .close (abandon session reason world).2 :=
  (World.Resets.abortAttempt .close world).quiet (.note _ _)

theorem resets_online (session : Nat) (world : World) :
    world.Resets .close (world.bringOnline.closeSession.note (.instanceOnline session)) :=
  .of_quiet (.bringOnline world)
    ((World.Resets.abortAttempt .close world.bringOnline).quiet (.note _ _))

theorem effect_startAttempt (quiet : before.Quiet world)
    (idle : before.node.session.attempt = none) (delay : Nat) :
    Effect session before (startAttempt session delay world).2
      (startAttempt session delay world).1 := by
  simp only [startAttempt, World.connect?]
  split
  · exact .closed _ (.of_quiet quiet (resets_abandon session .endpointGone world))
  · rename_i attempt begun connected
    split at connected
    · have noted := World.Quiet.note world (.startingConnection false)
      have attempts := (world.note (.startingConnection false)).attempts_startConnection
        session delay false
      simp only [Option.some.injEq] at connected
      rw [connected] at attempts
      exact .started attempt idle (.of_quiet (quiet.trans noted) attempts)
    · cases connected

theorem effect_idle (quiet : before.Quiet world) (idle : before.node.session.attempt = none)
    (alive stillRebooting : Bool) :
    Effect session before (act session (.idle alive stillRebooting) world).2
      (act session (.idle alive stillRebooting) world).1 := by
  cases alive with
  | false => exact .closed _ (.of_quiet quiet (resets_abandon session .instanceGone world))
  | true =>
      cases stillRebooting with
      | false =>
          exact .closed _ (.of_quiet quiet (resets_abandon session .noLongerRebooting world))
      | true => exact effect_startAttempt quiet idle _

theorem effect_afterFetch {found : Option Snapshot} (quiet : before.Quiet world)
    (idle : before.node.session.attempt = none)
    (ended : afterFetch session found world = .done outcome after) :
    Effect session before after outcome := by
  simp only [afterFetch, Stage.done.injEq] at ended
  rcases ended with ⟨rfl, rfl⟩
  exact effect_idle quiet idle _ _

theorem afterFetch_ne_pause {found : Option Snapshot} {next : LookPoint} :
    afterFetch session found world ≠ .pause next after := by
  intro paused
  cases paused

@[simp]
theorem frame_takeAttempt (ended : Link.Outcome) (world : World) :
    (takeAttempt ended world).node =
        { world.node with session := { world.node.session with attempt := none } } ∧
      (takeAttempt ended world).endpoint = world.endpoint ∧
      (takeAttempt ended world).transfers = world.transfers ∧
      (takeAttempt ended world).agenda = world.agenda ∧
      (takeAttempt ended world).clock = world.clock := by
  cases ended <;> exact ⟨rfl, rfl, rfl, rfl, rfl⟩

/-- To close the session after its attempt was taken out is to close it. -/
theorem resets_of_taken {attempt : Nat} {ended : Link.Outcome}
    (busy : world.node.session.attempt = some attempt)
    (known : world.outcome? attempt = some ended)
    (resets : (takeAttempt ended world).Resets .close after) : world.Resets .close after := by
  rcases frame_takeAttempt ended world with ⟨node, endpoint, transfers, agenda, _⟩
  have goesOn : GoesOn world.transfers after.transfers := transfers ▸ resets.goesOn
  have connections : (takeAttempt ended world).connections = world.connections :=
    World.connections_congr (congrArg Endpoint.connectCalls endpoint) transfers
  refine ⟨?_, resets.agenda.trans agenda, ?_, goesOn, ?_, connections ▸ resets.connections⟩
  · rw [resets.session, node]
    rfl
  · rw [resets.standing, node]
    rfl
  · intro number held stands
    rw [busy] at held
    cases held
    simp [goesOn.outcome?_eq known]

theorem retries_retryLaunch (delay : Nat) (attached : world.node.attached = true)
    (taken : world.node.session.attempt = none) (absent : world.isChannelPresent = false) :
    world.Retries session (retryLaunch session delay world).2 := by
  constructor
  · simp [retryLaunch, Reboot.Session.recordFailure]
  · simp [retryLaunch, Reboot.Session.recordFailure]
  · simp [retryLaunch, Reboot.Session.recordFailure, taken]
  · exact ⟨world.clock, delay, by simp [retryLaunch]⟩
  · simp [retryLaunch, Node.standing]
  · simp [retryLaunch]
  · simp [retryLaunch, World.endpoint_takeOffline, attached]
  · simpa [World.isChannelPresent, attached] using absent

theorem effect_retryLaunch {attempt : Nat} {ended : Link.Outcome} (delay : Nat)
    (attached : world.node.attached = true) (busy : world.node.session.attempt = some attempt)
    (known : world.outcome? attempt = some ended)
    (absent : (takeAttempt ended world).isChannelPresent = false) :
    Effect session world (retryLaunch session delay (takeAttempt ended world)).2
      .retryScheduled := by
  refine .retried attempt busy (by simp [known]) ?_
  rcases frame_takeAttempt ended world with ⟨node, endpoint, transfers, agenda, _⟩
  have retries : (takeAttempt ended world).Retries session
      (retryLaunch session delay (takeAttempt ended world)).2 :=
    retries_retryLaunch delay (by simpa using attached) (by simp) absent
  constructor
  · simpa [node] using retries.generation
  · simpa [node] using retries.active
  · exact retries.attempt
  · rcases retries.agenda with ⟨now, after, scheduled⟩
    exact ⟨now, after, by rw [scheduled, agenda]⟩
  · rw [retries.standing, node]
    rfl
  · rw [retries.transfers, transfers]
  · rw [retries.endpoint, endpoint]
  · simpa [endpoint] using retries.channel

theorem effect_finished {attempt : Nat} {ended : Link.Outcome}
    (attached : world.node.attached = true) (busy : world.node.session.attempt = some attempt)
    (known : world.outcome? attempt = some ended) :
    Effect session world
      (act session (.attemptFinished (takeAttempt ended world).isChannelPresent
        (takeAttempt ended world).offlineCause) (takeAttempt ended world)).2
      (act session (.attemptFinished (takeAttempt ended world).isChannelPresent
        (takeAttempt ended world).offlineCause) (takeAttempt ended world)).1 := by
  have closes : ∀ reason,
      world.Resets .close (abandon session reason (takeAttempt ended world)).2 :=
    fun reason => resets_of_taken busy known (resets_abandon session reason _)
  rcases present : (takeAttempt ended world).isChannelPresent with _ | _
  · rcases Reboot.Policy.decide_of_absent (takeAttempt ended world).node.timings.reboot
      (takeAttempt ended world).offlineCause (takeAttempt ended world).node.session.launchFailures
      with retried | ⟨reason, given, _⟩
    · simp only [act, retried]
      exact effect_retryLaunch _ attached busy known present
    · simp only [act, given]
      exact .closed _ (closes reason)
  · exact .closed _ (resets_of_taken busy known (resets_online session _))

/-- A look that ends at once was superseded, or its session is live and it decides. -/
theorem effect_begin (ended : begin session world = .done outcome after) :
    world.node.session.isCurrent session = false ∧ after = world.note (.superseded session) ∨
      world.node.session.isCurrent session = true ∧ Effect session world after outcome := by
  simp only [begin] at ended
  split at ended
  · rename_i stale
    cases ended
    exact .inl ⟨by simpa using stale, rfl⟩
  rename_i current
  refine .inr ⟨by simpa using current, ?_⟩
  split at ended
  · cases ended
    exact .closed _ (resets_abandon session .nodeRetired world)
  split at ended
  · cases ended
    exact .closed _ (resets_abandon session .endpointGone world)
  rename_i attached
  split at ended
  · cases ended
  · rename_i attempt busy
    split at ended
    · rename_i underWay
      cases ended
      exact .rechecked attempt _ busy underWay rfl
    · rename_i outcome known
      cases ended
      exact effect_finished (by simpa using attached) busy known

/-! ## What a look leaves of the node -/

theorem spares_abandon (session : Nat) (reason : Reboot.AbandonReason) (world : World) :
    world.SparesNode (abandon session reason world).2 :=
  (World.SparesNode.abortAttempt .close world).trans (.of_node rfl)

theorem spares_startAttempt (session delay : Nat) (world : World) :
    world.SparesNode (startAttempt session delay world).2 := by
  simp only [startAttempt, World.connect?]
  split
  · exact spares_abandon session .endpointGone world
  · rename_i attempt begun connected
    split at connected
    · have started := ((world.note (.startingConnection false)).startConnection_eq false).2.1
      simp only [Option.some.injEq] at connected
      rw [connected] at started
      have node : begun.node = world.node := started
      simp [World.SparesNode, node]
    · cases connected

theorem spares_act (session : Nat) (observation : Reboot.Observation) (world : World) :
    world.SparesNode (act session observation world).2 := by
  simp only [act]
  split
  · exact spares_startAttempt session _ world
  · exact .of_node rfl
  · have online := World.SparesNode.of_node world.frame_bringOnline.1
    have closed := World.SparesNode.abortAttempt .close world.bringOnline
    exact online.trans (closed.trans (.of_node rfl))
  · simp [World.SparesNode, retryLaunch]
  · exact spares_abandon session _ world

theorem spares_begin (session : Nat) (world : World) :
    world.SparesNode (begin session world).world := by
  simp only [begin]
  split
  · exact .of_node rfl
  split
  · exact spares_abandon session .nodeRetired world
  split
  · exact spares_abandon session .endpointGone world
  split
  · exact .of_node rfl
  · split
    · exact spares_act session .attemptPending world
    · rename_i ended known
      have taken : world.SparesNode (takeAttempt ended world) := by simp [World.SparesNode]
      exact taken.trans (spares_act session _ _)

end LookPoint

end BuildAgent
