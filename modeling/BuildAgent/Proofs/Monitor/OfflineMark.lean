import BuildAgent.Proofs.Monitor.Refinement

/-!
# Who touches the offline mark

The node sets the mark of its endpoint, the temporarily-offline flag with its cause, or clears it,
and notes each time that it does: these entries of the journal are `World.marks`. A look of the
monitor touches the mark in two ways only (`World.Treats`): it clears it where it finds a channel,
and it renews it after a launch that failed. Otherwise nothing but the attempt that the look started
can have written to the endpoint.

A look decides in the last of its steps, and the steps before leave all that counts for the mark as
it is (`World.Shares`). So the law of the decision (`LookPoint.treats_act`) is the law of the look,
whatever its session is and whoever has written the cause (`Outset.look_touches_mark`).
-/

namespace BuildAgent

/-- Whether an event tells that the node set the mark of its endpoint or cleared it. -/
def Journal.Event.isMark : Journal.Event → Bool
  | takingOffline _ => true
  | broughtOnline => true
  | _ => false

/-! ## The marks that the node makes -/

namespace World

/-- What the journal says about the mark of the endpoint, the latest first. -/
def marks (world : World) : List Journal.Event :=
  (world.journal.map Journal.Entry.event).filter Journal.Event.isMark

/-- The endpoint after the start of an attempt to connect. An attempt that takes time reaches it
only later. -/
def dialed (world : World) : Endpoint :=
  if world.latencies.connect = [] then world.endpoint.connect.2 else world.endpoint

variable (world : World)

theorem marks_note (event : Journal.Event) :
    (world.note event).marks =
      if event.isMark then event :: world.marks else world.marks := by
  simp only [marks, note, List.map_cons, List.filter_cons]

@[simp]
theorem marks_note_of_other {event : Journal.Event} (other : event.isMark = false) :
    (world.note event).marks = world.marks := by
  rw [marks_note, if_neg (by simp [other])]

@[simp]
theorem marks_withSession (change : Reboot.Session → Reboot.Session) :
    (world.withSession change).marks = world.marks := rfl

@[simp]
theorem marks_abortAttempt : world.abortAttempt.marks = world.marks := by
  simp only [abortAttempt]
  split <;> rfl

@[simp]
theorem marks_scheduleMonitor (session delay : Nat) :
    (world.scheduleMonitor session delay).marks = world.marks :=
  world.marks_note_of_other rfl

theorem marks_takeOffline (attached : world.node.attached = true) (cause : OfflineCause) :
    (world.takeOffline cause).marks = .takingOffline cause :: world.marks := by
  rw [takeOffline, if_pos attached]
  rfl

theorem marks_bringOnline (attached : world.node.attached = true) :
    world.bringOnline.marks = .broughtOnline :: world.marks := by
  rw [bringOnline, if_pos attached]
  rfl

theorem endpoint_bringOnline (attached : world.node.attached = true) :
    world.bringOnline.endpoint = world.endpoint.mark false none := by
  rw [bringOnline, if_pos attached]
  rfl

theorem marks_startConnection (explicit : Bool) :
    (world.startConnection explicit).2.marks = world.marks := by
  simp only [startConnection]
  split
  · exact world.marks_note_of_other rfl
  · rfl

theorem endpoint_startConnection (explicit : Bool) :
    (world.startConnection explicit).2.endpoint = world.dialed := by
  rcases world.startConnection_cases explicit with
    ⟨delay, rest, waits, endpoint, _⟩ | ⟨prompt, endpoint, _⟩
  · rw [endpoint, dialed, waits, if_neg (List.cons_ne_nil _ _)]
  · rw [endpoint, dialed, prompt, if_pos rfl]

theorem marks_describe (instanceIds : List InstanceId) :
    (world.ask fun provider => provider.describe instanceIds).2.marks = world.marks := by
  simp only [ask, Provider.describe, Provider.perform]
  split
  · rename_i event left
    split at left
    · cases left
      exact marks_note_of_other _ rfl
    · cases left
  · rfl

/-- Whether two worlds agree on all that counts for the mark of the endpoint. -/
structure Shares (before after : World) : Prop where
  endpoint : after.endpoint = before.endpoint
  attached : after.node.attached = before.node.attached
  latencies : after.latencies = before.latencies
  marks : after.marks = before.marks

/-- What a look with an outcome does to the mark of the endpoint. -/
inductive Treats (session : Nat) (before : World) : LookOutcome → World → Prop where
  | cleared {after : World} (channel : before.isChannelPresent = true)
      (marks : after.marks = .broughtOnline :: before.marks)
      (endpoint : after.endpoint = before.endpoint.mark false none) :
      Treats session before .online after
  | renewed {after : World} {reason : String}
      (cause : before.offlineCause = some (.launchFailed reason))
      (marks : after.marks = .takingOffline (.reboot session) :: before.marks)
      (endpoint : after.endpoint = before.endpoint.mark true (some (.reboot session))) :
      Treats session before .retryScheduled after
  | dialed {after : World} (marks : after.marks = before.marks)
      (endpoint : after.endpoint = before.dialed) :
      Treats session before .attemptStarted after
  | untouched {after : World} {outcome : LookOutcome}
      (other : outcome ≠ .online ∧ outcome ≠ .retryScheduled ∧ outcome ≠ .attemptStarted)
      (marks : after.marks = before.marks) (endpoint : after.endpoint = before.endpoint) :
      Treats session before outcome after

/-- Whether a live session has lost its node to somebody else: no attempt is under way, no channel
is present, and the node is offline for a reason that no attempt mends. -/
structure IsOusted (world : World) (session : Nat) : Prop where
  current : world.node.session.isCurrent session = true
  idle : ∀ attempt, world.node.session.attempt = some attempt →
    (world.outcome? attempt).isSome = true
  absent : world.isChannelPresent = false
  cause : ∃ cause, world.endpoint.cause = some cause ∧ cause.retryClass = .nonRetryable

end World

namespace World.Shares

variable {before middle after : World}

theorem refl (world : World) : world.Shares world :=
  ⟨rfl, rfl, rfl, rfl⟩

theorem isChannelPresent_eq (shares : before.Shares after) :
    after.isChannelPresent = before.isChannelPresent := by
  rw [isChannelPresent, isChannelPresent, shares.attached, shares.endpoint]

theorem offlineCause_eq (shares : before.Shares after) :
    after.offlineCause = before.offlineCause := by
  rw [offlineCause, offlineCause, shares.attached, shares.endpoint]

theorem dialed_eq (shares : before.Shares after) : after.dialed = before.dialed := by
  rw [dialed, dialed, shares.latencies, shares.endpoint]

theorem note (world : World) {event : Journal.Event} (other : event.isMark = false) :
    world.Shares (world.note event) :=
  ⟨rfl, rfl, rfl, world.marks_note_of_other other⟩

end World.Shares

/-! ## The decision -/

namespace LookPoint

variable {before world : World} {session : Nat}

theorem treats_abandon (shares : before.Shares world) (reason : Reboot.AbandonReason) :
    before.Treats session (abandon session reason world).1 (abandon session reason world).2 := by
  refine .untouched ⟨nofun, nofun, nofun⟩ ?_ ?_
  · simp only [abandon, World.closeSession]
    rw [World.marks_note_of_other _ rfl, World.marks_withSession, World.marks_abortAttempt,
      shares.marks]
  · simp [abandon, World.closeSession, shares.endpoint]

theorem treats_startAttempt (shares : before.Shares world) (delay : Nat) :
    before.Treats session (startAttempt session delay world).1
      (startAttempt session delay world).2 := by
  rcases attached : world.node.attached with _ | _
  · have gone : startAttempt session delay world = abandon session .endpointGone world := by
      simp [startAttempt, World.connect?, attached]
    rw [gone]
    exact treats_abandon shares .endpointGone
  · simp only [startAttempt, World.connect?, if_pos attached]
    have noted : before.Shares (world.note (.startingConnection false)) :=
      ⟨shares.endpoint, shares.attached, shares.latencies,
        (world.marks_note_of_other rfl).trans shares.marks⟩
    refine .dialed ?_ ?_
    · rw [World.marks_scheduleMonitor, World.marks_withSession, World.marks_note_of_other _ rfl,
        World.marks_startConnection, noted.marks]
    · simp only [World.frame_scheduleMonitor, World.frame_withSession, World.frame_note]
      rw [World.endpoint_startConnection, noted.dialed_eq]

theorem treats_online (shares : before.Shares world) (channel : world.isChannelPresent = true) :
    before.Treats session .online
      ((world.bringOnline.closeSession).note (.instanceOnline session)) := by
  have attached : world.node.attached = true := by
    rw [World.isChannelPresent, Bool.and_eq_true] at channel
    exact channel.1
  refine .cleared (shares.isChannelPresent_eq ▸ channel) ?_ ?_
  · rw [World.marks_note_of_other _ rfl, World.closeSession, World.marks_withSession,
      World.marks_abortAttempt, world.marks_bringOnline attached, shares.marks]
  · simp only [World.closeSession, World.frame_note, World.frame_withSession,
      World.frame_abortAttempt]
    rw [world.endpoint_bringOnline attached, shares.endpoint]

theorem treats_retryLaunch (shares : before.Shares world) {reason : String}
    (cause : world.offlineCause = some (.launchFailed reason)) (after : Nat) :
    before.Treats session (retryLaunch session after world).1
      (retryLaunch session after world).2 := by
  have attached : world.node.attached = true := by
    rcases attached : world.node.attached with _ | _
    · rw [World.offlineCause, attached] at cause
      cases cause
    · rfl
  let counted := world.withSession .recordFailure
  let noted := counted.note
    (.launchFailed session counted.node.session.launchFailures counted.offlineCause)
  have stays : noted.node.attached = true := attached
  have marks : noted.marks = before.marks := (counted.marks_note_of_other rfl).trans shares.marks
  refine .renewed (shares.offlineCause_eq ▸ cause) ?_ ?_
  · simp only [retryLaunch]
    rw [World.marks_scheduleMonitor, noted.marks_takeOffline stays, marks]
  · simp only [retryLaunch, World.frame_scheduleMonitor]
    rw [World.endpoint_takeOffline stays]
    exact congrArg (fun endpoint => endpoint.mark true (some (.reboot session))) shares.endpoint

/-- **What a look decides touches the mark as it may.** -/
theorem treats_act {observation : Reboot.Observation} (shares : before.Shares world)
    (faithful : ∀ present cause, observation = .attemptFinished present cause →
      present = world.isChannelPresent ∧ cause = world.offlineCause) :
    before.Treats session (act session observation world).1
      (act session observation world).2 := by
  cases observation with
  | idle alive stillRebooting =>
      cases alive with
      | false => exact treats_abandon shares _
      | true =>
          cases stillRebooting with
          | false => exact treats_abandon shares _
          | true => exact treats_startAttempt shares _
  | attemptPending =>
      refine .untouched ⟨nofun, nofun, nofun⟩ ?_ ?_
      · exact (World.marks_scheduleMonitor _ _ _).trans
          ((world.marks_note_of_other rfl).trans shares.marks)
      · exact shares.endpoint
  | attemptFinished present cause =>
      rcases faithful present cause rfl with ⟨seen, rfl⟩
      cases present with
      | true => exact treats_online shares seen.symm
      | false =>
          by_cases failed : ∃ reason, world.offlineCause = some (.launchFailed reason)
          · rcases failed with ⟨reason, failed⟩
            rcases world.node.timings.reboot.decide_of_absent world.offlineCause
              world.node.session.launchFailures with retried | ⟨other, given, _⟩
            · simp only [act, retried]
              exact treats_retryLaunch shares failed _
            · simp only [act, given]
              exact treats_abandon shares other
          · have other : ∀ reason, world.offlineCause ≠ some (.launchFailed reason) :=
              fun reason same => failed ⟨reason, same⟩
            simp only [act, Reboot.Policy.decide_of_other other]
            exact treats_abandon shares _

end LookPoint

/-- What a look does to the mark of the endpoint, and that it ends a session that has lost its
node. -/
structure World.Respects (session : Nat) (before : World) (outcome : LookOutcome)
    (after : World) : Prop where
  treats : before.Treats session outcome after
  ends : before.IsOusted session →
    (∃ reason, outcome = .abandoned reason) ∧ after.node.session.active = false

namespace LookPoint

variable {before world : World} {session : Nat}

theorem respects_abandon (shares : before.Shares world) (reason : Reboot.AbandonReason) :
    before.Respects session (abandon session reason world).1 (abandon session reason world).2 where
  treats := treats_abandon shares reason
  ends _ := by
    refine ⟨⟨reason, rfl⟩, ?_⟩
    simp [abandon, World.closeSession, Reboot.Session.close]

/-- A look that has refreshed the cache decides on the snapshot that it found. -/
theorem respects_afterFetch (session : Nat) (shares : before.Shares world)
    (found : Option Snapshot) :
    ∃ outcome after, afterFetch session found world = .done outcome after ∧
      before.Respects session outcome after := by
  refine ⟨_, _, rfl, treats_act shares nofun, ?_⟩
  intro ousted
  rcases ousted.cause with ⟨cause, present, lasting⟩
  have other : (world.offlineCause.any fun cause => cause.isRebootFor session) = false := by
    rw [shares.offlineCause_eq, World.offlineCause, present]
    cases before.node.attached with
    | false => rfl
    | true => cases cause <;> first | rfl | cases lasting
  rw [other]
  cases found.any Snapshot.isAlive with
  | false => exact (respects_abandon shares _).ends ousted
  | true => exact (respects_abandon shares _).ends ousted

/-- A look that finds an attempt that has ended decides by the endpoint. -/
theorem respects_ended (ended : Link.Outcome) (world : World) :
    let taken := takeAttempt ended world
    let decided := act session (.attemptFinished taken.isChannelPresent taken.offlineCause) taken
    world.Respects session decided.1 decided.2 := by
  intro taken decided
  have shares : world.Shares taken := by
    cases ended with
    | ok done => exact ⟨rfl, rfl, rfl, rfl⟩
    | error fault => exact ⟨rfl, rfl, rfl, World.marks_note_of_other _ rfl⟩
  refine ⟨treats_act shares fun present cause same => ?_, ?_⟩
  · cases same
    exact ⟨rfl, rfl⟩
  · intro ousted
    rcases ousted.cause with ⟨cause, present, lasting⟩
    have other : ∀ reason, taken.offlineCause ≠ some (.launchFailed reason) := by
      intro reason same
      rw [shares.offlineCause_eq, World.offlineCause, present] at same
      split at same
      · cases same
        cases lasting
      · cases same
    have absent : taken.isChannelPresent = false := shares.isChannelPresent_eq.trans ousted.absent
    have given : decided = abandon session (.nonRetryable taken.offlineCause) taken := by
      simp only [decided, absent, act, Reboot.Policy.decide_of_other other]
    rw [given]
    exact (respects_abandon shares _).ends ousted

/-- A look of a session that is not live any more does nothing. -/
theorem respects_superseded (stale : world.node.session.isCurrent session = false) :
    world.Respects session .superseded (world.note (.superseded session)) := by
  refine ⟨.untouched ⟨nofun, nofun, nofun⟩ (world.marks_note_of_other rfl) rfl, ?_⟩
  intro ousted
  rw [ousted.current] at stale
  cases stale

/-- A look that finds an attempt under way waits for it. -/
theorem respects_pending {attempt : Nat} (busy : world.node.session.attempt = some attempt)
    (known : world.outcome? attempt = none) :
    world.Respects session (act session .attemptPending world).1
      (act session .attemptPending world).2 := by
  refine ⟨treats_act (.refl world) nofun, ?_⟩
  intro ousted
  have finished := ousted.idle attempt busy
  rw [known] at finished
  cases finished

/-- A look that ends at once treats the mark as it may. -/
theorem respects_begin {outcome : LookOutcome} {after : World}
    (begun : begin session world = .done outcome after) :
    world.Respects session outcome after := by
  rcases current : world.node.session.isCurrent session with _ | _
  · have superseded : begin session world =
        .done .superseded (world.note (.superseded session)) := by simp [begin, current]
    cases begun.symm.trans superseded
    exact respects_superseded current
  rcases managed : world.node.retired with _ | _
  swap
  · have gone : begin session world = .done (abandon session .nodeRetired world).1
        (abandon session .nodeRetired world).2 := by simp [begin, current, managed]
    cases begun.symm.trans gone
    exact respects_abandon (.refl world) .nodeRetired
  rcases attached : world.node.attached with _ | _
  · have gone : begin session world = .done (abandon session .endpointGone world).1
        (abandon session .endpointGone world).2 := by simp [begin, current, managed, attached]
    cases begun.symm.trans gone
    exact respects_abandon (.refl world) .endpointGone
  rcases busy : world.node.session.attempt with _ | attempt
  · cases begun.symm.trans (begin_of_idle current managed attached busy)
  rcases known : world.outcome? attempt with _ | ended
  · cases begun.symm.trans (begin_of_pending current managed attached busy known)
    exact respects_pending busy known
  · cases begun.symm.trans (begin_of_ended current managed attached busy known)
    exact respects_ended ended world

end LookPoint

/-- A forced fetch leaves the mark of the endpoint alone. -/
theorem FetchPoint.Yields.shares {world after : World} {found : Option Snapshot}
    (yields : FetchPoint.Yields world found after) : world.Shares after := by
  cases yields with
  | skipped unbound fetched =>
      simp only [resume, unbound] at fetched
      cases fetched
      exact .note world rfl
  | @described instanceId bound fetched =>
      rcases world.frame_ask fun provider => provider.describe [instanceId] with
        ⟨node, endpoint, _⟩
      have marks := world.marks_describe [instanceId]
      have latencies : (world.ask fun provider => provider.describe [instanceId]).2.latencies =
          world.latencies := by
        simp only [World.ask]
        split <;> rfl
      rcases asked : world.ask fun provider => provider.describe [instanceId] with
        ⟨failure | listed, middle⟩
      · rw [asked] at node endpoint marks latencies
        simp only [resume, asked] at fetched
        cases fetched
        exact ⟨endpoint, congrArg Node.attached node, latencies,
          (World.marks_note_of_other middle rfl).trans marks⟩
      · rw [asked] at node endpoint marks latencies
        have attached : middle.node.attached = world.node.attached := congrArg Node.attached node
        have kept : (keep true instanceId listed.head? middle).marks = middle.marks :=
          World.marks_note_of_other middle rfl
        simp only [resume, asked] at fetched
        cases fetched
        exact ⟨endpoint, attached, latencies, kept.trans marks⟩

/-- A look that nothing interrupts treats the mark as it may. -/
theorem LookPoint.Yields.respects {session : Nat} {world after : World} {outcome : LookOutcome}
    (yields : LookPoint.Yields session world outcome after) :
    world.Respects session outcome after := by
  cases yields with
  | atOnce begun => exact respects_begin begun
  | @refreshed found middle begun fetched decided =>
      rcases respects_afterFetch session fetched.shares found with ⟨_, _, same, respects⟩
      cases decided.symm.trans same
      exact respects

namespace Outset

/-- **A look touches the offline mark in two ways only.** Take any execution that can be reached,
whoever has written the flag and the cause before, and a look of any session, live or not, that has
been started. If the locks that it needs are free and nothing interrupts it, the look ends:

* It sets or clears the mark only where it clears it on a node with a channel, and where it renews
  the mark of its session after a launch that failed. Otherwise the endpoint is as it was, but for
  what the attempt wrote that the look started (`World.Treats`).
* If its session is live but has lost its node, without a channel and without an attempt under way,
  to an operator, a broken transport or another cause that no attempt mends, the look ends the
  session and the flag and the cause stay. -/
theorem look_touches_mark (outset : Outset) (moves : List Move) {task : Task} {session : Nat}
    (running : task ∈ (outset.execution.run moves).running)
    (looks : task.point = .looking session .waiting)
    (free : (outset.execution.run moves).isFree .session = true)
    (cacheFree : (outset.execution.run moves).world.refreshes session = true →
      (outset.execution.run moves).isFree .cache = true) :
    let before := outset.execution.run moves
    ∃ outcome after,
      outset.execution.run (moves ++ List.replicate 3 (.resume task.number)) =
        before.settle task (.done (.looked outcome) after) ∧
      before.world.Treats session outcome after ∧
      (before.world.IsOusted session →
        (∃ reason, outcome = .abandoned reason) ∧ after.node.session.active = false ∧
        after.endpoint = before.world.endpoint) := by
  intro before
  have orderly : before.Orderly := (outset.sound_run moves).orderly
  rcases List.append_of_mem running with ⟨earlier, later, split⟩
  rcases Execution.look_yields orderly split looks free cacheFree with
    ⟨outcome, after, whole, yields⟩
  have respects := yields.respects
  refine ⟨outcome, after, ?_, respects.treats, ?_⟩
  · rw [Execution.run_append, whole]
    exact (Execution.settle_eq orderly split _).symm
  · intro ousted
    rcases respects.ends ousted with ⟨⟨reason, rfl⟩, inactive⟩
    refine ⟨⟨reason, rfl⟩, inactive, ?_⟩
    cases respects.treats with
    | untouched other marks endpoint => exact endpoint

/-- A reboot whose node an operator takes offline before the first look. -/
def rebootedAndOusted : List Move :=
  rebootedAndDue ++ [.happen (.mark true (some (.userRequested "maintenance")))]

/-- The first look gives the session up and leaves the operator's mark in place. -/
theorem look_touches_mark_ousted :
    ∃ reason after, (onInstance someInstance).execution.run
        (rebootedAndOusted ++ List.replicate 3 (.resume 1)) =
        ((onInstance someInstance).execution.run rebootedAndOusted).settle
          ⟨1, .look 1, .looking 1 .waiting⟩ (.done (.looked (.abandoned reason)) after) ∧
      after.node.session.active = false ∧ after.endpoint.temporarilyOffline = true ∧
      after.endpoint.cause = some (.userRequested "maintenance") := by
  have running : (⟨1, .look 1, .looking 1 .waiting⟩ : Task) ∈
      ((onInstance someInstance).execution.run rebootedAndOusted).running := .head _
  rcases (onInstance someInstance).look_touches_mark rebootedAndOusted running rfl rfl
    (fun _ => rfl) with ⟨outcome, after, whole, _, ends⟩
  have ousted : ((onInstance someInstance).execution.run rebootedAndOusted).world.IsOusted 1 :=
    ⟨rfl, nofun, rfl, .userRequested "maintenance", rfl, rfl⟩
  rcases ends ousted with ⟨⟨reason, rfl⟩, inactive, endpoint⟩
  refine ⟨reason, after, whole, inactive, ?_, ?_⟩
  · rw [endpoint]
    rfl
  · rw [endpoint]
    rfl

end Outset

end BuildAgent
