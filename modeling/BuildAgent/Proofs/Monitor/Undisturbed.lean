import BuildAgent.Proofs.World.Course

/-!
# Reboots and looks that nothing disturbs

A reboot and a look of its monitor, each followed from its entry to its answer (`Point.Ends`) along
the course of a world. The steps of a reboot are taken from the last to the first: each lemma on
`RebootPoint.Concludes` adds a step before those that the lemma above it has settled. The end of the
teardown may be known only later, and the command may fail; neither changes where the reboot leads.
-/

namespace BuildAgent

/-! ## The reboot -/

namespace RebootPoint

variable {world : World} {policy : Reboot.Policy} {course : Course}

/-- Whether a reboot that stands at a point comes to its end in a number of moves, and schedules the
first look of its session. -/
def Concludes (point : RebootPoint) (moves session : Nat) (world : World) (policy : Reboot.Policy)
    (course : Course) : Prop :=
  ∃ after, (Point.rebooting false point).Ends moves world (.rebooted (.ok session)) after ∧
    after.OnCourse policy (course.schedule session policy.initialDelay)

theorem afterReboot_finish (session : Nat) (world : World) :
    (finish session world).andThen (.rebooting false) (Point.afterReboot false) =
      .done (.rebooted (.ok session)) (finish session world).world := rfl

theorem onCourse_finish (onCourse : world.OnCourse policy course) (session : Nat) :
    (finish session world).world.OnCourse policy (course.schedule session policy.initialDelay) := by
  simp only [finish, Stage.world, onCourse.policy]
  exact onCourse.scheduleMonitor session policy.initialDelay

/-- A command that failed is followed by a description of the instance for the journal. -/
theorem concludes_diagnosing (onCourse : world.OnCourse policy course) (session : Nat)
    (instanceId : InstanceId) (failure : Provider.Failure) :
    (diagnosing session instanceId failure .waiting).Concludes 2 session world policy course := by
  rcases onCourse.serves with ⟨bound, capacity, serves⟩
  rcases onCourse.describe capacity with ⟨snapshot, described, asked, alive, served⟩
  let noted := described.note (.rebootFailed instanceId failure (diagnosticOf (.ok snapshot)))
  have waits : (Point.rebooting false (.diagnosing session instanceId failure .waiting)).resume
      world = .pause (.rebooting false
        (.diagnosing session instanceId failure (.describing bound))) world := by
    simp [Point.resume, resume, LookupPoint.resume, capacity]
  have describes : (Point.rebooting false
      (.diagnosing session instanceId failure (.describing bound))).resume world =
      .done (.rebooted (.ok session)) (finish session noted).world := by
    simp [Point.resume, resume, LookupPoint.resume, asked, afterReboot_finish, noted]
  exact ⟨_, .pause onCourse.still rfl waits (.done onCourse.still rfl describes),
    onCourse_finish (served.note _) session⟩

theorem concludes_commanding (onCourse : world.OnCourse policy course) (session : Nat)
    {instanceId : InstanceId} (bound : world.node.capacity.bound? = some instanceId) :
    (commanding session instanceId).Concludes 3 session world policy course := by
  have commanded := onCourse.command bound
  rcases asked : world.ask fun provider => provider.command .reboot instanceId with
    ⟨failure | ⟨⟩, middle⟩
  · rw [asked] at commanded
    rcases concludes_diagnosing commanded session instanceId failure with ⟨after, ends, scheduled⟩
    have fails : (Point.rebooting false (.commanding session instanceId)).resume world =
        .pause (.rebooting false (.diagnosing session instanceId failure .waiting)) middle := by
      simp [Point.resume, resume, asked]
    exact ⟨after, .pause onCourse.still rfl fails ends, scheduled⟩
  · rw [asked] at commanded
    have succeeds : (Point.rebooting false (.commanding session instanceId)).resume world =
        .done (.rebooted (.ok session))
          (finish session (middle.note (.rebootSent instanceId))).world := by
      simp [Point.resume, resume, asked, afterReboot_finish]
    exact ⟨_, .done onCourse.still rfl succeeds, onCourse_finish (commanded.note _) session⟩

theorem concludes_binding (onCourse : world.OnCourse policy course) (session : Nat) :
    (binding session).Concludes 4 session world policy course := by
  rcases onCourse.serves with ⟨bound, capacity, serves⟩
  rcases concludes_commanding onCourse session capacity with ⟨after, ends, scheduled⟩
  refine ⟨after, .pause onCourse.still rfl ?_ ends, scheduled⟩
  simp [Point.resume, resume, capacity]

theorem concludes_tearing (onCourse : world.OnCourse policy course) (session : Nat)
    {transfer : Nat} {outcome : Link.Outcome} (known : world.outcome? transfer = some outcome) :
    (disconnecting session (.tearing transfer)).Concludes 5 session world policy course := by
  rcases concludes_binding (onCourse.noteTeardown outcome) session with ⟨after, ends, scheduled⟩
  have free : (Point.rebooting false (.disconnecting session (.tearing transfer))).isFree world =
      true := by
    simp [Point.isFree, Point.hasNews, Point.obstacle, obstacle, DisconnectPoint.obstacle, known]
  refine ⟨after, .pause onCourse.still free ?_ ends, scheduled⟩
  simp [Point.resume, resume, DisconnectPoint.resume, known]

/-- The teardown takes effect at once. Its end is known at once too, or the task waits for it. -/
theorem concludes_teardown (onCourse : world.OnCourse policy course) (session : Nat)
    (cause : OfflineCause) :
    (disconnecting session (.tearing (world.startTeardown (some cause)).1)).Concludes 7 session
      (world.startTeardown (some cause)).2 policy
      { course with channel := false, cause := some cause } := by
  have known : ∀ (clock : Nat) (delays : List Nat) (outcome : Link.Outcome),
      (disconnecting session (.tearing world.transfers.length)).Concludes 5 session
        (world.torn cause clock delays outcome) policy
        { course with channel := false, cause := some cause } :=
    fun clock delays outcome => concludes_tearing (onCourse.torn cause clock delays outcome) session
      (world.outcome?_torn cause clock delays outcome)
  simp only [World.startTeardown]
  split
  · rename_i prompt
    rcases known world.clock [] (world.endpoint.teardown (some cause)).1 with
      ⟨after, ends, scheduled⟩
    rw [World.torn, ← prompt] at ends
    exact ⟨after, ends.mono (by omega), scheduled⟩
  · rename_i delay rest latencies
    rcases known (max world.clock (world.clock + delay)) rest
      (world.endpoint.teardown (some cause)).1 with ⟨after, ends, scheduled⟩
    exact ⟨after, .wait rfl onCourse.noneDue ⟨_, onCourse.agenda⟩ rfl rfl ends, scheduled⟩

/-- An agent that lives on by itself is asked to exit before the teardown. -/
theorem concludes_disconnecting (onCourse : world.OnCourse policy course) (session : Nat)
    (cause : OfflineCause) :
    ∃ inner middle, DisconnectPoint.enter (some cause) world = .pause inner middle ∧
      (disconnecting session inner).Concludes 8 session middle policy
        { course with channel := false, cause := some cause } := by
  simp only [DisconnectPoint.enter, onCourse.attached, if_true]
  split
  · rcases concludes_teardown onCourse.requestShutdown session cause with ⟨after, ends, scheduled⟩
    exact ⟨_, _, rfl, after, .pause onCourse.still rfl rfl ends, scheduled⟩
  · rcases concludes_teardown onCourse session cause with ⟨after, ends, scheduled⟩
    exact ⟨_, _, rfl, after, ends.mono (by omega), scheduled⟩

/-- A reboot opens a session, marks the node with it and schedules the first look. -/
theorem concludes_entering (onCourse : world.OnCourse policy course) :
    entering.Concludes 10 (course.session.generation + 1) world policy { course with
      session := course.session.start
      channel := false
      cause := some (.reboot (course.session.generation + 1)) } := by
  let session := course.session.generation + 1
  have opened := onCourse.openSession
  have numbered : world.openSession.node.session.generation = session :=
    congrArg Reboot.Session.generation opened.session
  have marked := (opened.note (.preparingReboot session)).takeOffline (.reboot session)
  rcases concludes_disconnecting marked session (.reboot session) with
    ⟨inner, middle, entered, after, ends, scheduled⟩
  have enters : (Point.rebooting false .entering).resume world =
      .pause (.rebooting false .waiting) world := by
    simp [Point.resume, resume, onCourse.managed]
  have begins : (Point.rebooting false .waiting).resume world =
      .pause (.rebooting false (.disconnecting session inner)) middle := by
    simp [Point.resume, resume, begin, numbered, entered]
  exact ⟨after, .pause onCourse.still rfl enters (.pause onCourse.still rfl begins ends), scheduled⟩

end RebootPoint

/-! ## The looks -/

namespace LookPoint

variable {world : World} {policy : Reboot.Policy} {course : Course} {session : Nat}

/-- A look at a node that waits for its reboot starts an attempt to connect. -/
theorem ends_idle (onCourse : world.OnCourse policy course)
    (current : course.session.isCurrent session = true) (idle : course.session.attempt = none)
    (marked : course.cause = some (.reboot session))
    (ends : course.scripts.headD .succeed ≠ .hang) :
    ∃ attempt outcome after, (Request.entry (.look session)).Ends 3 world
        (.looked .attemptStarted) after ∧
      after.outcome? attempt = some outcome ∧
      after.OnCourse policy
        ({ course.attempted with
          session := { course.session with attempt := some attempt } }.schedule session
            policy.pendingRecheck) := by
  rcases onCourse.serves with ⟨instanceId, capacity, serves⟩
  rcases onCourse.describe capacity with ⟨snapshot, described, asked, alive, served⟩
  have kept := served.keep true instanceId (some snapshot)
  rcases kept.attempt ends with ⟨attempt, outcome, connected, reached, known, tried⟩
  let after := ((connected.note (.attemptStarted session)).withSession fun record =>
    { record with attempt := some attempt }).scheduleMonitor session policy.pendingRecheck
  have begins : (Point.looking session .waiting).resume world =
      .pause (.looking session (.refreshing (.waiting true))) world := by
    simp [Point.resume, resume, begin, onCourse.session, current, idle, onCourse.managed,
      onCourse.attached]
  have fetches : (Point.looking session (.refreshing (.waiting true))).resume world =
      .pause (.looking session (.refreshing (.describing true instanceId))) world := by
    simp [Point.resume, resume, FetchPoint.resume, capacity]
  have mark : (FetchPoint.keep true instanceId (some snapshot) described).offlineCause =
      some (.reboot session) := by
    simp only [World.offlineCause, kept.attached, if_true, kept.cause, marked]
  have starts : (Point.looking session (.refreshing (.describing true instanceId))).resume world =
      .done (.looked .attemptStarted) after := by
    simp [Point.resume, resume, FetchPoint.resume, asked, afterFetch, alive, mark,
      OfflineCause.isRebootFor, act, Reboot.Policy.decide, startAttempt, reached, Point.finish,
      after, kept.policy]
  refine ⟨attempt, outcome, after, ?_, known, ?_⟩
  · exact .pause onCourse.still rfl begins
      (.pause onCourse.still rfl fetches (.done onCourse.still rfl starts))
  · exact ((tried.note _).withSession _).scheduleMonitor session policy.pendingRecheck

theorem onCourse_takeAttempt (onCourse : world.OnCourse policy course) (ended : Link.Outcome) :
    (takeAttempt ended world).OnCourse policy
      { course with session := { course.session with attempt := none } } := by
  have taken := onCourse.withSession fun record => { record with attempt := none }
  simp only [takeAttempt]
  split
  · exact taken
  · exact taken.note _

section Ended

variable {attempt : Nat} {ended : Link.Outcome} (onCourse : world.OnCourse policy course)
  (current : course.session.isCurrent session = true)
  (busy : course.session.attempt = some attempt) (known : world.outcome? attempt = some ended)

include onCourse current busy known

/-- A look at an attempt that has ended takes the attempt out of the session and decides. -/
theorem resume_waiting :
    (Point.looking session .waiting).resume world =
      .done (.looked (act session (.attemptFinished course.channel course.cause)
          (takeAttempt ended world)).1)
        (act session (.attemptFinished course.channel course.cause)
          (takeAttempt ended world)).2 := by
  have taken := onCourse_takeAttempt onCourse ended
  have channel : (takeAttempt ended world).isChannelPresent = course.channel := by
    simp [World.isChannelPresent, taken.attached, taken.channel]
  have cause : (takeAttempt ended world).offlineCause = course.cause := by
    simp [World.offlineCause, taken.attached, taken.cause]
  simp [Point.resume, resume, begin, onCourse.session, current, busy, onCourse.managed,
    onCourse.attached, known, channel, cause, Point.finish]

/-- After a failed launch, the next look is scheduled and the node is marked again. -/
theorem ends_retry {delay : Nat}
    (decided : policy.decide (.attemptFinished course.channel course.cause)
      course.session.launchFailures = .retryLaunch delay) :
    ∃ after, (Request.entry (.look session)).Ends 1 world (.looked .retryScheduled) after ∧
      after.OnCourse policy
        ({ course with
          session := { course.session with attempt := none }.recordFailure
          cause := some (.reboot session) }.schedule session delay) := by
  have taken := onCourse_takeAttempt onCourse ended
  have step := resume_waiting onCourse current busy known
  simp only [act, taken.policy, taken.session, decided, retryLaunch] at step
  refine ⟨_, .done onCourse.still rfl step, ?_⟩
  exact (((taken.withSession .recordFailure).note _).takeOffline (.reboot session)).scheduleMonitor
    session delay

/-- A session that is over is closed, and nothing is scheduled for it. -/
theorem ends_over {verdict : LookOutcome}
    (decided : (policy.decide (.attemptFinished course.channel course.cause)
      course.session.launchFailures).verdict? = some verdict) :
    ∃ after cause, (Request.entry (.look session)).Ends 1 world (.looked verdict) after ∧
      after.OnCourse policy { course with session := course.session.close, cause } := by
  have taken := onCourse_takeAttempt onCourse ended
  have step := resume_waiting onCourse current busy known
  simp only [act, taken.policy, taken.session] at step
  cases decision : policy.decide (.attemptFinished course.channel course.cause)
      course.session.launchFailures with
  | online =>
      rw [decision] at decided step
      cases decided
      exact ⟨_, _, .done onCourse.still rfl step, taken.bringOnline.closeSession.note _⟩
  | abandon reason =>
      rw [decision] at decided step
      cases decided
      exact ⟨_, _, .done onCourse.still rfl step, taken.closeSession.note _⟩
  | _ =>
      rw [decision] at decided
      cases decided

end Ended

end LookPoint

end BuildAgent
