import BuildAgent.Proofs.Execution.Outside
import BuildAgent.Proofs.Monitor.Looks

/-!
# What the tasks of a node do to its reboot sessions

`Point.session?` is the session that a task works on while it holds the session lock, and
`Point.tick?` the session whose next look depends on the task: such a task ends only when it has
scheduled that look, or when the session is over.

`Point.Effect` lists everything that a step of a task can do to the record of sessions, to the
agenda and to the attempts to connect. It rests on what the session lock is for
(`Execution.Guarded`): the session that a task works on is live and holds no attempt.
-/

namespace BuildAgent

def RebootPoint.session? : RebootPoint → Option Nat
  | disconnecting session _ => some session
  | binding session => some session
  | commanding session _ => some session
  | diagnosing session _ _ _ => some session
  | _ => none

namespace Point

/-- The session that a task works on under the session lock. -/
def session? : Point → Option Nat
  | rebooting _ point => point.session?
  | looking session (.refreshing _) => some session
  | _ => none

/-- The session whose next look depends on a task. -/
def tick? : Point → Option Nat
  | rebooting _ point => point.session?
  | looking session _ => some session
  | _ => none

theorem isSome_session? (point : Point) : point.session?.isSome = point.holds .session := by
  cases point with
  | rebooting afterBuild inner => cases inner <;> rfl
  | looking session inner => cases inner <;> rfl
  | _ => rfl

theorem holds_of_session? {point : Point} {session : Nat} (works : point.session? = some session) :
    point.holds .session = true := by
  rw [← point.isSome_session?, works]
  rfl

/-- Everything that a step of a task can do to the sessions: the point at which the task then
stands, if it has not ended, and the world after the step. -/
inductive Effect (point : Point) (before : World) : Option Point → World → Prop where
  | kept {next : Option Point} {after : World} (through : before.Through point.permits after)
      (tick : next.bind tick? = point.tick?) (works : next.bind session? = point.session?) :
      Effect point before next after
  | engaged {session : Nat} (looks : point = .looking session .waiting)
      (current : before.node.session.isCurrent session = true)
      (managed : before.node.retired = false) (attached : before.node.attached = true)
      (idle : before.node.session.attempt = none) :
      Effect point before (some (.looking session (.refreshing (.waiting true)))) before
  | superseded {session : Nat} (looks : point = .looking session .waiting)
      (stale : before.node.session.isCurrent session = false) :
      Effect point before none (before.note (.superseded session))
  | opened {afterBuild : Bool} {inner : RebootPoint} {after : World}
      (reboots : point = .rebooting afterBuild .waiting)
      (works : inner.session? = some (before.node.session.generation + 1))
      (resets : before.Resets .start after)
      (causes : ∀ cause, inner.permits (.tearDown cause) →
        cause = some (.reboot (before.node.session.generation + 1)))
      (marked : before.node.attached = true → after.endpoint.temporarilyOffline = true ∧
        after.endpoint.cause = some (.reboot (before.node.session.generation + 1)) ∧
        (after.endpoint.channelPresent = false ∨
          inner = .disconnecting (before.node.session.generation + 1)
            (.requesting (some (.reboot (before.node.session.generation + 1)))))) :
      Effect point before (some (.rebooting afterBuild inner)) after
  | concluded {afterBuild : Bool} {inner : RebootPoint} {session delay : Nat} {middle after : World}
      (reboots : point = .rebooting afterBuild inner) (works : inner.session? = some session)
      (through : before.Through point.permits middle)
      (scheduled : after = middle.scheduleMonitor session delay) :
      Effect point before none after
  | decided {session : Nat} {outcome : LookOutcome} {after : World}
      (tick : point.tick? = some session)
      (current : before.node.session.isCurrent session = true)
      (effect : LookPoint.Effect session before after outcome) : Effect point before none after

end Point

/-! ## Reboots -/

namespace RebootPoint

variable {world after : World}

theorem permits_of_disconnect {session : Nat} {inner : DisconnectPoint} {deed : Deed}
    (permitted : inner.permits deed) : (disconnecting session inner).permits deed := by
  cases deed with
  | describe instanceIds => cases permitted
  | command operation instanceId => cases permitted
  | _ => exact permitted

theorem permits_of_lookup {session : Nat} {instanceId : InstanceId} {failure : Provider.Failure}
    {inner : LookupPoint} {deed : Deed} (permitted : deed.IsLookup) :
    (diagnosing session instanceId failure inner).permits deed := by
  cases deed with
  | note event => trivial
  | describe instanceIds => trivial
  | _ => cases permitted

/-- The opening of a session, up to the disconnection. -/
theorem begin_eq_enter (world : World) : ∃ prepared, begin world =
      (DisconnectPoint.enter (some (.reboot (world.node.session.generation + 1))) prepared).andThen
        (.disconnecting (world.node.session.generation + 1))
        (fun () middle => .pause (.binding (world.node.session.generation + 1)) middle) ∧
    world.Resets .start prepared ∧ prepared.node.attached = world.node.attached ∧
    (world.node.attached = true → prepared.endpoint = world.endpoint.mark true
      (some (.reboot (world.node.session.generation + 1)))) := by
  have opened : world.Resets .start world.openSession := .abortAttempt .start world
  have node : world.openSession.node.attached = world.node.attached := by
    simp [World.openSession]
  have generation : world.openSession.node.session.generation = world.node.session.generation + 1 :=
    congrArg Reboot.Session.generation opened.session
  refine ⟨(world.openSession.note
    (.preparingReboot (world.node.session.generation + 1))).takeOffline
    (.reboot (world.node.session.generation + 1)), ?_, ?_, ?_, ?_⟩
  · simp only [begin, generation]
  · exact opened.quiet ((World.Quiet.note _ _).trans (World.Quiet.takeOffline _ _))
  · simpa using node
  · intro attached
    rw [World.endpoint_takeOffline (by simpa using node.trans attached)]
    simp [World.openSession]

theorem begin_eq (world : World) : ∃ inner after, begin world = .pause inner after ∧
    inner.session? = some (world.node.session.generation + 1) ∧
    world.Resets .start after ∧
    (∀ cause, inner.permits (.tearDown cause) →
      cause = some (.reboot (world.node.session.generation + 1))) ∧
    (world.node.attached = true → after.endpoint.temporarilyOffline = true ∧
      after.endpoint.cause = some (.reboot (world.node.session.generation + 1)) ∧
      (after.endpoint.channelPresent = false ∨
        inner = .disconnecting (world.node.session.generation + 1)
          (.requesting (some (.reboot (world.node.session.generation + 1)))))) := by
  rcases begin_eq_enter world with ⟨prepared, begun, resets, attached, endpoint⟩
  rw [begun]
  simp only [DisconnectPoint.enter]
  split
  · rename_i still
    have marked := endpoint (attached.symm.trans still)
    split
    · -- The agent is asked to exit first, so the channel may still be there.
      refine ⟨_, prepared, rfl, rfl, resets, ?_, ?_⟩
      · rintro cause (entering | requesting)
        · cases entering
        · cases requesting
          rfl
      · intro _
        simp [marked, Endpoint.mark]
    · refine ⟨.disconnecting _ (.tearing (prepared.startTeardown _).1),
        (prepared.startTeardown _).2, rfl, rfl, resets.quiet (.startTeardown _ _), ?_, ?_⟩
      · rintro cause (entering | requesting)
        · cases entering
        · cases requesting
      · intro _
        simp [marked, Endpoint.mark, Endpoint.teardown]
  · rename_i detached
    refine ⟨_, _, rfl, rfl, resets.quiet (.note _ _), ?_, ?_⟩
    · intro cause permitted
      cases permitted
    · intro still
      exact absurd (attached.trans still) detached

/-- No deed of a reboot changes the node. -/
theorem node_of_permits {point : RebootPoint} (deed : Deed) (world : World)
    (permitted : point.permits deed) : (deed.apply world).node = world.node := by
  cases deed with
  | bind instanceId => cases permitted
  | keep entry => cases permitted
  | replace definition => cases permitted
  | recordActivity => cases permitted
  | retire => cases permitted
  | _ => simp [Deed.apply]

/-- A reboot that has opened its session goes on with it, or ends when it has scheduled the first
look. -/
theorem resume_eq {point : RebootPoint} {session : Nat} (works : point.session? = some session)
    (world : World) :
    (∃ next after, point.resume world = .pause next after ∧ next.session? = some session ∧
      world.Through point.permits after) ∨
    ∃ middle delay,
      point.resume world = .done (.ok session) (middle.scheduleMonitor session delay) ∧
      world.Through point.permits middle := by
  cases point with
  | entering => cases works
  | waiting => cases works
  | disconnecting own inner =>
      cases works
      have lifts : ∀ deed : Deed, inner.permits deed →
          (disconnecting session inner).permits deed := fun _ => permits_of_disconnect
      have through := (inner.through world).mono lifts
      rcases stage_eq : inner.resume world with ⟨next, after⟩ | ⟨result, after⟩
      · rw [stage_eq] at through
        exact .inl ⟨.disconnecting session next, after, by simp [resume, stage_eq], rfl, through⟩
      · rw [stage_eq] at through
        exact .inl ⟨.binding session, after, by simp [resume, stage_eq], rfl, through⟩
  | binding own =>
      cases works
      rcases bound : world.node.capacity.bound? with _ | instanceId
      · exact .inr ⟨_, _, by simp only [resume, bound]; rfl, .note (fun _ => trivial) _ _⟩
      · exact .inl ⟨.commanding session instanceId, world, by simp [resume, bound], rfl, .refl _⟩
  | commanding own instanceId =>
      cases works
      rcases asked : (world.ask fun provider => provider.command .reboot instanceId) with
        ⟨failure | _, middle⟩
      · have commanded : world.Through (commanding session instanceId).permits middle :=
          .command rfl asked
        exact .inl ⟨.diagnosing session instanceId failure .waiting, middle,
          by simp [resume, asked], rfl, commanded⟩
      · have commanded : world.Through (commanding session instanceId).permits middle :=
          .command rfl asked
        exact .inr ⟨middle.note (.rebootSent instanceId), _, by simp only [resume, asked]; rfl,
          commanded.trans (.note (fun _ => trivial) _ _)⟩
  | diagnosing own instanceId failure inner =>
      cases works
      have lifts : ∀ deed : Deed, deed.IsLookup →
          (diagnosing session instanceId failure inner).permits deed := fun _ => permits_of_lookup
      have through := (inner.through world).mono lifts
      rcases stage_eq : inner.resume world with ⟨next, after⟩ | ⟨found, after⟩
      · rw [stage_eq] at through
        exact .inl ⟨.diagnosing session instanceId failure next, after, by simp [resume, stage_eq],
          rfl, through⟩
      · rw [stage_eq] at through
        exact .inr ⟨_, _, by simp only [resume, stage_eq, Stage.andThen_done]; rfl,
          through.trans (.note (fun _ => trivial) _ _)⟩

theorem spares_begin (world : World) : world.SparesNode (begin world).world := by
  have opened : world.SparesNode world.openSession := .abortAttempt .start world
  have marked : ∀ (middle : World) (event : Journal.Event) (cause : OfflineCause),
      middle.SparesNode ((middle.note event).takeOffline cause) :=
    fun middle event cause => .of_node (World.frame_takeOffline _ _).1
  have entered : ∀ (middle : World) (cause : Option OfflineCause),
      middle.SparesNode (DisconnectPoint.enter cause middle).world := by
    intro middle cause
    simp only [DisconnectPoint.enter]
    split
    · split
      · exact .of_node rfl
      · exact .of_node (World.frame_startTeardown middle cause).1
    · exact .of_node rfl
  simp only [begin]
  exact opened.trans ((marked _ _ _).trans (.andThen (entered _ _) fun _ _ => .of_node rfl))

/-- A reboot changes nothing of the node but the record of its sessions. -/
theorem spares (point : RebootPoint) (world : World) :
    world.SparesNode (point.resume world).world := by
  rcases works : point.session? with _ | session
  · cases point with
    | entering =>
        simp only [resume]
        split <;> exact .of_node rfl
    | waiting => exact spares_begin world
    | _ => cases works
  · rcases resume_eq works world with
      ⟨next, after, paused, _, through⟩ | ⟨middle, delay, ended, through⟩
    · rw [paused]
      exact .of_through through node_of_permits
    · rw [ended]
      exact (World.SparesNode.of_through through node_of_permits).trans (.of_node rfl)

end RebootPoint

/-! ## Steps -/

namespace Point

variable {point next : Point} {world after : World}

theorem spares_rebooting (afterBuild : Bool) (inner : RebootPoint) (world : World) :
    world.SparesNode ((rebooting afterBuild inner).resume world).world := by
  apply World.SparesNode.andThen (inner.spares world)
  intro result middle
  apply World.SparesNode.of_through (through_afterReboot afterBuild result middle)
  intro deed world permitted
  cases deed with
  | note event => rfl
  | _ => cases permitted

theorem tick?_of_ordinary (ordinary : point.isMonitor = false) :
    point.tick? = none ∧ point.session? = none := by
  cases point with
  | rebooting afterBuild inner => cases ordinary
  | looking session inner => cases ordinary
  | _ => exact ⟨rfl, rfl⟩

theorem tick?_of_isEntrance (entrance : next.isEntrance = true) :
    next.tick? = none ∧ next.session? = none := by
  cases next with
  | rebooting afterBuild inner =>
      cases inner with
      | entering => exact ⟨rfl, rfl⟩
      | _ => cases afterBuild <;> cases entrance
  | looking session inner => cases entrance
  | _ => exact ⟨rfl, rfl⟩

theorem tick?_next_of_ordinary (ordinary : point.isMonitor = false)
    (paused : point.resume world = .pause next after) :
    next.tick? = none ∧ next.session? = none := by
  cases leads_of_resume paused with
  | rebooting afterBuild begun => cases ordinary
  | looking session begun => cases ordinary
  | elsewhere entrance => exact tick?_of_isEntrance entrance
  | _ => exact ⟨rfl, rfl⟩

theorem effect_of_ordinary (ordinary : point.isMonitor = false) (world : World) :
    point.Effect world (point.resume world).point? (point.resume world).world := by
  have none_next : (point.resume world).point?.bind tick? = none ∧
      (point.resume world).point?.bind session? = none := by
    rcases stage_eq : point.resume world with ⟨next, after⟩ | ⟨answer, after⟩
    · exact tick?_next_of_ordinary ordinary stage_eq
    · exact ⟨rfl, rfl⟩
  have none_here := tick?_of_ordinary ordinary
  exact .kept (through ordinary world) (none_next.1.trans none_here.1.symm)
    (none_next.2.trans none_here.2.symm)

theorem world_afterReboot_ok (afterBuild : Bool) (session : Nat) (world : World) :
    (afterReboot afterBuild (.ok session) world).point? = none ∧
      (afterReboot afterBuild (.ok session) world).world = world := by
  cases afterBuild <;> exact ⟨rfl, rfl⟩

theorem effect_rebooting (afterBuild : Bool) (inner : RebootPoint) (world : World) :
    (rebooting afterBuild inner).Effect world ((rebooting afterBuild inner).resume world).point?
      ((rebooting afterBuild inner).resume world).world := by
  rcases works : inner.session? with _ | session
  · cases inner with
    | entering =>
        simp only [resume, RebootPoint.resume]
        split
        · have noted : world.Through (rebooting afterBuild .entering).permits
              (afterReboot afterBuild (.error (.retired world.node.name)) world).world := by
            cases afterBuild with
            | true => exact .note (fun _ => trivial) _ _
            | false => exact .refl _
          refine .kept noted ?_ ?_ <;> cases afterBuild <;> rfl
        · exact .kept (.refl _) rfl rfl
    | waiting =>
        rcases RebootPoint.begin_eq world with ⟨later, after, begun, own, resets, causes, marked⟩
        simp only [resume, RebootPoint.resume, begun, Stage.andThen_pause]
        exact .opened rfl own resets causes marked
    | _ => cases works
  · rcases RebootPoint.resume_eq works world with
      ⟨later, after, paused, own, through⟩ | ⟨middle, delay, ended, through⟩
    · simp only [resume, paused, Stage.andThen_pause]
      exact .kept through (own.trans works.symm) (own.trans works.symm)
    · have ends := world_afterReboot_ok afterBuild session (middle.scheduleMonitor session delay)
      simp only [resume, ended, Stage.andThen_done]
      rw [ends.1, ends.2]
      exact .concluded rfl works through rfl

theorem effect_looking (session : Nat) (inner : LookPoint) (world : World)
    (live : ∀ own, (looking session inner).session? = some own →
      world.node.session.isCurrent own = true ∧ world.node.session.attempt = none) :
    (looking session inner).Effect world ((looking session inner).resume world).point?
      ((looking session inner).resume world).world := by
  cases inner with
  | waiting =>
      rcases stage_eq : LookPoint.begin session world with ⟨later, after⟩ | ⟨outcome, after⟩
      · rcases LookPoint.begin_eq_pause stage_eq with ⟨rfl, rfl, current, managed, attached, idle⟩
        simp only [resume, LookPoint.resume, stage_eq, Stage.andThen_pause]
        exact .engaged rfl current managed attached idle
      · simp only [resume, LookPoint.resume, stage_eq, Stage.andThen_done]
        rcases LookPoint.effect_begin stage_eq with ⟨stale, rfl⟩ | ⟨current, effect⟩
        · exact .superseded rfl stale
        · exact .decided rfl current effect
  | refreshing fetch =>
      rcases live session rfl with ⟨current, idle⟩
      have through := fetch.through world
      rcases stage_eq : fetch.resume world with ⟨later, after⟩ | ⟨found, middle⟩
      · simp only [resume, LookPoint.resume, stage_eq, Stage.andThen_pause]
        rw [stage_eq] at through
        exact .kept through rfl rfl
      · rw [stage_eq] at through
        have managed : ¬Deed.IsFetch .retire := id
        have quiet : world.Quiet middle := .of_through managed through
        simp only [resume, LookPoint.resume, stage_eq, Stage.andThen_done]
        exact .decided rfl current (LookPoint.effect_afterFetch quiet idle rfl)

theorem effect (point : Point) (world : World)
    (live : ∀ session, point.session? = some session →
      world.node.session.isCurrent session = true ∧ world.node.session.attempt = none) :
    point.Effect world (point.resume world).point? (point.resume world).world := by
  cases point with
  | rebooting afterBuild inner => exact effect_rebooting afterBuild inner world
  | looking session inner => exact effect_looking session inner world live
  | _ => exact effect_of_ordinary rfl world

theorem effect_notice (news : point.hasNews world = true) :
    point.Effect world (point.notice world).point? (point.notice world).world := by
  cases point with
  | watching watch =>
      refine .kept (through_notice (.watching watch) world) ?_ ?_ <;>
        (simp only [notice]
         split <;> rfl)
  | _ => cases news

end Point

/-- Only a watchdog, which waits for its next look, has news. -/
theorem Point.obstacle_of_hasNews {point : Point} {world : World}
    (news : point.hasNews world = true) : ∃ deadline, point.obstacle = some (.time deadline) := by
  cases point with
  | watching watch => exact ⟨watch.deadline, rfl⟩
  | _ => cases news

/-- A step changes the standing of the node only by deeds. -/
theorem Point.Effect.standing {point : Point} {next : Option Point} {before after : World}
    (effect : point.Effect before next after) :
    after.node.standing = before.node.standing ∨
      ∃ middle, before.Through point.permits middle ∧ after.node = middle.node := by
  cases effect with
  | kept through tick works => exact .inr ⟨after, through, rfl⟩
  | engaged looks current managed attached idle => exact .inl rfl
  | superseded looks stale => exact .inl rfl
  | opened reboots works resets causes marked => exact .inl resets.standing
  | concluded reboots works through scheduled =>
      subst scheduled
      exact .inr ⟨_, through, rfl⟩
  | decided tick current effect =>
      cases effect with
      | closed outcome resets => exact .inl resets.standing
      | started attempt idle attempts => exact .inl attempts.standing
      | rechecked attempt delay busy underWay scheduled =>
          subst scheduled
          exact .inl rfl
      | retried attempt busy ended retries => exact .inl retries.standing

/-! ## The session lock -/

/-- Only under the session lock, or where it is about to be taken, is the record changed. -/
theorem Point.Effect.session_eq {point : Point} {next : Option Point} {before after : World}
    (effect : point.Effect before next after) (open_handed : point.holds .session = false)
    (indifferent : point.obstacle ≠ some (.lock .session)) :
    after.node.session = before.node.session := by
  cases effect with
  | kept through tick works => exact through.session_eq
  | engaged looks current managed attached idle => rfl
  | superseded looks stale => rfl
  | opened reboots works resets causes marked =>
      subst reboots
      exact absurd rfl indifferent
  | concluded reboots works through scheduled =>
      rw [scheduled]
      exact through.session_eq
  | decided tick current effect =>
      cases point with
      | rebooting afterBuild inner =>
          have works : (Point.rebooting afterBuild inner).session? = some _ := tick
          have holds := Point.holds_of_session? works
          simp [open_handed] at holds
      | looking session inner =>
          cases inner with
          | waiting => exact absurd rfl indifferent
          | refreshing fetch => cases open_handed
      | _ => cases tick

namespace Execution

/-- A task that works on a session under the session lock finds it live, with no attempt. -/
def Guarded (execution : Execution) : Prop :=
  ∀ task, task ∈ execution.running → ∀ session, task.point.session? = some session →
    execution.world.node.session.isCurrent session = true ∧
      execution.world.node.session.attempt = none

variable {execution : Execution} {move : Move} {earlier later : List Task} {task : Task}
  {stage : Stage Point Answer}

theorem Takes.effect (takes : execution.Takes task move stage) (guarded : execution.Guarded)
    (running : task ∈ execution.running) :
    task.point.Effect execution.world stage.point? stage.world := by
  cases takes with
  | resume ready => exact task.point.effect execution.world (guarded task running)
  | notice news => exact Point.effect_notice news

/-- A task that holds the session lock, or takes it, is the only one to do so. -/
theorem Takes.alone (takes : execution.Takes task move stage) (orderly : execution.Orderly)
    (split : execution.running = earlier ++ task :: later)
    (locks : task.point.holds .session = true ∨ task.point.obstacle = some (.lock .session))
    {other : Task} (others : other ∈ earlier ++ later) : other.point.holds .session = false := by
  rcases locks with holds | waits
  · exact (orderly.excludes split others).lock .session holds
  · cases takes with
    | resume ready =>
        simp only [isReady, waits, isClear] at ready
        exact not_holds_of_isFree ready (mem_of_split split others)
    | notice news =>
        rcases Point.obstacle_of_hasNews news with ⟨deadline, timed⟩
        simp [timed] at waits

/-- While another task holds the session lock, the record stays as it is. -/
theorem Takes.session_eq (takes : execution.Takes task move stage) (orderly : execution.Orderly)
    (guarded : execution.Guarded) (split : execution.running = earlier ++ task :: later)
    {other : Task} (others : other ∈ earlier ++ later) (holds : other.point.holds .session = true) :
    stage.world.node.session = execution.world.node.session := by
  have only := fun locks => takes.alone orderly split locks others
  refine (takes.effect guarded (mem_of_eq_append split)).session_eq ?_ ?_
  · by_contra own
    have free := only (.inl (by simpa using own))
    simp [holds] at free
  · intro waits
    have free := only (.inr waits)
    simp [holds] at free

end Execution

/-- What a step leaves of a task works on a session only if that session is live and idle. -/
theorem Point.Effect.guarded {point next : Point} {before after : World}
    (effect : point.Effect before (some next) after)
    (live : ∀ session, point.session? = some session →
      before.node.session.isCurrent session = true ∧ before.node.session.attempt = none)
    {session : Nat} (works : next.session? = some session) :
    after.node.session.isCurrent session = true ∧ after.node.session.attempt = none := by
  generalize next_eq : some next = later at effect
  cases effect with
  | kept through tick same =>
      subst next_eq
      rw [through.session_eq]
      exact live session (same.symm.trans works)
  | engaged looks current managed attached idle =>
      cases next_eq
      cases works
      exact ⟨current, idle⟩
  | opened reboots own resets causes marked =>
      cases next_eq
      have same := own.symm.trans works
      simp only [Option.some.injEq] at same
      subst same
      simp [resets.session, Reboot.Session.isCurrent, Reboot.Session.start]
  | superseded looks stale => cases next_eq
  | concluded reboots own through scheduled => cases next_eq
  | decided tick current effect => cases next_eq

/-! ## The session lock does its work -/

namespace Execution

theorem session?_entry (request : Request) : request.entry.session? = none := by
  cases request <;> rfl

theorem Guarded.started {execution : Execution} (guarded : execution.Guarded) {number : Nat}
    {request : Request} {world : World}
    (same : world.node.session = execution.world.node.session) :
    Guarded { execution with
      world
      running := execution.running ++ [⟨number, request, request.entry⟩]
      nextNumber := number + 1 } := by
  intro task running session works
  rw [List.mem_append, List.mem_singleton] at running
  rcases running with old | rfl
  · dsimp only
    rw [same]
    exact guarded task old session works
  · rw [session?_entry] at works
    cases works

theorem Guarded.step {before after : Execution} {move : Move} (orderly : before.Orderly)
    (step : before.Step move after) (guarded : before.Guarded) : after.Guarded := by
  cases step with
  | idle move => exact guarded
  | outside move change changes =>
      intro task running session works
      have same := (Move.frame_outside changes before.world).1
      simp only [withWorld, same]
      exact guarded task running session works
  | started number request fresh => exact guarded.started rfl
  | looked number session delay agenda fresh scheduled =>
      have same : (before.world.withAgenda delay agenda).node.session =
          before.world.node.session := by simp
      exact guarded.started same
  | lost number session delay agenda scheduled dropped =>
      intro task running own works
      have live := guarded task running own works
      simpa [withWorld] using live
  | advanced move earlier later task stage split takes =>
      intro other others session works
      rcases mem_replace.mp others with left | still
      · rcases mem_remaining left with ⟨next, world, rfl, rfl⟩
        have effect := takes.effect guarded (mem_of_eq_append split)
        exact effect.guarded (guarded task (mem_of_eq_append split)) works
      · -- The other task holds the session lock, so this step leaves the record alone.
        have holds := Point.holds_of_session? works
        simp only [replace, takes.session_eq orderly guarded split still holds]
        exact guarded other (mem_of_split split still) session works

/-- What is known of every reachable execution. -/
structure Sound (execution : Execution) : Prop where
  orderly : execution.Orderly
  guarded : execution.Guarded

namespace Sound

variable {execution before after : Execution}

theorem step {move : Move} (sound : before.Sound) (step : before.Step move after) : after.Sound :=
  ⟨sound.orderly.step step, sound.guarded.step sound.orderly step⟩

theorem run (sound : execution.Sound) (moves : List Move) : (execution.run moves).Sound := by
  induction moves generalizing execution with
  | nil => exact sound
  | cons move moves ih => exact ih (sound.step (step_apply sound.orderly move))

/-- What every step keeps holds after every list of moves. Of the moves it may be known that they
are of one kind. -/
theorem run_induction (sound : execution.Sound) (kind : Move → Prop)
    (invariant : Execution → Prop)
    (kept : ∀ before after move, Sound before → kind move → before.Step move after →
      invariant before → invariant after)
    (holds : invariant execution) (moves : List Move) (ofKind : ∀ move, move ∈ moves → kind move) :
    invariant (execution.run moves) := by
  induction moves generalizing execution with
  | nil => exact holds
  | cons move moves ih =>
      have step := step_apply sound.orderly move
      have first := kept _ _ move sound (ofKind move List.mem_cons_self) step holds
      exact ih (sound.step step) first fun later found =>
        ofKind later (List.mem_cons_of_mem move found)

end Sound

end Execution

theorem Outset.sound_execution (outset : Outset) : outset.execution.Sound := by
  refine ⟨outset.orderly_execution, ?_⟩
  intro task running
  cases running

theorem Outset.sound_run (outset : Outset) (moves : List Move) :
    (outset.execution.run moves).Sound :=
  outset.sound_execution.run moves

end BuildAgent
