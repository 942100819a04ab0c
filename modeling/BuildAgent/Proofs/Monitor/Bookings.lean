import BuildAgent.Proofs.Monitor.Timeline

/-!
# What the looks are scheduled for

No step of a task takes time, and a step changes the agenda in one way only: it schedules the next
look of the session that depends on the task, after a delay that is counted from the step
(`Point.Books`). A reboot that ends schedules the first look of its session after the initial delay.
-/

namespace BuildAgent

/-! ## Reboots that end -/

namespace RebootPoint

variable {point : RebootPoint} {session : Nat} {world middle after : World}
  {result : Except Refusal Nat}

theorem agenda_of_finish (through : world.Through point.permits middle)
    (ledger : middle.ledger = world.ledger)
    (ended : finish session middle = .done result after) :
    after.agenda = world.agenda.schedule world.clock world.node.timings.reboot.initialDelay
      session := by
  have timings : middle.node.timings = world.node.timings := congrArg Prod.fst ledger
  simp only [finish, Stage.done.injEq] at ended
  rw [← ended.2, (World.frame_scheduleMonitor ..).2.2.2.1, through.agenda_eq, through.clock_eq,
    timings]

/-- A reboot that ends has scheduled the first look of its session after the initial delay. -/
theorem agenda_of_done (works : point.session? = some session)
    (ended : point.resume world = .done result after) :
    after.agenda = world.agenda.schedule world.clock world.node.timings.reboot.initialDelay
      session := by
  cases point with
  | entering => cases works
  | waiting => cases works
  | disconnecting own inner =>
      rcases stage_eq : inner.resume world with ⟨next, middle⟩ | ⟨_, middle⟩
      · simp [resume, stage_eq] at ended
      · simp [resume, stage_eq] at ended
  | binding own =>
      cases works
      simp only [resume] at ended
      split at ended
      · cases ended
      · have noted : world.Through (binding session).permits (world.note .rebootNotSent) :=
          .note (fun _ => trivial) _ _
        exact agenda_of_finish noted (world.ledger_note .rebootNotSent rfl) ended
  | commanding own instanceId =>
      cases works
      have commanded := world.ledger_command .reboot instanceId
      simp only [resume] at ended
      split at ended
      · rename_i middle asked
        rw [asked] at commanded
        have sent : world.Through (commanding session instanceId).permits middle :=
          .command rfl asked
        exact agenda_of_finish (sent.trans (.note (fun _ => trivial) _ _))
          ((middle.ledger_note (.rebootSent instanceId) rfl).trans commanded) ended
      · cases ended
  | diagnosing own instanceId failure inner =>
      cases works
      have through : world.Through (diagnosing session instanceId failure inner).permits
          (inner.resume world).world := (inner.through world).mono fun _ => permits_of_lookup
      have ledger := inner.ledger_resume world
      rcases stage_eq : inner.resume world with ⟨next, middle⟩ | ⟨found, middle⟩
      · simp [resume, stage_eq] at ended
      · rw [stage_eq] at through ledger
        simp only [resume, stage_eq, Stage.andThen_done] at ended
        exact agenda_of_finish (through.trans (.note (fun _ => trivial) _ _))
          ((middle.ledger_note (.rebootFailed instanceId failure (diagnosticOf found)) rfl).trans
            ledger) ended

end RebootPoint

/-! ## No step of a task takes time or sends anything -/

namespace LookPoint

theorem given_abandon (session : Nat) (reason : Reboot.AbandonReason) (world : World) :
    (abandon session reason world).2.given = world.given := by
  simp [abandon, World.closeSession]

theorem given_act (session : Nat) (observation : Reboot.Observation) (world : World) :
    (act session observation world).2.given = world.given := by
  simp only [act]
  split
  · simp only [startAttempt, World.connect?]
    split
    · exact given_abandon session .endpointGone world
    · rename_i attempt begun connected
      split at connected
      · have started := (world.note (.startingConnection false)).given_startConnection false
        simp only [Option.some.injEq] at connected
        rw [connected] at started
        exact started
      · cases connected
  · rfl
  · simp [World.closeSession]
  · simp [retryLaunch]
  · exact given_abandon session _ world

theorem given_takeAttempt (ended : Link.Outcome) (world : World) :
    (takeAttempt ended world).given = world.given := by
  cases ended <;> rfl

theorem given_begin (session : Nat) (world : World) :
    (begin session world).world.given = world.given := by
  simp only [begin]
  split
  · rfl
  split
  · exact given_abandon session .nodeRetired world
  split
  · exact given_abandon session .endpointGone world
  split
  · rfl
  · split
    · exact given_act session .attemptPending world
    · exact (given_act session _ _).trans (given_takeAttempt _ world)

end LookPoint

theorem Stage.given_andThen {π π' ρ ρ' : Type} {stage : Stage π ρ} {wrap : π → π'}
    {next : ρ → World → Stage π' ρ'} {world : World} (part : stage.world.given = world.given)
    (rest : ∀ result middle, (next result middle).world.given = middle.given) :
    (stage.andThen wrap next).world.given = world.given := by
  cases stage with
  | pause point middle => exact part
  | done result middle => exact (rest result middle).trans part

theorem RebootPoint.given_begin (world : World) : (begin world).world.given = world.given := by
  refine Stage.given_andThen ?_ fun _ _ => rfl
  refine (DisconnectPoint.through_enter _ _).given_eq.trans ?_
  simp [World.openSession]

namespace Point

theorem given_rebooting (afterBuild : Bool) (inner : RebootPoint) (world : World) :
    ((rebooting afterBuild inner).resume world).world.given = world.given := by
  have part : (inner.resume world).world.given = world.given := by
    rcases works : inner.session? with _ | session
    · cases inner with
      | entering =>
          simp only [RebootPoint.resume]
          split <;> rfl
      | waiting => exact RebootPoint.given_begin world
      | _ => cases works
    · rcases RebootPoint.resume_eq works world with
        ⟨next, after, paused, _, through⟩ | ⟨middle, delay, ended, through⟩
      · rw [paused]
        exact through.given_eq
      · rw [ended]
        exact through.given_eq
  exact Stage.given_andThen part fun result middle =>
    (through_afterReboot afterBuild result middle).given_eq

/-- No step of a task takes time, and none sends anything over the shutdown channel. -/
theorem given_resume (point : Point) (world : World) :
    (point.resume world).world.given = world.given := by
  cases point with
  | rebooting afterBuild inner => exact given_rebooting afterBuild inner world
  | looking session inner =>
      cases inner with
      | waiting => exact Stage.given_andThen (LookPoint.given_begin session world) fun _ _ => rfl
      | refreshing fetch =>
          refine Stage.given_andThen ?_ fun _ _ => rfl
          exact Stage.given_andThen (fetch.through world).given_eq fun found middle =>
            LookPoint.given_act session _ middle
  | _ => exact (through rfl world).given_eq

theorem clock_resume (point : Point) (world : World) :
    (point.resume world).world.clock = world.clock :=
  congrArg Prod.fst (point.given_resume world)

/-! ## What a step does to the agenda -/

/-- A step of a task leaves the agenda alone, or it schedules the look that depends on the task. -/
inductive Books (point : Point) (before : World) (after : World) : Prop where
  | kept (agenda : after.agenda = before.agenda)
  | booked (session delay : Nat) (tick : point.tick? = some session)
      (agenda : after.agenda = before.agenda.schedule before.clock delay session)

theorem books_rebooting (afterBuild : Bool) (inner : RebootPoint) (world : World) :
    (rebooting afterBuild inner).Books world ((rebooting afterBuild inner).resume world).world := by
  have rest : ∀ result (middle : World),
      (afterReboot afterBuild result middle).world.agenda = middle.agenda :=
    fun result middle => (through_afterReboot afterBuild result middle).agenda_eq
  simp only [resume]
  rcases stage_eq : inner.resume world with ⟨next, after⟩ | ⟨result, after⟩
  · refine .kept ?_
    rcases works : inner.session? with _ | session
    · cases inner with
      | entering =>
          simp only [RebootPoint.resume] at stage_eq
          split at stage_eq
          · cases stage_eq
          · cases stage_eq
            rfl
      | waiting =>
          rcases RebootPoint.begin_eq world with ⟨later, middle, begun, _, resets, _⟩
          rw [RebootPoint.resume, begun] at stage_eq
          cases stage_eq
          exact resets.agenda
      | _ => cases works
    · rcases RebootPoint.resume_eq works world with
        ⟨later, middle, paused, _, through⟩ | ⟨middle, delay, ended, _⟩
      · rw [paused] at stage_eq
        cases stage_eq
        exact through.agenda_eq
      · rw [ended] at stage_eq
        cases stage_eq
  · rcases works : inner.session? with _ | session
    · refine .kept ((rest result after).trans ?_)
      cases inner with
      | entering =>
          simp only [RebootPoint.resume] at stage_eq
          split at stage_eq
          · cases stage_eq
            rfl
          · cases stage_eq
      | waiting =>
          rcases RebootPoint.begin_eq world with ⟨later, middle, begun, _⟩
          rw [RebootPoint.resume, begun] at stage_eq
          cases stage_eq
      | _ => cases works
    · exact .booked session _ works
        ((rest result after).trans (RebootPoint.agenda_of_done works stage_eq))

theorem books_looking {session : Nat} {inner : LookPoint} {world : World}
    (live : ∀ own, (looking session inner).session? = some own →
      world.node.session.isCurrent own = true ∧ world.node.session.attempt = none) :
    (looking session inner).Books world ((looking session inner).resume world).world := by
  simp only [resume]
  rcases stage_eq : inner.resume session world with ⟨next, after⟩ | ⟨outcome, after⟩
  · exact .kept (LookPoint.through_of_pause stage_eq).1.agenda_eq
  · cases LookPoint.verdict_of_resume stage_eq live with
    | superseded stale kept ledger agenda => exact .kept agenda
    | started attempt current idle record ledger agenda => exact .booked session _ rfl agenda
    | pending attempt current busy underWay kept ledger agenda =>
        exact .booked session _ rfl agenda
    | retried attempt current busy ended record ledger agenda => exact .booked session _ rfl agenda
    | ended outcome ending current closed ledger agenda => exact .kept agenda

theorem books (point : Point) (world : World)
    (live : ∀ own, point.session? = some own →
      world.node.session.isCurrent own = true ∧ world.node.session.attempt = none) :
    point.Books world (point.resume world).world := by
  cases point with
  | rebooting afterBuild inner => exact books_rebooting afterBuild inner world
  | looking session inner => exact books_looking live
  | _ => exact .kept (through rfl world).agenda_eq

end Point

/-- Time goes on only between the steps of tasks, and never back. -/
theorem Execution.Step.clock_le {before after : Execution} {move : Move}
    (step : before.Step move after) : before.world.clock ≤ after.world.clock := by
  cases step with
  | idle move => exact Nat.le_refl _
  | outside move change changes => exact Move.clock_outside changes before.world
  | started number request fresh held => exact Nat.le_refl _
  | looked number session delay agenda fresh scheduled present => simp
  | lost number session delay agenda scheduled dropped alone => simp [withWorld]
  | advanced move earlier later task stage split takes =>
      cases takes with
      | resume ready => exact Nat.le_of_eq (task.point.clock_resume before.world).symm
      | notice news =>
          exact Nat.le_of_eq (task.point.through_notice before.world).clock_eq.symm

theorem Execution.clock_le_run {execution : Execution} (orderly : execution.Orderly)
    (moves : List Move) : execution.world.clock ≤ (execution.run moves).world.clock := by
  induction moves generalizing execution with
  | nil => exact Nat.le_refl _
  | cons move moves hypothesis =>
      have step := step_apply orderly move
      exact Nat.le_trans step.clock_le (hypothesis (orderly.step step))

end BuildAgent
