import BuildAgent.Proofs.Monitor.Bookings

/-!
# The pace of reconnects

Where the scheduler follows the clock and nobody asks for looks out of turn, a session has one look
at a time, and that look comes up when the delay that it was scheduled with has passed. So whoever
schedules the look of a session keeps the session at rest for that long: `Execution.Deferred` says
that a session has no look before a time, and every later step keeps it, whatever the looks of other
sessions do.

The delays add up. Between two attempts of one session there is a look that found the first one
failed, and it was the next look but pending ones (`Execution.Busy`).
-/

namespace BuildAgent

/-- A task that does not work under the session lock can open a session, and only a look can do
more than that. -/
theorem Point.Effect.opens_or_looks {point : Point} {next : Option Point}
    {before after : World} (effect : point.Effect before next after)
    (works : point.session? = none) :
    after.node.session = before.node.session ∨
      after.node.session = before.node.session.start ∨
      ∃ own, point = .looking own .waiting := by
  cases effect with
  | kept through tick own => exact .inl through.session_eq
  | engaged looks current managed attached idle => exact .inl rfl
  | superseded looks stale => exact .inl rfl
  | opened reboots own resets causes marked => exact .inr (.inl resets.session)
  | concluded reboots own through scheduled =>
      subst reboots
      cases works.symm.trans own
  | decided tick current effect =>
      rename_i own outcome
      refine .inr (.inr ⟨own, ?_⟩)
      cases point with
      | rebooting afterBuild inner => cases works.symm.trans tick
      | looking other inner =>
          cases tick
          cases inner with
          | waiting => rfl
          | refreshing fetch => cases works
      | _ => cases tick

namespace Execution

variable {execution before after : Execution} {move : Move} {task : Task}
  {stage : Stage Point Answer} {earlier later : List Task} {session time : Nat}

theorem Takes.books (takes : execution.Takes task move stage) (guarded : execution.Guarded)
    (running : task ∈ execution.running) :
    task.point.Books execution.world stage.world ∧
      stage.world.clock = execution.world.clock := by
  cases takes with
  | resume ready =>
      exact ⟨task.point.books execution.world (guarded task running),
        task.point.clock_resume execution.world⟩
  | notice news =>
      have through := task.point.through_notice execution.world
      exact ⟨.kept through.agenda_eq, through.clock_eq⟩

/-! ## A session at rest -/

/-- Whether a session has no look before a time: none that is scheduled comes up earlier, none is
under way while the time has not come, and no other task is about to schedule one. -/
structure Deferred (session time : Nat) (execution : Execution) : Prop where
  follows : execution.world.agenda.followsClock = true
  opened : session ≤ execution.world.node.session.generation
  scheduled : ∀ due, (due, session) ∈ execution.world.agenda.dues → time ≤ due
  underWay : ∀ task, task ∈ execution.running → task.point.tick? = some session →
    task.point.request? = some (.look session) ∧ time ≤ execution.world.clock

namespace Deferred

theorem started (deferred : before.Deferred session time) {world : World} {number : Nat}
    {request : Request} (follows : world.agenda.followsClock = true)
    (generation : world.node.session.generation = before.world.node.session.generation)
    (scheduled : ∀ entry, entry ∈ world.agenda.dues → entry ∈ before.world.agenda.dues)
    (clock : world.clock = before.world.clock)
    (asked : request = .look session → time ≤ before.world.clock) :
    Deferred session time { before with
      world
      running := before.running ++ [⟨number, request, request.entry⟩]
      nextNumber := number + 1 } := by
  refine ⟨follows, generation ▸ deferred.opened, ?_, ?_⟩
  · intro due waits
    exact deferred.scheduled due (scheduled _ waits)
  · intro task running tick
    dsimp only
    rw [clock]
    rw [List.mem_append, List.mem_singleton] at running
    rcases running with old | rfl
    · exact deferred.underWay task old tick
    · rcases tick?_entry request with ⟨own, rfl, same⟩ | none_own
      · dsimp only at tick
        rw [same] at tick
        cases tick
        exact ⟨rfl, asked rfl⟩
      · rw [none_own] at tick
        cases tick

theorem step (deferred : before.Deferred session time) (sound : before.Sound)
    (inTurn : move.asksForLook = false) (step : before.Step move after) :
    after.Deferred session time := by
  have whole := step
  cases step with
  | idle move => exact deferred
  | outside move change changes =>
      rcases Move.frame_outside changes before.world with ⟨record, agenda, _, _⟩
      have clock := Move.clock_outside changes before.world
      refine ⟨?_, ?_, ?_, ?_⟩
      · simpa only [withWorld, agenda] using deferred.follows
      · simpa only [withWorld, record] using deferred.opened
      · simpa only [withWorld, agenda] using deferred.scheduled
      · intro task running tick
        have underWay := deferred.underWay task running tick
        exact ⟨underWay.1, Nat.le_trans underWay.2 clock⟩
  | started number request fresh held =>
      refine deferred.started deferred.follows rfl (fun _ => id) rfl ?_
      rintro rfl
      cases inTurn
  | looked number own delay agenda fresh scheduled present =>
      rcases World.due_of_scheduled? scheduled deferred.follows with
        ⟨follows, ⟨due, waits, passed⟩, kept⟩
      have asked : Request.look own = .look session → time ≤ before.world.clock := by
        intro same
        cases same
        exact Nat.le_trans (deferred.scheduled due waits) passed
      exact deferred.started (by simpa using follows) (by simp) (by simpa using kept) (by simp)
        asked
  | lost number own delay agenda scheduled dropped alone =>
      rcases World.due_of_scheduled? scheduled deferred.follows with ⟨follows, _, kept⟩
      refine ⟨by simpa [withWorld] using follows, by simpa [withWorld] using deferred.opened, ?_,
        ?_⟩
      · intro due waits
        exact deferred.scheduled due (kept _ (by simpa [withWorld] using waits))
      · intro task running tick
        simpa [withWorld] using deferred.underWay task running tick
  | advanced move earlier later task stage split takes =>
      have running := mem_of_eq_append split
      rcases takes.books sound.guarded running with ⟨books, clock⟩
      refine ⟨?_, Nat.le_trans deferred.opened (whole.tally sound).generation_le, ?_, ?_⟩
      · cases books with
        | kept agenda => exact (congrArg _ agenda).trans deferred.follows
        | booked own delay tick agenda =>
            refine (congrArg _ agenda).trans ?_
            rw [Schedule.Agenda.followsClock_schedule]
            exact deferred.follows
      · intro due waits
        simp only [replace] at waits
        cases books with
        | kept agenda => exact deferred.scheduled due (agenda ▸ waits)
        | booked own delay tick agenda =>
            rw [agenda] at waits
            rcases Schedule.Agenda.mem_dues_schedule waits with old | new
            · exact deferred.scheduled due old
            · cases new
              exact Nat.le_trans (deferred.underWay task running tick).2 (Nat.le_add_right _ _)
      · intro other others tick
        dsimp only [replace]
        rw [clock]
        rcases mem_replace.mp others with left | still
        · rcases mem_remaining left with ⟨next, world, rfl, rfl⟩
          have same := takes.request?
          have passes := (takes.effect sound.guarded running).passes fun own works =>
            (sound.guarded task running own works).1
          generalize tick_eq : task.point.tick? = old at passes
          simp only [Stage.point?, Option.bind_some, tick] at passes
          cases passes with
          | same _ _ _ =>
              have underWay := deferred.underWay task running tick_eq
              exact ⟨same.trans underWay.1, underWay.2⟩
          | opened _ _ => exact absurd deferred.opened (by omega)
        · exact deferred.underWay other (mem_of_split split still) tick

theorem run (deferred : execution.Deferred session time) (sound : execution.Sound)
    (moves : List Move) (inTurn : ∀ move, move ∈ moves → move.asksForLook = false) :
    (execution.run moves).Deferred session time := by
  refine sound.run_induction (fun move => move.asksForLook = false) (Deferred session time) ?_
    deferred moves inTurn
  intro before after move sound inTurn step deferred
  exact deferred.step sound inTurn step

end Deferred

/-- A look of a session at rest ends when the rest is over. -/
theorem Deferred.le_time {look : Look} (deferred : execution.Deferred look.session time)
    (ends : execution.look? move = some look) : time ≤ look.time := by
  rcases look_of_look? ends with ⟨now, task, inner, after, running, _, _, looks, _⟩
  rw [now]
  exact (deferred.underWay task running (by rw [looks]; rfl)).2

/-- The task that a session's next look depends on is the only look that the session has. -/
theorem WatchedOnce.alone (once : execution.WatchedOnce)
    (split : execution.running = earlier ++ task :: later)
    (tick : task.point.tick? = some session) :
    session ∉ execution.world.agenda.jobs ∧ session ≤ execution.world.node.session.generation ∧
      ∀ other, other ∈ earlier ++ later → other.point.tick? ≠ some session := by
  have most := once.atMost session
  have count := count_looks_of_split split session
  rw [tick, Option.toList_some, List.count_singleton_self] at count
  refine ⟨?_, ?_, ?_⟩
  · rw [← List.count_eq_zero]
    omega
  · by_contra beyond
    have none_yet := once.future session (by omega)
    omega
  · intro other others same
    have found : session ∈ (earlier ++ later).filterMap fun task => task.point.tick? :=
      List.mem_filterMap.mpr ⟨other, others, same⟩
    have positive := List.count_pos_iff.mpr found
    omega

/-- Whoever schedules the next look of a session, or ends without one, leaves it at rest. -/
theorem Takes.deferred (takes : execution.Takes task move stage) (sound : execution.Sound)
    (once : execution.WatchedOnce) (split : execution.running = earlier ++ task :: later)
    (follows : execution.world.agenda.followsClock = true)
    (tick : task.point.tick? = some session) (ended : stage.point? = none)
    (books : (∃ delay, time ≤ execution.world.clock + delay ∧ stage.world.agenda =
        execution.world.agenda.schedule execution.world.clock delay session) ∨
      stage.world.agenda = execution.world.agenda) :
    (execution.replace earlier task later stage).Deferred session time := by
  have running := mem_of_eq_append split
  rcases once.alone split tick with ⟨absent, opened, others_apart⟩
  have none_before : ∀ due, (due, session) ∉ execution.world.agenda.dues :=
    fun due waits => absent (Schedule.Agenda.mem_jobs_of_mem_dues waits)
  have grows := (Step.advanced move earlier later task stage split takes).tally sound
    |>.generation_le
  refine ⟨?_, Nat.le_trans opened grows, ?_, ?_⟩
  · rcases books with ⟨delay, _, agenda⟩ | agenda
    · refine (congrArg _ agenda).trans ?_
      rw [Schedule.Agenda.followsClock_schedule]
      exact follows
    · exact (congrArg _ agenda).trans follows
  · intro due waits
    simp only [replace] at waits
    rcases books with ⟨delay, bound, agenda⟩ | agenda
    · rw [agenda] at waits
      rcases Schedule.Agenda.mem_dues_schedule waits with old | new
      · exact absurd old (none_before due)
      · cases new
        exact bound
    · exact absurd (agenda ▸ waits) (none_before due)
  · intro other others same
    rcases mem_replace.mp others with left | still
    · rcases mem_remaining left with ⟨next, world, rfl, rfl⟩
      cases ended
    · exact absurd same (others_apart other still)

/-- A look that ends leaves its session at rest for as long as its outcome says. -/
theorem deferred_of_look? {look : Look} (time : Nat) (sound : execution.Sound)
    (once : execution.WatchedOnce)
    (follows : execution.world.agenda.followsClock = true)
    (ends : execution.look? move = some look)
    (bound : ∀ rest, look.outcome.rest? execution.world.node.timings.reboot = some rest →
      time ≤ look.time + rest) :
    (execution.apply move).Deferred look.session time := by
  have now := (look_of_look? ends).1
  rcases takes_of_look? sound ends with
    ⟨task, earlier, later, inner, after, split, looks, takes, moved, verdict⟩
  rw [moved]
  refine takes.deferred sound once split follows (by rw [looks]; rfl) rfl ?_
  rw [now] at bound
  clear takes moved ends
  generalize look.outcome = outcome at verdict bound
  cases verdict with
  | superseded stale kept ledger agenda => exact .inr agenda
  | started attempt current idle record ledger agenda => exact .inl ⟨_, bound _ rfl, agenda⟩
  | pending attempt current busy underWay kept ledger agenda =>
      exact .inl ⟨_, bound _ rfl, agenda⟩
  | retried attempt current busy failed record ledger agenda =>
      exact .inl ⟨_, bound _ rfl, agenda⟩
  | ended outcome ending current closed ledger agenda => exact .inr agenda

/-! ## Reboots -/

/-- Whether a reboot works on a session and has not scheduled its first look. -/
def Rebooting (session time : Nat) (execution : Execution) : Prop :=
  time ≤ execution.world.clock ∧ ∃ task, task ∈ execution.running ∧
    ∃ afterBuild inner, task.point = .rebooting afterBuild inner ∧ inner.session? = some session

/-- The first look of a session comes up only after the initial delay. -/
theorem rebooting_or_deferred {policy : Reboot.Policy} (sound : before.Sound)
    (once : before.WatchedOnce) (follows : before.world.agenda.followsClock = true)
    (policy_eq : before.world.node.timings.reboot = policy) (step : before.Step move after)
    (reboots : before.Rebooting session time) :
    after.Rebooting session time ∨ after.Deferred session (time + policy.initialDelay) := by
  rcases reboots with ⟨passed, task, running, afterBuild, inner, point, works⟩
  have passed_still := Nat.le_trans passed step.clock_le
  cases step with
  | idle move => exact .inl ⟨passed, task, running, afterBuild, inner, point, works⟩
  | outside move change changes =>
      exact .inl ⟨passed_still, task, running, afterBuild, inner, point, works⟩
  | started number request fresh held =>
      exact .inl ⟨passed, task, List.mem_append_left _ running, afterBuild, inner, point, works⟩
  | looked number own delay agenda fresh scheduled present =>
      exact .inl ⟨passed_still, task, List.mem_append_left _ running, afterBuild, inner, point,
        works⟩
  | lost number own delay agenda scheduled dropped alone =>
      rw [alone] at running
      cases running
  | advanced move earlier later mover stage split takes =>
      rcases List.mem_append.mp (split ▸ running) with early | here
      · exact .inl ⟨passed_still, task, mem_replace.mpr (.inr (List.mem_append_left _ early)),
          afterBuild, inner, point, works⟩
      rcases List.mem_cons.mp here with rfl | late
      · cases takes with
        | notice news =>
            rw [point] at news
            cases news
        | resume ready =>
            have takes : before.Takes task (.resume task.number)
                (task.point.resume before.world) := .resume ready
            rcases RebootPoint.resume_eq works before.world with
              ⟨next, middle, paused, goesOn, _⟩ | ⟨middle, delay, ended, _⟩
            · have stage_eq : task.point.resume before.world =
                  .pause (.rebooting afterBuild next) middle := by
                simp [point, Point.resume, paused]
              refine .inl ⟨passed_still, { task with point := .rebooting afterBuild next }, ?_,
                afterBuild, next, rfl, goesOn⟩
              rw [stage_eq]
              exact mem_replace.mpr (.inl List.mem_cons_self)
            · right
              have concluded := Point.world_afterReboot_ok afterBuild session
                (middle.scheduleMonitor session delay)
              have stage_eq : task.point.resume before.world = Point.afterReboot afterBuild
                  (.ok session) (middle.scheduleMonitor session delay) := by
                simp [point, Point.resume, ended]
              refine takes.deferred sound once split follows (by rw [point]; exact works)
                (by rw [stage_eq]; exact concluded.1) (.inl ⟨policy.initialDelay, by omega, ?_⟩)
              rw [stage_eq, concluded.2, ← policy_eq]
              exact RebootPoint.agenda_of_done works ended
      · exact .inl ⟨passed_still, task, mem_replace.mpr (.inr (List.mem_append_right _ late)),
          afterBuild, inner, point, works⟩

/-! ## One attempt after the other -/

/-- Whether the live session holds an attempt. -/
def Busy (session : Nat) (execution : Execution) : Prop :=
  execution.world.node.session.isCurrent session = true ∧
    execution.world.node.session.attempt.isSome = true

theorem Busy.of_same (busy : before.Busy session)
    (same : after.world.node.session = before.world.node.session) : after.Busy session := by
  simpa only [Busy, same] using busy

/-- An attempt is put aside only by a look that finds it failed, or with its session. -/
theorem Busy.step (busy : before.Busy session) (sound : before.Sound)
    (step : before.Step move after) :
    (∃ time, before.look? move = some ⟨time, session, .retryScheduled⟩) ∨
      after.world.node.session.IsOver session ∨ after.Busy session := by
  have not_idle : before.world.node.session.attempt ≠ none := by
    intro idle
    simp [Busy, idle] at busy
  have generation : before.world.node.session.generation = session := by
    have current := busy.1
    simp only [Reboot.Session.isCurrent, Bool.and_eq_true, decide_eq_true_eq] at current
    exact current.2
  cases step with
  | idle move => exact .inr (.inr busy)
  | outside move change changes =>
      exact .inr (.inr (busy.of_same (Move.frame_outside changes before.world).1))
  | started number request fresh held => exact .inr (.inr busy)
  | looked number own delay agenda fresh scheduled present =>
      exact .inr (.inr (busy.of_same (by simp)))
  | lost number own delay agenda scheduled dropped alone =>
      exact .inr (.inr (busy.of_same (by simp [withWorld])))
  | advanced move earlier later task stage split takes =>
      have running := mem_of_eq_append split
      have guarded := sound.guarded task running
      -- A task that works on a session finds it without an attempt, so this one does not.
      have works : task.point.session? = none := by
        by_contra other
        rcases Option.ne_none_iff_exists'.mp other with ⟨own, works⟩
        exact not_idle (guarded own works).2
      rcases (takes.effect sound.guarded running).opens_or_looks works with
        same | opened | ⟨own, looks⟩
      · exact .inr (.inr (busy.of_same same))
      · refine .inr (.inl (.inl ?_))
        simp only [replace, opened, Reboot.Session.start]
        omega
      · have ends : ∀ outcome after,
            LookPoint.resume own .waiting before.world = .done outcome after →
            before.look? move = some ⟨before.world.clock, own, outcome⟩ :=
          fun _ _ ended => look?_of_takes sound.orderly takes running looks ended
        rw [looks] at guarded
        cases takes with
        | notice news =>
            rw [looks] at news
            cases news
        | resume ready =>
            rcases stage_eq : LookPoint.resume own .waiting before.world with
              ⟨next, world⟩ | ⟨outcome, world⟩
            · have same := (LookPoint.through_of_pause stage_eq).1.session_eq
              refine .inr (.inr (busy.of_same ?_))
              simp only [replace, looks, Point.resume, stage_eq, Stage.andThen_pause]
              exact same
            · have verdict := LookPoint.verdict_of_resume stage_eq guarded
              have same : (before.replace earlier task later
                  (task.point.resume before.world)).world = world := by
                simp [replace, looks, Point.resume, stage_eq, Point.finish, Stage.world]
              have ended := ends outcome world stage_eq
              cases verdict with
              | superseded stale kept ledger agenda =>
                  exact .inr (.inr (busy.of_same (by rw [same, kept])))
              | started attempt current idle record ledger agenda => exact absurd idle not_idle
              | pending attempt current held underWay kept ledger agenda =>
                  exact .inr (.inr (busy.of_same (by rw [same, kept])))
              | retried attempt current held failed record ledger agenda =>
                  simp only [Reboot.Session.isCurrent, Bool.and_eq_true, decide_eq_true_eq]
                    at current
                  refine .inl ⟨before.world.clock, ?_⟩
                  rw [ended, ← generation, current.2]
              | ended outcome ending current closed ledger agenda =>
                  refine .inr (.inl (.inr ?_))
                  rw [same, closed]
                  exact ⟨generation.symm, rfl⟩

theorem Busy.run (busy : execution.Busy session) (sound : execution.Sound) (moves : List Move) :
    (∃ look, look ∈ execution.timeline moves ∧ look.session = session ∧
      look.outcome = .retryScheduled) ∨
      (execution.run moves).world.node.session.IsOver session ∨
      (execution.run moves).Busy session := by
  induction moves generalizing execution with
  | nil => exact .inr (.inr busy)
  | cons move moves hypothesis =>
      have step := step_apply sound.orderly move
      have sound_after := sound.step step
      rcases busy.step sound step with ⟨time, ends⟩ | closed | still
      · exact .inl ⟨⟨time, session, .retryScheduled⟩, by simp [timeline, ends], rfl, rfl⟩
      · exact .inr (.inl (Outset.isOver_run moves sound_after closed))
      · apply (hypothesis still sound_after).imp_left
        rintro ⟨look, among, failed⟩
        exact ⟨look, List.mem_append_right _ among, failed⟩

/-- A look that starts an attempt finds its session live and without one, and leaves it busy. -/
theorem busy_of_starts {look : Look} (sound : execution.Sound)
    (ends : execution.look? move = some look) (starts : look.starts = true) :
    execution.world.node.session.isCurrent look.session = true ∧
      execution.world.node.session.attempt = none ∧ (execution.apply move).Busy look.session := by
  have verdict := verdict_of_look? sound ends
  simp only [Look.starts, decide_eq_true_eq] at starts
  rw [starts] at verdict
  cases verdict with
  | started attempt current idle record ledger agenda =>
      exact ⟨current, idle, by simpa [Busy, record, Reboot.Session.isCurrent] using current⟩
  | ended outcome ending => cases ending

end Execution

namespace Outset

variable (outset : Outset) {timetable : Schedule.Timetable Nat} {moves : List Move}

theorem follows_run (follows : outset.agenda = .timed timetable) (moves : List Move) :
    (outset.execution.run moves).world.agenda.followsClock = true := by
  refine outset.sound_execution.run_induction (fun _ => True)
    (fun execution => execution.world.agenda.followsClock = true) ?_ ?_ moves fun _ _ => trivial
  · intro before after move sound _ step follows
    cases step with
    | outside move change changes =>
        simpa only [Execution.withWorld, (Move.frame_outside changes before.world).2.1]
          using follows
    | looked number own delay agenda fresh scheduled present =>
        simpa using (World.due_of_scheduled? scheduled follows).1
    | lost number own delay agenda scheduled dropped alone =>
        simpa [Execution.withWorld] using (World.due_of_scheduled? scheduled follows).1
    | advanced move earlier later task stage split takes =>
        rcases takes.books sound.guarded (Execution.mem_of_eq_append split) with ⟨books, _⟩
        cases books with
        | kept agenda => exact (congrArg _ agenda).trans follows
        | booked own delay tick agenda =>
            refine (congrArg _ agenda).trans ?_
            rw [Schedule.Agenda.followsClock_schedule]
            exact follows
    | _ => exact follows
  · simp [execution, World.create, follows, Schedule.Agenda.followsClock]

theorem timings_run (moves : List Move) :
    (outset.execution.run moves).world.node.timings = outset.timings :=
  (outset.budgeted_run moves).1.fixed

/-- What is known at every moment of a run in which only the clock brings looks up. -/
structure OnClock (outset : Outset) (execution : Execution) : Prop where
  sound : execution.Sound
  once : execution.WatchedOnce
  follows : execution.world.agenda.followsClock = true
  timings : execution.world.node.timings = outset.timings

theorem onClock_run (follows : outset.agenda = .timed timetable) (moves : List Move)
    (inTurn : ∀ move, move ∈ moves → move.asksForLook = false) :
    outset.OnClock (outset.execution.run moves) :=
  ⟨outset.sound_run moves, outset.watchedOnce_run moves inTurn, outset.follows_run follows moves,
    outset.timings_run moves⟩

/-- No look of a session ends within the rest that an earlier look left it. -/
theorem le_time_of_timeline (follows : outset.agenda = .timed timetable)
    (inTurn : ∀ move, move ∈ moves → move.asksForLook = false)
    {before between after : List Look} {first second : Look}
    (split : outset.execution.timeline moves = before ++ first :: (between ++ second :: after))
    (same : second.session = first.session) (time : Nat)
    (bound : ∀ rest, first.outcome.rest? outset.timings.reboot = some rest →
      time ≤ first.time + rest) : time ≤ second.time := by
  rcases Execution.timeline_eq_append split with ⟨earlier, move, others, rfl, _, ends, rest⟩
  rcases Execution.timeline_eq_append rest with ⟨meanwhile, later, _, rfl, _, ends_later, _⟩
  have onClock := outset.onClock_run follows earlier fun other found =>
    inTurn other (by simp [found])
  have deferred := Execution.deferred_of_look? time onClock.sound onClock.once onClock.follows ends
    (by rw [onClock.timings]; exact bound)
  have sound := onClock.sound.step (Execution.step_apply onClock.sound.orderly move)
  have still := deferred.run sound meanwhile fun other found => inTurn other (by simp [found])
  rw [← same] at still
  exact still.le_time ends_later

theorem rebooting_or_deferred_run {earlier : List Move} {session time : Nat}
    (follows : outset.agenda = .timed timetable) (meanwhile : List Move)
    (inTurn : ∀ move, move ∈ earlier ++ meanwhile → move.asksForLook = false)
    (reboots : (outset.execution.run earlier).Rebooting session time) :
    (outset.execution.run (earlier ++ meanwhile)).Rebooting session time ∨
      (outset.execution.run (earlier ++ meanwhile)).Deferred session
        (time + outset.timings.reboot.initialDelay) := by
  induction meanwhile using List.reverseRecOn with
  | nil => exact .inl (by simpa using reboots)
  | append_singleton moves move hypothesis =>
      have before := hypothesis fun other found => inTurn other (by
        rw [← List.append_assoc]
        exact List.mem_append_left _ found)
      have onClock := outset.onClock_run follows (earlier ++ moves) fun other found =>
        inTurn other (by
          rw [← List.append_assoc]
          exact List.mem_append_left _ found)
      have step := Execution.step_apply onClock.sound.orderly move
      rw [← List.append_assoc, Execution.run_append]
      rcases before with reboots | deferred
      · exact Execution.rebooting_or_deferred onClock.sound onClock.once onClock.follows
          (congrArg Timings.reboot onClock.timings) step reboots
      · exact .inr (deferred.step onClock.sound (inTurn move (by simp)) step)

/-- While a reboot is under way its session has had no look, and the first one waits for as long as
the initial delay. -/
theorem le_time_of_rebooting {earlier later : List Move} {session time : Nat} {look : Look}
    (follows : outset.agenda = .timed timetable)
    (inTurn : ∀ move, move ∈ earlier ++ later → move.asksForLook = false)
    (reboots : (outset.execution.run earlier).Rebooting session time)
    (among : look ∈ outset.execution.timeline (earlier ++ later))
    (same : look.session = session) : time + outset.timings.reboot.initialDelay ≤ look.time := by
  rw [Execution.timeline_append] at among
  rcases List.mem_append.mp among with past | coming
  · -- A look leaves its session at rest, and no reboot works on such a session.
    exfalso
    rcases List.append_of_mem past with ⟨before, after, split⟩
    rcases Execution.timeline_eq_append split with ⟨first, move, meanwhile, rfl, _, ends, _⟩
    have onClock := outset.onClock_run follows first fun other found =>
      inTurn other (by simp [found])
    have deferred := Execution.deferred_of_look? 0 onClock.sound onClock.once onClock.follows ends
      fun _ _ => Nat.zero_le _
    have sound := onClock.sound.step (Execution.step_apply onClock.sound.orderly move)
    have still := deferred.run sound meanwhile fun other found => inTurn other (by simp [found])
    have state : outset.execution.run (first ++ move :: meanwhile) =
        ((outset.execution.run first).apply move).run meanwhile := Execution.run_append _ _ _
    rw [state] at reboots
    rcases reboots.2 with ⟨task, running, afterBuild, inner, point, works⟩
    have looks := (still.underWay task running (by rw [point, same]; exact works)).1
    rw [point] at looks
    cases afterBuild <;> cases looks
  · rcases List.append_of_mem coming with ⟨before, after, split⟩
    rcases Execution.timeline_eq_append split with ⟨meanwhile, move, others, rfl, _, ends, _⟩
    have inTurn_before : ∀ other, other ∈ earlier ++ meanwhile → other.asksForLook = false := by
      intro other found
      refine inTurn other ?_
      rw [← List.append_assoc]
      exact List.mem_append_left _ found
    have onClock := outset.onClock_run follows _ inTurn_before
    rw [← Execution.run_append] at ends
    rcases outset.rebooting_or_deferred_run follows meanwhile inTurn_before reboots with
      busy | deferred
    · -- The reboot is the only task that the next look of its session depends on.
      rcases busy.2 with ⟨task, running, afterBuild, inner, point, works⟩
      rcases Execution.look_of_look? ends with ⟨_, other, _, _, looking, _, _, looks, _⟩
      rcases List.append_of_mem running with ⟨left, right, divided⟩
      have apart := (onClock.once.alone divided (by rw [point]; exact works)).2.2
      rw [divided, List.mem_append, List.mem_cons] at looking
      rcases looking with on_left | rfl | on_right
      · exact absurd (by rw [looks, same]; rfl) (apart other (List.mem_append_left _ on_left))
      · rw [point] at looks
        cases looks
      · exact absurd (by rw [looks, same]; rfl) (apart other (List.mem_append_right _ on_right))
    · rw [← same] at deferred
      exact deferred.le_time ends

/-- Between two looks of a session that start an attempt there is one that found the first attempt
failed. -/
theorem failed_between {before between after : List Look} {first second : Look}
    (split : outset.execution.timeline moves = before ++ first :: (between ++ second :: after))
    (same : second.session = first.session) (starts : first.starts = true)
    (starts_again : second.starts = true) :
    ∃ failed, failed ∈ between ∧ failed.session = first.session ∧
      failed.outcome = .retryScheduled := by
  rcases Execution.timeline_eq_append split with ⟨earlier, move, others, rfl, _, ends, rest⟩
  rcases Execution.timeline_eq_append rest with ⟨meanwhile, later, _, rfl, rfl, ends_later, _⟩
  have sound := outset.sound_run earlier
  have sound_after := sound.step (Execution.step_apply sound.orderly move)
  have busy := (Execution.busy_of_starts sound ends starts).2.2
  rcases Execution.busy_of_starts (sound_after.run meanwhile) ends_later starts_again with
    ⟨current, idle, _⟩
  rw [same] at current
  rcases busy.run sound_after meanwhile with failed | closed | still
  · exact failed
  · rw [closed.not_current] at current
    cases current
  · simp [Execution.Busy, idle] at still

/-- **Reconnects are paced.** Let the scheduler follow the clock and nobody ask for looks out of
turn. Whatever moves are made in whatever order, and however late the scheduler, the locks and the
link are:

* The calls for a connection are the looks that start an attempt, in the same order. Each of them is
  one more connection, and no move adds to the connections without one, unless somebody connects
  the endpoint by hand.
* No look of a session ends earlier than the initial delay after any moment at which the reboot that
  opened the session was still under way. The last such moment is when the reboot ends, and then it
  has disconnected and sent its command.
* Of two looks of one session, the earlier one has told how long the session rests, and the later
  one does not end before. So an attempt under way is looked at no sooner than one interval after
  the attempt was started or looked at last.
* Between two looks of one session that start an attempt, there is one that found the earlier
  attempt failed, and the time between them is at least the interval and the initial delay.
* While the attempt that the session holds is under way, no move makes a call for a connection. -/
theorem reconnects_are_paced (moves : List Move) (follows : outset.agenda = .timed timetable)
    (inTurn : ∀ move, move ∈ moves → move.asksForLook = false) :
    let policy := outset.timings.reboot
    let looks := outset.execution.timeline moves
    let now := outset.execution.run moves
    now.world.launchedFor.reverse = (looks.filter Look.starts).map Look.session ∧
    (∀ earlier later, moves = earlier ++ later →
      ∀ task, task ∈ (outset.execution.run earlier).running → ∀ afterBuild inner session,
        task.point = .rebooting afterBuild inner → inner.session? = some session →
        ∀ look, look ∈ looks → look.session = session →
          (outset.execution.run earlier).world.clock + policy.initialDelay ≤ look.time) ∧
    (∀ before first between second after,
      looks = before ++ first :: (between ++ second :: after) → second.session = first.session →
        (∃ rest, first.outcome.rest? policy = some rest ∧ first.time + rest ≤ second.time) ∧
        (first.starts = true → second.starts = true →
          first.time + policy.pendingRecheck + policy.initialDelay ≤ second.time ∧
          ∃ failed, failed ∈ between ∧ failed.session = first.session ∧
            failed.outcome = .retryScheduled)) ∧
    (∀ attempt, now.world.node.session.attempt = some attempt →
      now.world.outcome? attempt = none → ∀ move,
        (outset.execution.run (moves ++ [move])).world.launchedFor = now.world.launchedFor) ∧
    ∀ move, now.world.Connects move (outset.execution.run (moves ++ [move])).world := by
  intro policy looks now
  refine ⟨outset.launchedFor_run moves, ?_, ?_, ?_, outset.connects_run moves⟩
  · rintro earlier later rfl task running afterBuild inner session point works look among same
    exact outset.le_time_of_rebooting follows inTurn
      ⟨Nat.le_refl _, task, running, afterBuild, inner, point, works⟩ among same
  · intro before first between second after split same
    have rests := outset.le_time_of_timeline follows inTurn split same
    refine ⟨?_, ?_⟩
    · rcases told : first.outcome.rest? policy with _ | rest
      · -- Without a next look there would be no bound on the time of this one.
        have beyond : second.time + 1 ≤ second.time := by
          apply rests
          intro other due
          cases told.symm.trans due
        omega
      · refine ⟨rest, rfl, rests _ fun other rests => ?_⟩
        cases told.symm.trans rests
        exact Nat.le_refl _
    · intro starts starts_again
      rcases outset.failed_between split same starts starts_again with
        ⟨failed, among, its, outcome⟩
      refine ⟨?_, failed, among, its, outcome⟩
      rw [Look.starts, decide_eq_true_eq] at starts
      rcases List.append_of_mem among with ⟨pending, others, rfl⟩
      have until_failed : first.time + policy.pendingRecheck ≤ failed.time := by
        have divided : outset.execution.timeline moves =
            before ++ first :: (pending ++ failed :: (others ++ second :: after)) :=
          split.trans (by simp)
        refine outset.le_time_of_timeline follows inTurn divided its _ ?_
        rw [starts]
        rintro rest ⟨⟩
        exact Nat.le_refl _
      have until_second : failed.time + policy.initialDelay ≤ second.time := by
        have divided : outset.execution.timeline moves =
            (before ++ first :: pending) ++ failed :: (others ++ second :: after) :=
          split.trans (by simp)
        refine outset.le_time_of_timeline follows inTurn divided (same.trans its.symm) _ ?_
        rw [outcome]
        rintro rest ⟨⟩
        exact Nat.le_refl _
      omega
  · intro attempt holds underWay move
    have sound := outset.sound_run moves
    rw [Execution.run_append]
    cases (Execution.step_apply sound.orderly move).accounts sound with
    | same kept ledger => exact World.launchedFor_of_ledger ledger
    | opened kept ledger => exact World.launchedFor_of_ledger ledger
    | closed kept ledger => exact World.launchedFor_of_ledger ledger
    | started current idle record ledger => cases holds.symm.trans idle
    | retried busy spare record ledger => exact World.launchedFor_of_ledger ledger

/-- A node on an instance, with a scheduler that follows the clock. -/
def clocked : Outset :=
  { onInstance someInstance with
    agenda := .timed {}
    idle := rfl }

/-- A reboot, an attempt that fails to launch, and the next attempt, each as soon as it may be. -/
def relaunch : List Move :=
  [.happen (.script (.launchFail "no agent")), .start 0 .reboot, .resume 0, .resume 0, .resume 0,
    .resume 0, .resume 0, .pass 30000, .runMonitor 1, .resume 1, .resume 1, .resume 1, .pass 5000,
    .runMonitor 2, .resume 2, .pass 30000, .runMonitor 3, .resume 3, .resume 3, .resume 3]

/-- The second attempt starts exactly one interval and the initial delay after the first one, and
that is as soon as it may. -/
theorem reconnects_are_paced_relaunch :
    clocked.execution.timeline relaunch =
        [⟨30000, 1, .attemptStarted⟩, ⟨35000, 1, .retryScheduled⟩, ⟨65000, 1, .attemptStarted⟩] ∧
      30000 + clocked.timings.reboot.pendingRecheck + clocked.timings.reboot.initialDelay ≤
        65000 := by
  have looks : clocked.execution.timeline relaunch =
      [⟨30000, 1, .attemptStarted⟩, ⟨35000, 1, .retryScheduled⟩, ⟨65000, 1, .attemptStarted⟩] := by
    decide +kernel
  have paced := clocked.reconnects_are_paced relaunch rfl (by decide)
  have bound := (paced.2.2.1 [] _ [⟨35000, 1, .retryScheduled⟩] _ [] looks rfl).2 rfl rfl
  exact ⟨looks, bound.1⟩

end Outset

end BuildAgent
