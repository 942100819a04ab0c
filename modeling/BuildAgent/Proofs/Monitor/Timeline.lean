import BuildAgent.Proofs.Monitor.Endings
import BuildAgent.Proofs.Monitor.LaunchBudget
import Mathlib.Data.List.Induction

/-!
# The timeline of looks

`Execution.timeline` lists the looks that end while moves are made, each with the time at which it
ended. The outcome of a look tells everything about it: what it did to the record of sessions, to
the ledger of attempts and to the agenda (`LookPoint.Verdict`). So a law about the times of looks
and of attempts can be read off the timeline.
-/

namespace BuildAgent

/-- A look of the monitor that has ended. -/
structure Look where
  time : Nat
  session : Nat
  outcome : LookOutcome
  deriving DecidableEq

/-- Whether a look started an attempt to connect. -/
def Look.starts (look : Look) : Bool :=
  look.outcome = .attemptStarted

/-- How long a session rests after a look, unless the look was its last. -/
def LookOutcome.rest? (policy : Reboot.Policy) : LookOutcome → Option Nat
  | attemptStarted => some policy.pendingRecheck
  | pending => some policy.pendingRecheck
  | retryScheduled => some policy.initialDelay
  | _ => none

namespace Point

/-- The look that ends with the next step of a task, if one does. -/
def look? (point : Point) (world : World) : Option Look :=
  match point, point.resume world with
  | looking session _, .done (.looked outcome) _ => some ⟨world.clock, session, outcome⟩
  | _, _ => none

end Point

namespace Execution

/-- The look that ends with a move, if one does. -/
def look? (execution : Execution) : Move → Option Look
  | .resume number =>
    match execution.task? number with
    | some task => if execution.isReady task then task.point.look? execution.world else none
    | none => none
  | _ => none

/-- The looks that end while moves are made, the earliest first. -/
def timeline (execution : Execution) : List Move → List Look
  | [] => []
  | move :: moves => (execution.look? move).toList ++ (execution.apply move).timeline moves

theorem timeline_append (execution : Execution) (earlier later : List Move) :
    execution.timeline (earlier ++ later) =
      execution.timeline earlier ++ (execution.run earlier).timeline later := by
  induction earlier generalizing execution with
  | nil => rfl
  | cons move moves hypothesis =>
      simp only [List.cons_append, timeline, hypothesis, List.append_assoc]
      rfl

theorem timeline_concat (execution : Execution) (moves : List Move) (move : Move) :
    execution.timeline (moves ++ [move]) =
      execution.timeline moves ++ ((execution.run moves).look? move).toList := by
  simp [timeline_append, timeline]

end Execution

/-! ## The clock -/

@[simp]
theorem World.clock_bringOn (world : World) (number : Nat) :
    (world.bringOn number).clock = world.clock :=
  congrArg Prod.fst (world.given_bringOn number)

theorem Happening.given_apply (happening : Happening) (world : World) :
    (happening.apply world).given = world.given := by
  cases happening with
  | describe instanceIds => exact world.given_ask _
  | command operation instanceId => exact world.given_ask _
  | changeTags change instanceId batch => exact world.given_ask _
  | requestShutdown => exact world.given_askToExit
  | _ => rfl

/-- Time never goes back. -/
theorem Move.clock_outside {move : Move} {change : World → World}
    (changes : move.outside? = some change) (world : World) :
    world.clock ≤ (change world).clock := by
  cases move with
  | bringOn transfer =>
      cases changes
      exact Nat.le_of_eq (world.clock_bringOn transfer).symm
  | pass duration =>
      cases changes
      exact Nat.le_add_right _ _
  | retire =>
      cases changes
      simp
  | happen happening =>
      cases changes
      exact Nat.le_of_eq (congrArg Prod.fst (happening.given_apply world)).symm
  | start number request => cases changes
  | resume number => cases changes
  | notice number => cases changes
  | runMonitor number => cases changes
  | _ =>
      cases changes
      exact Nat.le_refl _

/-! ## What a look leaves behind -/

namespace LookPoint

/-- What a look that has ended did, told by its outcome. -/
inductive Verdict (session : Nat) (before after : World) : LookOutcome → Prop where
  | superseded (stale : before.node.session.isCurrent session = false)
      (kept : after.node.session = before.node.session) (ledger : after.ledger = before.ledger)
      (agenda : after.agenda = before.agenda) : Verdict session before after .superseded
  | started (attempt : Nat) (current : before.node.session.isCurrent session = true)
      (idle : before.node.session.attempt = none)
      (record : after.node.session = { before.node.session with attempt := some attempt })
      (ledger : after.ledger = (before.node.timings,
        .attemptStarted session :: .startingConnection false :: before.launches))
      (agenda : after.agenda = before.agenda.schedule before.clock
        before.node.timings.reboot.pendingRecheck session) :
      Verdict session before after .attemptStarted
  | pending (attempt : Nat) (current : before.node.session.isCurrent session = true)
      (busy : before.node.session.attempt = some attempt)
      (underWay : before.outcome? attempt = none)
      (kept : after.node.session = before.node.session) (ledger : after.ledger = before.ledger)
      (agenda : after.agenda = before.agenda.schedule before.clock
        before.node.timings.reboot.pendingRecheck session) :
      Verdict session before after .pending
  | retried (attempt : Nat) (current : before.node.session.isCurrent session = true)
      (busy : before.node.session.attempt = some attempt)
      (ended : (before.outcome? attempt).isSome = true)
      (record : after.node.session = { before.node.session with
        attempt := none
        launchFailures := Reboot.countFailure before.node.session.launchFailures })
      (ledger : after.ledger = before.ledger)
      (agenda : after.agenda = before.agenda.schedule before.clock
        before.node.timings.reboot.initialDelay session) :
      Verdict session before after .retryScheduled
  | ended (outcome : LookOutcome) (ending : outcome.isEnding = true)
      (current : before.node.session.isCurrent session = true)
      (closed : after.node.session = before.node.session.close)
      (ledger : after.ledger = before.ledger) (agenda : after.agenda = before.agenda) :
      Verdict session before after outcome

variable {session : Nat} {before middle after world : World} {outcome : LookOutcome}

theorem Verdict.of_same (verdict : Verdict session middle after outcome)
    (kept : middle.node.session = before.node.session) (ledger : middle.ledger = before.ledger)
    (agenda : middle.agenda = before.agenda) (clock : middle.clock = before.clock)
    (idle : before.node.session.attempt = none) : Verdict session before after outcome := by
  have timings : middle.node.timings = before.node.timings := congrArg Prod.fst ledger
  have launches : middle.launches = before.launches := congrArg Prod.snd ledger
  cases verdict with
  | superseded stale same paid booked =>
      exact .superseded (kept ▸ stale) (same.trans kept) (paid.trans ledger) (booked.trans agenda)
  | started attempt current free record paid booked =>
      refine .started attempt (kept ▸ current) idle ?_ ?_ ?_
      · rw [record, kept]
      · rw [paid, timings, launches]
      · rw [booked, timings, agenda, clock]
  | pending attempt current busy =>
      rw [kept, idle] at busy
      cases busy
  | retried attempt current busy =>
      rw [kept, idle] at busy
      cases busy
  | ended outcome ending current closed paid booked =>
      refine .ended outcome ending (kept ▸ current) ?_ (paid.trans ledger) (booked.trans agenda)
      rw [closed, kept]

theorem agenda_abandon (session : Nat) (reason : Reboot.AbandonReason) (world : World) :
    (abandon session reason world).2.agenda = world.agenda := by
  simp [abandon, World.closeSession]

theorem agenda_online (session : Nat) (world : World) :
    (world.bringOnline.closeSession.note (.instanceOnline session)).agenda = world.agenda := by
  simp [World.closeSession]

theorem verdict_abandon (current : world.node.session.isCurrent session = true)
    (reason : Reboot.AbandonReason) :
    Verdict session world (abandon session reason world).2
      (abandon session reason world).1 := by
  have closes := closes_abandon session reason world
  exact .ended _ rfl current closes.1 closes.2 (agenda_abandon session reason world)

theorem verdict_startAttempt (current : world.node.session.isCurrent session = true)
    (idle : world.node.session.attempt = none) :
    Verdict session world
      (startAttempt session world.node.timings.reboot.pendingRecheck world).2
      (startAttempt session world.node.timings.reboot.pendingRecheck world).1 := by
  simp only [startAttempt, World.connect?]
  split
  · exact verdict_abandon current .endpointGone
  · rename_i attempt begun connected
    split at connected
    · rcases (world.note (.startingConnection false)).startConnection_eq false with
        ⟨_, node, agenda, _⟩
      have clock := (world.note (.startingConnection false)).clock_startConnection false
      have ledger := world.ledger_attempted session
      simp only [Option.some.injEq] at connected
      rw [connected] at node agenda clock ledger
      have record : begun.node.session = world.node.session := congrArg Node.session node
      have same : begun.agenda = world.agenda := agenda
      have now : begun.clock = world.clock := clock
      exact .started attempt current idle (by simp [record]) ledger (by simp [same, now])
    · cases connected

theorem verdict_idle (current : world.node.session.isCurrent session = true)
    (idle : world.node.session.attempt = none) (alive stillRebooting : Bool) :
    Verdict session world (act session (.idle alive stillRebooting) world).2
      (act session (.idle alive stillRebooting) world).1 := by
  cases alive with
  | false => exact verdict_abandon current .instanceGone
  | true =>
      cases stillRebooting with
      | false => exact verdict_abandon current .noLongerRebooting
      | true => exact verdict_startAttempt current idle

theorem verdict_of_taken {ended : Link.Outcome}
    (current : world.node.session.isCurrent session = true)
    (closed : after.node.session = (takeAttempt ended world).node.session.close)
    (ledger : after.ledger = (takeAttempt ended world).ledger)
    (agenda : after.agenda = (takeAttempt ended world).agenda)
    (ending : outcome.isEnding = true) : Verdict session world after outcome := by
  rcases frame_takeAttempt ended world with ⟨node, _, _, same, _⟩
  refine .ended outcome ending current ?_ (ledger.trans (ledger_takeAttempt ended world))
    (agenda.trans same)
  rw [closed, node]
  rfl

theorem verdict_finished {attempt : Nat} {ended : Link.Outcome}
    (current : world.node.session.isCurrent session = true)
    (busy : world.node.session.attempt = some attempt)
    (known : world.outcome? attempt = some ended) (present : Bool) (cause : Option OfflineCause) :
    Verdict session world
      (act session (.attemptFinished present cause) (takeAttempt ended world)).2
      (act session (.attemptFinished present cause) (takeAttempt ended world)).1 := by
  rcases frame_takeAttempt ended world with ⟨node, _, _, agenda, clock⟩
  cases present with
  | true =>
      have closes := closes_online session (takeAttempt ended world)
      exact verdict_of_taken current closes.1 closes.2 (agenda_online session _) rfl
  | false =>
      rcases (takeAttempt ended world).node.timings.reboot.decide_of_absent cause
        (takeAttempt ended world).node.session.launchFailures with retried | ⟨reason, given, _⟩
      · simp only [act, retried, retryLaunch]
        refine .retried attempt current busy (by simp [known]) ?_ ?_ ?_
        · simp [Reboot.Session.recordFailure]
        · refine (World.ledger_takeOffline _ _).trans ?_
          exact (World.ledger_note _ _ rfl).trans (ledger_takeAttempt ended world)
        · simp
      · have closes := closes_abandon session reason (takeAttempt ended world)
        simp only [act, given]
        exact verdict_of_taken current closes.1 closes.2 (agenda_abandon session reason _) rfl

theorem verdict_of_begin (ended : begin session world = .done outcome after) :
    Verdict session world after outcome := by
  simp only [begin] at ended
  split at ended
  · rename_i stale
    cases ended
    exact .superseded (by simpa using stale) rfl (World.ledger_note _ _ rfl) rfl
  rename_i live
  have current : world.node.session.isCurrent session = true := by simpa using live
  split at ended
  · cases ended
    exact verdict_abandon current .nodeRetired
  split at ended
  · cases ended
    exact verdict_abandon current .endpointGone
  split at ended
  · cases ended
  · rename_i attempt busy
    split at ended
    · rename_i underWay
      cases ended
      exact .pending attempt current busy underWay rfl
        (world.ledger_note (.attemptPending session) rfl) rfl
    · rename_i outcome known
      cases ended
      exact verdict_finished current busy known _ _

/-- The outcome of a look tells what the look did. -/
theorem verdict_of_resume {point : LookPoint}
    (ended : point.resume session world = .done outcome after)
    (live : ∀ own, (Point.looking session point).session? = some own →
      world.node.session.isCurrent own = true ∧ world.node.session.attempt = none) :
    Verdict session world after outcome := by
  cases point with
  | waiting => exact verdict_of_begin ended
  | refreshing fetch =>
      rcases live session rfl with ⟨current, idle⟩
      have through := fetch.through world
      have ledger := fetch.ledger_resume world
      rcases stage_eq : fetch.resume world with ⟨next, middle⟩ | ⟨found, middle⟩
      · simp [resume, stage_eq] at ended
      · rw [stage_eq] at through ledger
        have kept : middle.node.session = world.node.session := through.session_eq
        simp only [resume, stage_eq, Stage.andThen_done, afterFetch, Stage.done.injEq] at ended
        rcases ended with ⟨rfl, rfl⟩
        have verdict : Verdict session middle _ _ :=
          verdict_idle (kept ▸ current) (kept ▸ idle) (found.any Snapshot.isAlive)
            (middle.offlineCause.any fun cause => cause.isRebootFor session)
        exact verdict.of_same kept ledger through.agenda_eq through.clock_eq idle

/-- A look that goes on has done nothing but fetch. -/
theorem through_of_pause {point next : LookPoint}
    (paused : point.resume session world = .pause next after) :
    world.Through Deed.IsFetch after ∧ after.ledger = world.ledger := by
  cases point with
  | waiting =>
      rcases begin_eq_pause paused with ⟨_, rfl, _⟩
      exact ⟨.refl _, rfl⟩
  | refreshing fetch =>
      have through := fetch.through world
      have ledger := fetch.ledger_resume world
      rcases stage_eq : fetch.resume world with ⟨later, middle⟩ | ⟨found, middle⟩
      · rw [stage_eq] at through ledger
        simp only [resume, stage_eq, Stage.andThen_pause, Stage.pause.injEq] at paused
        rw [← paused.2]
        exact ⟨through, ledger⟩
      · simp only [resume, stage_eq, Stage.andThen_done] at paused
        exact absurd paused afterFetch_ne_pause

end LookPoint

/-! ## Looks and moves -/

theorem Point.look?_of_looked {point : Point} {world after : World} {session : Nat}
    {inner : LookPoint} {outcome : LookOutcome} (looks : point = .looking session inner)
    (ended : inner.resume session world = .done outcome after) :
    point.look? world = some ⟨world.clock, session, outcome⟩ := by
  subst looks
  simp only [look?, resume, ended, Stage.andThen_done, finish]

theorem Point.looked_of_look? {point : Point} {world : World} {look : Look}
    (found : point.look? world = some look) : look.time = world.clock ∧
      ∃ inner after, point = .looking look.session inner ∧
        inner.resume look.session world = .done look.outcome after := by
  simp only [look?] at found
  split at found
  · rename_i session inner outcome after ended
    cases found
    rcases looking_of_looked ended with ⟨own, same, looks, inner_ended⟩
    cases looks
    exact ⟨rfl, _, _, rfl, inner_ended⟩
  · cases found

namespace Execution

variable {execution : Execution} {move : Move} {look : Look}

/-- A look that ends was under way and could go on. -/
theorem look_of_look? (found : execution.look? move = some look) :
    look.time = execution.world.clock ∧ ∃ task inner after, task ∈ execution.running ∧
      move = .resume task.number ∧ execution.isReady task = true ∧
      task.point = .looking look.session inner ∧
      inner.resume look.session execution.world = .done look.outcome after := by
  cases move with
  | resume number =>
      simp only [look?] at found
      split at found
      · rename_i task asked
        split at found
        · rename_i ready
          rcases split_of_task? asked with ⟨rfl, earlier, later, split⟩
          rcases Point.looked_of_look? found with ⟨time, inner, after, looks, ended⟩
          exact ⟨time, task, inner, after, mem_of_eq_append split, rfl, ready, looks, ended⟩
        · cases found
      · cases found
  | _ => cases found

/-- A look that ends is a step of its task, and its outcome tells what the step did. -/
theorem takes_of_look? (sound : execution.Sound) (found : execution.look? move = some look) :
    ∃ task earlier later inner after, execution.running = earlier ++ task :: later ∧
      task.point = .looking look.session inner ∧
      execution.Takes task move (.done (.looked look.outcome) after) ∧
      execution.apply move =
        execution.replace earlier task later (.done (.looked look.outcome) after) ∧
      LookPoint.Verdict look.session execution.world after look.outcome := by
  rcases look_of_look? found with ⟨_, task, inner, after, running, rfl, ready, looks, ended⟩
  rcases List.append_of_mem running with ⟨earlier, later, split⟩
  have stage_eq : task.point.resume execution.world = .done (.looked look.outcome) after := by
    simp only [looks, Point.resume, ended, Stage.andThen_done]
    rfl
  have live := sound.guarded task running
  rw [looks] at live
  refine ⟨task, earlier, later, inner, after, split, looks, stage_eq ▸ .resume ready, ?_,
    LookPoint.verdict_of_resume ended live⟩
  rw [← stage_eq]
  exact resume_eq_replace sound.orderly split ready

theorem verdict_of_look? (sound : execution.Sound) (found : execution.look? move = some look) :
    LookPoint.Verdict look.session execution.world (execution.apply move).world look.outcome := by
  rcases takes_of_look? sound found with ⟨_, _, _, _, _, _, _, _, moved, verdict⟩
  rw [moved]
  exact verdict

/-- The move with which a look ends, and what came before and after it. -/
theorem timeline_eq_append {moves : List Move} {before after : List Look}
    (split : execution.timeline moves = before ++ look :: after) :
    ∃ earlier move later, moves = earlier ++ move :: later ∧
      execution.timeline earlier = before ∧ (execution.run earlier).look? move = some look ∧
      ((execution.run earlier).apply move).timeline later = after := by
  induction moves generalizing execution before with
  | nil => simp [timeline] at split
  | cons move moves hypothesis =>
      rcases ends : execution.look? move with _ | own
      · simp only [timeline, ends, Option.toList_none, List.nil_append] at split
        rcases hypothesis split with ⟨earlier, ending, later, rfl, same, found, rest⟩
        refine ⟨move :: earlier, ending, later, rfl, ?_, found, rest⟩
        simpa only [timeline, ends, Option.toList_none, List.nil_append] using same
      · simp only [timeline, ends, Option.toList_some, List.singleton_append] at split
        cases before with
        | nil =>
            simp only [List.nil_append, List.cons.injEq] at split
            rcases split with ⟨rfl, rfl⟩
            exact ⟨[], move, moves, rfl, rfl, ends, rfl⟩
        | cons first others =>
            simp only [List.cons_append, List.cons.injEq] at split
            rcases split with ⟨rfl, split⟩
            rcases hypothesis split with ⟨earlier, ending, later, rfl, same, found, rest⟩
            refine ⟨move :: earlier, ending, later, rfl, ?_, found, rest⟩
            simp only [timeline, ends, Option.toList_some, List.singleton_append, same]

theorem look?_of_takes (orderly : execution.Orderly) {task : Task} {stage : Stage Point Answer}
    (takes : execution.Takes task move stage) (running : task ∈ execution.running)
    {session : Nat} {inner : LookPoint} (looks : task.point = .looking session inner)
    {outcome : LookOutcome} {after : World}
    (ended : inner.resume session execution.world = .done outcome after) :
    execution.look? move = some ⟨execution.world.clock, session, outcome⟩ := by
  cases takes with
  | resume ready =>
      simp only [look?, task?_of_mem orderly running, ready, if_true]
      exact Point.look?_of_looked looks ended
  | notice news =>
      rw [looks] at news
      cases news

/-! ## Attempts -/

theorem Takes.ledger_of_silent {task : Task} {stage : Stage Point Answer}
    (takes : execution.Takes task move stage) (orderly : execution.Orderly)
    (running : task ∈ execution.running) (silent : execution.look? move = none) :
    stage.world.ledger = execution.world.ledger := by
  have loud : ∀ session inner, task.point = .looking session inner → ∀ outcome after,
      inner.resume session execution.world = .done outcome after →
      execution.look? move = some ⟨execution.world.clock, session, outcome⟩ :=
    fun _ _ looks _ _ ended => look?_of_takes orderly takes running looks ended
  cases takes with
  | notice news => exact task.point.ledger_notice execution.world
  | resume ready =>
      generalize task.point = point at loud
      cases point with
      | rebooting afterBuild inner =>
          exact Point.ledger_rebooting afterBuild inner execution.world
      | looking session inner =>
          rcases stage_eq : inner.resume session execution.world with
            ⟨next, after⟩ | ⟨outcome, after⟩
          · simp only [Point.resume, stage_eq, Stage.andThen_pause]
            exact (LookPoint.through_of_pause stage_eq).2
          · have found := loud session inner rfl outcome after stage_eq
            rw [silent] at found
            cases found
      | _ => exact Point.ledger_resume rfl execution.world

theorem Step.ledger_of_silent {before after : Execution} (sound : before.Sound)
    (step : before.Step move after) (silent : before.look? move = none) :
    after.world.ledger = before.world.ledger := by
  cases step with
  | outside move change changes => exact Move.ledger_outside changes _
  | looked number session delay agenda fresh scheduled present =>
      exact World.ledger_withAgenda _ delay agenda
  | lost number session delay agenda scheduled dropped alone =>
      exact (World.ledger_note _ _ rfl).trans (World.ledger_withAgenda _ delay agenda)
  | advanced move earlier later task stage split takes =>
      exact takes.ledger_of_silent sound.orderly (mem_of_eq_append split) silent
  | _ => rfl

/-- The node calls for a connection in the looks that start an attempt, and nowhere else. -/
theorem launchedFor_apply (sound : execution.Sound) (move : Move) :
    (execution.apply move).world.launchedFor =
      (((execution.look? move).toList.filter Look.starts).map Look.session) ++
        execution.world.launchedFor := by
  rcases found : execution.look? move with _ | look
  · exact World.launchedFor_of_ledger
      ((step_apply sound.orderly move).ledger_of_silent sound found)
  · have verdict := verdict_of_look? sound found
    rcases look with ⟨time, session, outcome⟩
    dsimp only at verdict
    cases verdict with
    | started attempt current idle record ledger agenda =>
        exact World.launchedFor_of_started ledger
    | superseded stale kept ledger agenda => exact World.launchedFor_of_ledger ledger
    | pending attempt current busy underWay kept ledger agenda =>
        exact World.launchedFor_of_ledger ledger
    | retried attempt current busy ended record ledger agenda =>
        exact World.launchedFor_of_ledger ledger
    | ended outcome ending current closed ledger agenda =>
        have other : outcome ≠ .attemptStarted := by
          rintro rfl
          cases ending
        simpa [Look.starts, other] using World.launchedFor_of_ledger ledger

end Execution

theorem Outset.launchedFor_run (outset : Outset) (moves : List Move) :
    (outset.execution.run moves).world.launchedFor.reverse =
      ((outset.execution.timeline moves).filter Look.starts).map Look.session := by
  induction moves using List.reverseRecOn with
  | nil => rfl
  | append_singleton moves move hypothesis =>
      have launched := Execution.launchedFor_apply (outset.sound_run moves) move
      rw [Execution.timeline_concat, Execution.run_append, List.filter_append, List.map_append,
        ← hypothesis]
      refine (congrArg List.reverse launched).trans ?_
      cases (outset.execution.run moves).look? move with
      | none => simp
      | some look => cases starts : look.starts <;> simp [starts]

end BuildAgent
