import BuildAgent.Proofs.Monitor.Effect
import BuildAgent.Proofs.Monitor.Verdicts
import BuildAgent.Proofs.Task.Launches
import Mathlib.Data.List.Induction

/-!
# Accounts of launches

`World.Accounts` sorts every move by what it does to the record of sessions and to the ledger of
attempts together: only the start of an attempt adds to the ledger, and a failure is counted only
where an attempt is taken out of the record.

What the ledger says is what happens at the endpoint: a launch is one more connection, and apart
from launches only somebody who connects the endpoint by hand adds to the connections
(`World.Connects`).
-/

namespace BuildAgent

/-- What a move can do to the sessions and to the attempts that were started. -/
inductive World.Accounts (before after : World) : Prop where
  | same (session : after.node.session = before.node.session)
      (ledger : after.ledger = before.ledger) : Accounts before after
  | opened (session : after.node.session = before.node.session.start)
      (ledger : after.ledger = before.ledger) : Accounts before after
  | closed (session : after.node.session = before.node.session.close)
      (ledger : after.ledger = before.ledger) : Accounts before after
  | started {session attempt : Nat} (current : before.node.session.isCurrent session = true)
      (idle : before.node.session.attempt = none)
      (record : after.node.session = { before.node.session with attempt := some attempt })
      (ledger : after.ledger = (before.node.timings,
        .attemptStarted session :: .startingConnection false :: before.launches)) :
      Accounts before after
  | retried {attempt : Nat} (busy : before.node.session.attempt = some attempt)
      (spare : before.node.timings.reboot.isExhausted
        (Reboot.countFailure before.node.session.launchFailures) = false)
      (record : after.node.session = { before.node.session with
        attempt := none
        launchFailures := Reboot.countFailure before.node.session.launchFailures })
      (ledger : after.ledger = before.ledger) : Accounts before after

theorem World.Accounts.of_same {before middle after : World}
    (session : middle.node.session = before.node.session)
    (ledger : middle.ledger = before.ledger) (later : middle.Accounts after) :
    before.Accounts after := by
  have both : middle.node.timings = before.node.timings ∧ middle.launches = before.launches :=
    ⟨congrArg Prod.fst ledger, congrArg Prod.snd ledger⟩
  cases later with
  | same kept later => exact .same (kept.trans session) (later.trans ledger)
  | opened kept later => exact .opened (session ▸ kept) (later.trans ledger)
  | closed kept later => exact .closed (session ▸ kept) (later.trans ledger)
  | started current idle record later =>
      rw [session] at current idle record
      rw [both.1, both.2] at later
      exact .started current idle record later
  | retried busy spare record later =>
      rw [session] at busy spare record
      rw [both.1] at spare
      exact .retried busy spare record (later.trans ledger)

/-- The policy launches again only below its limit, and runs out of launches only at it. -/
theorem Reboot.Policy.isExhausted_of_decide (policy : Policy) (observation : Observation)
    (failures : Nat) :
    (∀ after, policy.decide observation failures = .retryLaunch after →
      policy.isExhausted (countFailure failures) = false) ∧
    (∀ total, policy.decide observation failures = .abandon (.launchBudgetExhausted total) →
      policy.isExhausted total = true) := by
  -- Only an attempt that failed to launch leads to either decision.
  cases observation with
  | idle alive stillRebooting =>
      constructor <;> intro number decided
      all_goals cases alive <;> cases stillRebooting <;> cases decided
  | attemptPending => constructor <;> intro number decided <;> cases decided
  | attemptFinished channelPresent cause =>
      cases channelPresent with
      | true => constructor <;> intro number decided <;> cases decided
      | false =>
          simp only [decide]
          split
          · split
            · rename_i exhausted
              constructor <;> intro number decided <;> cases decided
              exact exhausted
            · rename_i spare
              constructor <;> intro number decided <;> cases decided
              simpa using spare
          · constructor <;> intro number decided <;> cases decided

/-! ## Looks -/

namespace LookPoint

variable {session : Nat} {world : World}

theorem closes_abandon (session : Nat) (reason : Reboot.AbandonReason) (world : World) :
    (abandon session reason world).2.node.session = world.node.session.close ∧
      (abandon session reason world).2.ledger = world.ledger := by
  refine ⟨by simp [abandon, World.closeSession], ?_⟩
  exact (World.ledger_note _ _ rfl).trans world.ledger_closeSession

theorem closes_online (session : Nat) (world : World) :
    (world.bringOnline.closeSession.note (.instanceOnline session)).node.session =
        world.node.session.close ∧
      (world.bringOnline.closeSession.note (.instanceOnline session)).ledger = world.ledger := by
  refine ⟨by simp [World.closeSession], ?_⟩
  exact (World.ledger_note _ _ rfl).trans
    ((World.ledger_closeSession _).trans world.ledger_bringOnline)

theorem accounts_abandon (session : Nat) (reason : Reboot.AbandonReason) (world : World) :
    world.Accounts (abandon session reason world).2 :=
  .closed (closes_abandon session reason world).1 (closes_abandon session reason world).2

theorem accounts_startAttempt (current : world.node.session.isCurrent session = true)
    (idle : world.node.session.attempt = none) (delay : Nat) :
    world.Accounts (startAttempt session delay world).2 := by
  simp only [startAttempt, World.connect?]
  split
  · exact accounts_abandon session .endpointGone world
  · rename_i attempt begun connected
    split at connected
    · have node := ((world.note (.startingConnection false)).startConnection_eq false).2.1
      have ledger := world.ledger_attempted session
      simp only [Option.some.injEq] at connected
      rw [connected] at node ledger
      have record : begun.node.session = world.node.session := congrArg Node.session node
      exact .started current idle (by simp [record]; rfl) ledger
    · cases connected

theorem accounts_idle (current : world.node.session.isCurrent session = true)
    (idle : world.node.session.attempt = none) (alive stillRebooting : Bool) :
    world.Accounts (act session (.idle alive stillRebooting) world).2 := by
  cases alive with
  | false => exact accounts_abandon session .instanceGone world
  | true =>
      cases stillRebooting with
      | false => exact accounts_abandon session .noLongerRebooting world
      | true => exact accounts_startAttempt current idle _

theorem ledger_takeAttempt (ended : Link.Outcome) (world : World) :
    (takeAttempt ended world).ledger = world.ledger := by
  rcases ended with fault | _
  · exact World.ledger_note _ (.attemptFailed fault) rfl
  · rfl

theorem accounts_of_taken {ended : Link.Outcome} {after : World}
    (session : after.node.session = (takeAttempt ended world).node.session.close)
    (ledger : after.ledger = (takeAttempt ended world).ledger) : world.Accounts after := by
  refine .closed ?_ (ledger.trans (ledger_takeAttempt ended world))
  rw [session, (frame_takeAttempt ended world).1]
  rfl

theorem accounts_finished {attempt : Nat} (busy : world.node.session.attempt = some attempt)
    (ended : Link.Outcome) (present : Bool) (cause : Option OfflineCause) :
    world.Accounts
      (act session (.attemptFinished present cause) (takeAttempt ended world)).2 := by
  rcases frame_takeAttempt ended world with ⟨node, _⟩
  have taken := ledger_takeAttempt ended world
  have given_up : ∀ reason, world.Accounts
      (abandon session reason (takeAttempt ended world)).2 := fun reason =>
    accounts_of_taken (closes_abandon session reason _).1 (closes_abandon session reason _).2
  cases present with
  | true =>
      exact accounts_of_taken (closes_online session _).1 (closes_online session _).2
  | false =>
      rcases (takeAttempt ended world).node.timings.reboot.decide_of_absent cause
        (takeAttempt ended world).node.session.launchFailures with retried | ⟨reason, given, _⟩
      · have spare := (Reboot.Policy.isExhausted_of_decide ..).1 _ retried
        simp only [act, retried, retryLaunch]
        simp only [node] at spare
        refine .retried busy spare ?_ ?_
        · simp [Reboot.Session.recordFailure]
        · refine (World.ledger_takeOffline _ _).trans ?_
          exact (World.ledger_note _ _ rfl).trans taken
      · simp only [act, given]
        exact given_up reason

theorem accounts_begin (session : Nat) (world : World) :
    world.Accounts (begin session world).world := by
  simp only [begin]
  split
  · exact .same rfl (World.ledger_note _ _ rfl)
  rename_i current
  split
  · exact accounts_abandon session .nodeRetired world
  split
  · exact accounts_abandon session .endpointGone world
  split
  · exact .same rfl rfl
  · rename_i attempt busy
    split
    · exact .same rfl (world.ledger_note (.attemptPending session) rfl)
    · exact accounts_finished busy _ _ _

/-- A look that fetches accounts for what it decides afterwards. -/
theorem accounts_refreshing (current : world.node.session.isCurrent session = true)
    (idle : world.node.session.attempt = none) (fetch : FetchPoint) :
    world.Accounts ((refreshing fetch).resume session world).world := by
  have kept := (fetch.through world).session_eq
  have ledger := fetch.ledger_resume world
  simp only [resume]
  rcases stage_eq : fetch.resume world with ⟨later, after⟩ | ⟨found, middle⟩
  · rw [stage_eq] at kept ledger
    exact .same kept ledger
  · rw [stage_eq] at kept ledger
    refine .of_same kept ledger (accounts_idle ?_ ?_ _ _)
    · exact kept ▸ current
    · exact kept ▸ idle

end LookPoint

/-! ## Steps -/

namespace Point

theorem accounts_rebooting (afterBuild : Bool) (inner : RebootPoint) (world : World) :
    world.Accounts ((rebooting afterBuild inner).resume world).world := by
  have ledger := ledger_rebooting afterBuild inner world
  rcases works : inner.session? with _ | session
  · cases inner with
    | entering =>
        refine .same ?_ ledger
        simp only [resume, RebootPoint.resume]
        split
        · cases afterBuild <;> rfl
        · rfl
    | waiting =>
        rcases RebootPoint.begin_eq world with ⟨later, after, begun, _, resets, _⟩
        refine .opened ?_ ledger
        simp only [resume, RebootPoint.resume, begun, Stage.andThen_pause]
        exact resets.session
    | _ => cases works
  · refine .same ?_ ledger
    rcases RebootPoint.resume_eq works world with
      ⟨later, after, paused, _, through⟩ | ⟨middle, delay, ended, through⟩
    · simp only [resume, paused, Stage.andThen_pause]
      exact through.session_eq
    · simp only [resume, ended, Stage.andThen_done]
      rw [(world_afterReboot_ok afterBuild session _).2]
      exact through.session_eq

theorem accounts_resume (point : Point) (world : World)
    (live : ∀ session, point.session? = some session →
      world.node.session.isCurrent session = true ∧ world.node.session.attempt = none) :
    world.Accounts (point.resume world).world := by
  cases point with
  | rebooting afterBuild inner => exact accounts_rebooting afterBuild inner world
  | looking session inner =>
      have whole : ((looking session inner).resume world).world =
          (inner.resume session world).world := by
        simp only [resume]
        cases inner.resume session world <;> rfl
      rw [whole]
      cases inner with
      | waiting => exact LookPoint.accounts_begin session world
      | refreshing fetch =>
          rcases live session rfl with ⟨current, idle⟩
          exact LookPoint.accounts_refreshing current idle fetch
  | _ => exact .same (through rfl world).session_eq (ledger_resume rfl world)

end Point

theorem Happening.ledger_apply (happening : Happening) (world : World) :
    (happening.apply world).ledger = world.ledger := by
  cases happening with
  | describe instanceIds => exact world.ledger_describe instanceIds
  | command operation instanceId => exact world.ledger_command operation instanceId
  | changeTags change instanceId batch => exact world.ledger_changeTags change instanceId batch
  | requestShutdown => exact world.ledger_askToExit
  | connect explicit => exact world.ledger_reachEndpoint explicit
  | _ => rfl

theorem Move.ledger_outside {move : Move} {change : World → World}
    (changes : move.outside? = some change) (world : World) :
    (change world).ledger = world.ledger := by
  cases move with
  | bringOn transfer =>
      cases changes
      exact world.ledger_bringOn transfer
  | retire =>
      cases changes
      exact world.ledger_retire
  | happen happening =>
      cases changes
      exact happening.ledger_apply world
  | start number request => cases changes
  | resume number => cases changes
  | notice number => cases changes
  | runMonitor number => cases changes
  | _ =>
      cases changes
      rfl

namespace Execution

variable {before after : Execution} {move : Move}

theorem Step.accounts (sound : before.Sound) (step : before.Step move after) :
    before.world.Accounts after.world := by
  cases step with
  | idle move => exact .same rfl rfl
  | outside move change changes =>
      exact .same (Move.frame_outside changes before.world).1 (Move.ledger_outside changes _)
  | started number request fresh => exact .same rfl rfl
  | looked number session delay agenda fresh scheduled => exact .same (by simp) (by simp)
  | lost number session delay agenda scheduled dropped =>
      refine .same (by simp [withWorld]) ?_
      exact (World.ledger_note _ _ rfl).trans (World.ledger_withAgenda _ delay agenda)
  | advanced move earlier later task stage split takes =>
      have running := mem_of_eq_append split
      cases takes with
      | resume ready => exact task.point.accounts_resume before.world (sound.guarded task running)
      | notice news =>
          exact .same (task.point.through_notice before.world).session_eq
            (task.point.ledger_notice before.world)

end Execution

/-! ## Launches are connections -/

/-- The session that an event says an attempt was started for. -/
def Journal.Event.launchedFor? : Journal.Event → Option Nat
  | attemptStarted session => some session
  | _ => none

/-- Whether somebody connects the endpoint by hand with a move. -/
def Move.connects : Move → Bool
  | happen happening => happening.isConnect
  | _ => false

namespace World

/-- The sessions on whose behalf the node called for a connection, the latest first. -/
def launchedFor (world : World) : List Nat :=
  world.launches.filterMap Journal.Event.launchedFor?

theorem launchedFor_of_ledger {before after : World} (ledger : after.ledger = before.ledger) :
    after.launchedFor = before.launchedFor :=
  congrArg (List.filterMap Journal.Event.launchedFor?) (congrArg Prod.snd ledger)

theorem launchedFor_of_started {before after : World} {timings : Timings} {session : Nat}
    (ledger : after.ledger =
      (timings, .attemptStarted session :: .startingConnection false :: before.launches)) :
    after.launchedFor = session :: before.launchedFor :=
  congrArg (fun ledger => ledger.2.filterMap Journal.Event.launchedFor?) ledger

/-- Nothing is launched by what leaves no attempt where there was none. -/
theorem Accounts.launchedFor_eq {before after : World} (accounts : before.Accounts after)
    (idle : before.node.session.attempt = none → after.node.session.attempt = none) :
    after.launchedFor = before.launchedFor := by
  cases accounts with
  | same kept ledger => exact launchedFor_of_ledger ledger
  | opened kept ledger => exact launchedFor_of_ledger ledger
  | closed kept ledger => exact launchedFor_of_ledger ledger
  | started current free record ledger =>
      cases (idle free).symm.trans (congrArg Reboot.Session.attempt record)
  | retried busy spare record ledger => exact launchedFor_of_ledger ledger

/-- An attempt that is held afterwards and was not held before is a launch for the session that is
under way. -/
theorem Accounts.exists_launched {before after : World} {attempt : Nat}
    (accounts : before.Accounts after) (idle : before.node.session.attempt = none)
    (holds : after.node.session.attempt = some attempt) :
    ∃ session, before.node.session.isCurrent session = true ∧
      after.launchedFor = session :: before.launchedFor := by
  cases accounts with
  | same kept ledger => cases holds.symm.trans (kept ▸ idle)
  | opened kept ledger => cases holds.symm.trans (congrArg Reboot.Session.attempt kept)
  | closed kept ledger => cases holds.symm.trans (congrArg Reboot.Session.attempt kept)
  | started current free record ledger => exact ⟨_, current, launchedFor_of_started ledger⟩
  | retried busy spare record ledger =>
      cases holds.symm.trans (congrArg Reboot.Session.attempt record)

/-- What a move does to the launches and to the connections. Either it launches nothing, and makes
no connection but one that somebody makes by hand; or it launches the attempt of a session, which is
one more connection. -/
inductive Connects (before : World) (move : Move) (after : World) : Prop where
  | nothing (launches : after.launchedFor = before.launchedFor)
      (connections : after.connections ≤ before.connections + move.connects.toNat) :
      Connects before move after
  | launched (session attempt : Nat) (current : before.node.session.isCurrent session = true)
      (idle : before.node.session.attempt = none)
      (launches : after.launchedFor = session :: before.launchedFor)
      (connections : after.connections = before.connections + 1)
      (holds : after.node.session.attempt = some attempt) : Connects before move after

end World

theorem Move.connections_outside {move : Move} {change : World → World}
    (changes : move.outside? = some change) (world : World) :
    (change world).connections = world.connections + move.connects.toNat := by
  cases move with
  | bringOn transfer =>
      cases changes
      exact world.connections_bringOn transfer
  | retire =>
      cases changes
      have same := world.frame_retire
      exact World.connections_congr (congrArg Endpoint.connectCalls same.1) same.2.1
  | happen happening =>
      cases changes
      exact happening.connections_apply world
  | start number request => cases changes
  | resume number => cases changes
  | notice number => cases changes
  | runMonitor number => cases changes
  | _ =>
      cases changes
      rfl

/-- A task starts an attempt for a session that holds none, or makes no connection. -/
theorem Point.Effect.connections {point : Point} {next : Option Point} {before after : World}
    (effect : point.Effect before next after) :
    (after.connections ≤ before.connections ∧
      (before.node.session.attempt = none → after.node.session.attempt = none)) ∨
    ∃ session attempt, before.node.session.attempt = none ∧
      before.Attempts session attempt after := by
  cases effect with
  | kept through tick works =>
      exact .inl ⟨Nat.le_of_eq through.connections_eq, fun idle => through.session_eq ▸ idle⟩
  | engaged looks current managed attached idle => exact .inl ⟨Nat.le_refl _, id⟩
  | superseded looks stale => exact .inl ⟨Nat.le_refl _, id⟩
  | opened reboots works resets causes marked =>
      exact .inl ⟨resets.connections, fun _ => resets.session ▸ rfl⟩
  | concluded reboots works through scheduled =>
      subst scheduled
      exact .inl ⟨Nat.le_of_eq through.connections_eq, fun idle => through.session_eq ▸ idle⟩
  | decided tick current effect =>
      cases effect with
      | closed outcome resets =>
          exact .inl ⟨resets.connections, fun _ => resets.session ▸ rfl⟩
      | started attempt idle attempts => exact .inr ⟨_, attempt, idle, attempts⟩
      | rechecked attempt delay busy underWay scheduled =>
          subst scheduled
          exact .inl ⟨Nat.le_refl _, id⟩
      | retried attempt busy ended retries =>
          have calls : after.endpoint.connectCalls = before.endpoint.connectCalls := by
            rw [retries.endpoint]
            rfl
          have connections := World.connections_congr calls retries.transfers
          exact .inl ⟨Nat.le_of_eq connections, fun _ => retries.attempt⟩

theorem Execution.Step.connects {before after : Execution} {move : Move} (sound : before.Sound)
    (step : before.Step move after) : before.world.Connects move after.world := by
  have accounts := step.accounts sound
  cases step with
  | idle move => exact .nothing rfl (Nat.le_add_right _ _)
  | outside move change changes =>
      exact .nothing (World.launchedFor_of_ledger (Move.ledger_outside changes _))
        (Nat.le_of_eq (Move.connections_outside changes _))
  | started number request fresh => exact .nothing rfl (Nat.le_add_right _ _)
  | looked number session delay agenda fresh scheduled =>
      exact .nothing (World.launchedFor_of_ledger (before.world.ledger_withAgenda delay agenda))
        (Nat.le_add_right_of_le (Nat.le_of_eq (before.world.connections_withAgenda delay agenda)))
  | lost number session delay agenda scheduled dropped =>
      have ledger := (World.ledger_note _ (.monitorWithoutNode session) rfl).trans
        (before.world.ledger_withAgenda delay agenda)
      exact .nothing (World.launchedFor_of_ledger ledger)
        (Nat.le_add_right_of_le (Nat.le_of_eq (before.world.connections_withAgenda delay agenda)))
  | advanced move earlier later task stage split takes =>
      rcases (takes.effect sound.guarded (mem_of_eq_append split)).connections with
        ⟨fewer, idle⟩ | ⟨works, attempt, idle, attempts⟩
      · exact .nothing (accounts.launchedFor_eq idle) (Nat.le_add_right_of_le fewer)
      · have holds : stage.world.node.session.attempt = some attempt :=
          congrArg Reboot.Session.attempt attempts.record
        rcases accounts.exists_launched idle holds with ⟨session, current, launches⟩
        exact .launched session attempt current idle launches attempts.connections holds

/-- Every move of a run launches what it connects. -/
theorem Outset.connects_run (outset : Outset) (moves : List Move) (move : Move) :
    (outset.execution.run moves).world.Connects move
      (outset.execution.run (moves ++ [move])).world := by
  have sound := outset.sound_run moves
  rw [Execution.run_concat]
  exact (Execution.step_apply sound.orderly move).connects sound

/-- The connections are launches, or were made by hand. -/
theorem Outset.connections_run (outset : Outset) (moves : List Move) :
    (outset.execution.run moves).world.connections ≤ outset.endpoint.connectCalls +
      (outset.execution.run moves).world.launchedFor.length + moves.countP Move.connects := by
  induction moves using List.reverseRecOn with
  | nil => exact Nat.le_refl _
  | append_singleton moves move hypothesis =>
      have counted : (moves ++ [move]).countP Move.connects =
          moves.countP Move.connects + move.connects.toNat := by
        rw [List.countP_append, List.countP_singleton]
        cases move.connects <;> rfl
      rw [counted]
      cases outset.connects_run moves move with
      | nothing launches connections =>
          rw [launches]
          omega
      | launched session attempt current idle launches connections holds =>
          rw [launches, connections, List.length_cons]
          omega

end BuildAgent
