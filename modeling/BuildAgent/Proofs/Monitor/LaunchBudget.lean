import BuildAgent.Proofs.Monitor.Accounts

/-!
# The launch budget

A policy may limit the launches that fail before a session is given up. While a session is live, its
attempts are its failures and the one that is under way (`World.Budgeted`), and a policy that has
not given it up has seen fewer failures than its limit. Every move keeps that, by its accounts
(`World.Accounts`). The attempts are counted by what the node notes of them, and every note is a
connection (`World.Connects`).
-/

namespace BuildAgent

/-! ## Attempts are failures and what is under way -/

namespace World

/-- What the record of sessions and the ledger have to do with each other. -/
structure Budgeted (timings : Timings) (world : World) : Prop where
  fixed : world.node.timings = timings
  /-- Every call for a connection is on behalf of a session. -/
  paired : world.launches = world.launchedFor.flatMap fun session =>
    [.attemptStarted session, .startingConnection false]
  future : ∀ session, world.node.session.generation < session →
    world.launchedFor.count session = 0
  capped : world.node.session.launchFailures ≤ Text.Decimal.largest32
  live : world.node.session.active = true → ∃ failed,
    world.launchedFor.count world.node.session.generation =
        failed + world.node.session.attempt.isSome.toNat ∧
      world.node.session.launchFailures = min failed Text.Decimal.largest32
  spare : world.node.session.active = true → world.node.session.launchFailures = 0 ∨
    timings.reboot.isExhausted world.node.session.launchFailures = false
  bounded : ∀ limit, timings.reboot.maxLaunchFailures = some limit →
    limit ≤ Text.Decimal.largest32 → ∀ session, world.launchedFor.count session ≤ max limit 1

namespace Budgeted

variable {timings : Timings} {before after : World}

/-- A policy with a limit has seen no more failures than it counted. -/
theorem failures_eq {world : World} (budgeted : world.Budgeted timings)
    (active : world.node.session.active = true) {limit : Nat}
    (limited : timings.reboot.maxLaunchFailures = some limit)
    (small : limit ≤ Text.Decimal.largest32) :
    world.launchedFor.count world.node.session.generation =
        world.node.session.launchFailures + world.node.session.attempt.isSome.toNat ∧
      (world.node.session.launchFailures = 0 ∨ world.node.session.launchFailures < limit) := by
  have positive : 0 < Text.Decimal.largest32 := by decide
  have spare : world.node.session.launchFailures = 0 ∨
      world.node.session.launchFailures < limit := by
    apply (budgeted.spare active).imp_right
    intro spare
    simpa [Reboot.Policy.isExhausted, limited] using spare
  rcases budgeted.live active with ⟨failed, count, saturated⟩
  refine ⟨?_, spare⟩
  -- Below the limit the count of failures has not reached the largest number it can hold.
  have exact_count : world.node.session.launchFailures = failed := by omega
  rw [count, exact_count]

theorem of_same_ledger (budgeted : before.Budgeted timings)
    (ledger : after.ledger = before.ledger)
    (generation : before.node.session.generation ≤ after.node.session.generation)
    (capped : after.node.session.launchFailures ≤ Text.Decimal.largest32)
    (live : after.node.session.active = true → ∃ failed,
      before.launchedFor.count after.node.session.generation =
          failed + after.node.session.attempt.isSome.toNat ∧
        after.node.session.launchFailures = min failed Text.Decimal.largest32)
    (spare : after.node.session.active = true → after.node.session.launchFailures = 0 ∨
      timings.reboot.isExhausted after.node.session.launchFailures = false) :
    after.Budgeted timings := by
  have kept : after.node.timings = before.node.timings := congrArg Prod.fst ledger
  have launches : after.launches = before.launches := congrArg Prod.snd ledger
  have launchedFor := launchedFor_of_ledger ledger
  refine ⟨kept.trans budgeted.fixed, ?_, ?_, capped, ?_, spare, ?_⟩
  · rw [launches, launchedFor]
    exact budgeted.paired
  · intro session beyond
    rw [launchedFor]
    exact budgeted.future session (Nat.lt_of_le_of_lt generation beyond)
  · rw [launchedFor]
    exact live
  · rw [launchedFor]
    exact budgeted.bounded

theorem started (budgeted : before.Budgeted timings) {session attempt : Nat}
    (current : before.node.session.isCurrent session = true)
    (idle : before.node.session.attempt = none)
    (record : after.node.session = { before.node.session with attempt := some attempt })
    (ledger : after.ledger = (before.node.timings,
      .attemptStarted session :: .startingConnection false :: before.launches)) :
    after.Budgeted timings := by
  have kept : after.node.timings = before.node.timings := congrArg Prod.fst ledger
  have launches : after.launches =
      .attemptStarted session :: .startingConnection false :: before.launches :=
    congrArg Prod.snd ledger
  have launchedFor : after.launchedFor = session :: before.launchedFor :=
    launchedFor_of_started ledger
  simp only [Reboot.Session.isCurrent, Bool.and_eq_true, decide_eq_true_eq] at current
  rcases current with ⟨active, rfl⟩
  rcases budgeted.live active with ⟨failed, count, saturated⟩
  simp only [idle, Option.isSome_none, Bool.toNat_false, Nat.add_zero] at count
  refine ⟨kept.trans budgeted.fixed, ?_, ?_, ?_, ?_, ?_, ?_⟩
  · rw [launches, launchedFor, List.flatMap_cons, ← budgeted.paired]
    rfl
  · intro session beyond
    rw [record] at beyond
    have different : before.node.session.generation ≠ session := Nat.ne_of_lt beyond
    rw [launchedFor, List.count_cons_of_ne different]
    exact budgeted.future session beyond
  · rw [record]
    exact budgeted.capped
  · intro _
    refine ⟨failed, ?_, ?_⟩
    · rw [record, launchedFor, List.count_cons_self, count]
      rfl
    · rw [record]
      exact saturated
  · rw [record]
    exact fun _ => budgeted.spare active
  · intro limit limited small session
    rcases Nat.decEq before.node.session.generation session with different | rfl
    · rw [launchedFor, List.count_cons_of_ne different]
      exact budgeted.bounded limit limited small session
    · rcases budgeted.failures_eq active limited small with ⟨exact_count, spare⟩
      rw [idle] at exact_count
      simp only [Option.isSome_none, Bool.toNat_false, Nat.add_zero] at exact_count
      rw [launchedFor, List.count_cons_self, exact_count]
      omega

theorem step (budgeted : before.Budgeted timings) (accounts : before.Accounts after) :
    after.Budgeted timings := by
  cases accounts with
  | same session ledger =>
      refine budgeted.of_same_ledger ledger ?_ ?_ ?_ ?_
      · have generation : after.node.session.generation = before.node.session.generation :=
          congrArg Reboot.Session.generation session
        exact Nat.le_of_eq generation.symm
      · rw [session]
        exact budgeted.capped
      · rw [session]
        exact budgeted.live
      · rw [session]
        exact budgeted.spare
  | opened session ledger =>
      have fresh := budgeted.future (before.node.session.generation + 1) (Nat.lt_succ_self _)
      refine budgeted.of_same_ledger ledger ?_ ?_ ?_ ?_
      · rw [session]
        exact Nat.le_succ _
      · rw [session]
        exact Nat.zero_le _
      · intro _
        rw [session]
        exact ⟨0, fresh, rfl⟩
      · intro _
        rw [session]
        exact .inl rfl
  | closed session ledger =>
      refine budgeted.of_same_ledger ledger ?_ ?_ ?_ ?_
      · have generation : after.node.session.generation = before.node.session.generation := by
          simp [session, Reboot.Session.close]
        exact Nat.le_of_eq generation.symm
      · rw [session]
        exact budgeted.capped
      · intro active
        rw [session] at active
        cases active
      · intro active
        rw [session] at active
        cases active
  | started current idle record ledger => exact budgeted.started current idle record ledger
  | retried busy spare record ledger =>
      refine budgeted.of_same_ledger ledger ?_ ?_ ?_ ?_
      · have generation : after.node.session.generation = before.node.session.generation := by
          simp [record]
        exact Nat.le_of_eq generation.symm
      · rw [record]
        exact Nat.min_le_right _ _
      · intro active
        rw [record] at active ⊢
        rcases budgeted.live active with ⟨failed, count, saturated⟩
        refine ⟨failed + 1, ?_, ?_⟩
        · rw [count, busy]
          rfl
        · simp only [Reboot.countFailure, saturated]
          omega
      · intro _
        rw [record]
        rw [budgeted.fixed] at spare
        exact .inr spare

/-- A session that is opened has made no attempt, and no failure is counted for it. -/
theorem fresh (budgeted : before.Budgeted timings) (accounts : before.Accounts after)
    (other : after.node.session.generation ≠ before.node.session.generation) :
    after.node.session.launchFailures = 0 ∧
      after.launchedFor.count after.node.session.generation = 0 := by
  cases accounts with
  | opened session ledger =>
      refine ⟨congrArg Reboot.Session.launchFailures session, ?_⟩
      have next : after.node.session.generation = before.node.session.generation + 1 :=
        congrArg Reboot.Session.generation session
      rw [next, launchedFor_of_ledger ledger]
      exact budgeted.future _ (Nat.lt_succ_self _)
  | same session ledger => exact absurd (congrArg Reboot.Session.generation session) other
  | closed session ledger => exact absurd (congrArg Reboot.Session.generation session) other
  | started current idle record ledger =>
      exact absurd (congrArg Reboot.Session.generation record) other
  | retried busy spare record ledger =>
      exact absurd (congrArg Reboot.Session.generation record) other

end Budgeted

end World

/-! ## A look that gives the session up for its failures -/

namespace LookPoint

variable {session failures : Nat} {world after : World}

theorem exhausted_of_act {observation : Reboot.Observation}
    (given : (act session observation world).1 = .abandoned (.launchBudgetExhausted failures)) :
    world.node.timings.reboot.isExhausted failures = true := by
  rcases decide_of_act given with decided | gone
  · exact (Reboot.Policy.isExhausted_of_decide ..).2 _ decided
  · cases gone

theorem exhausted_of_resume {point : LookPoint}
    (ended : point.resume session world =
      .done (.abandoned (.launchBudgetExhausted failures)) after) :
    world.node.timings.reboot.isExhausted failures = true := by
  cases point with
  | waiting =>
      simp only [resume, begin] at ended
      split at ended
      · cases ended
      split at ended
      · cases ended
      split at ended
      · cases ended
      split at ended
      · cases ended
      · split at ended
        · cases ended
        · rename_i outcome known
          simp only [Stage.done.injEq] at ended
          have exhausted := exhausted_of_act ended.1
          simpa using exhausted
  | refreshing fetch =>
      have ledger := fetch.ledger_resume world
      simp only [resume] at ended
      rcases stage_eq : fetch.resume world with ⟨later, middle⟩ | ⟨found, middle⟩
      · simp [stage_eq] at ended
      · rw [stage_eq] at ledger
        simp only [stage_eq, Stage.andThen_done, afterFetch, Stage.done.injEq] at ended
        have exhausted := exhausted_of_act ended.1
        have timings : middle.node.timings = world.node.timings := congrArg Prod.fst ledger
        rwa [timings] at exhausted

end LookPoint

/-- A session is given up for its failures only where the limit is used up. -/
def Execution.GivesUpExhausted (policy : Reboot.Policy) (execution : Execution) : Prop :=
  ∀ report, report ∈ execution.reports → ∀ failures,
    report.answer = .looked (.abandoned (.launchBudgetExhausted failures)) →
    policy.isExhausted failures = true

theorem Execution.GivesUpExhausted.step {timings : Timings} {before after : Execution} {move : Move}
    (exhausts : before.GivesUpExhausted timings.reboot)
    (fixed : before.world.node.timings = timings) (step : before.Step move after) :
    after.GivesUpExhausted timings.reboot := by
  cases step with
  | advanced move earlier later task stage split takes =>
      cases stage with
      | pause next world => exact exhausts
      | done answer world =>
          intro report reported failures given
          rcases List.mem_cons.mp reported with rfl | old
          · dsimp only at given
            subst given
            rcases takes.looked with ⟨session, inner, _, ended⟩
            rw [← fixed]
            exact LookPoint.exhausted_of_resume ended
          · exact exhausts report old failures given
  | _ => exact exhausts

namespace Outset

variable (outset : Outset) (moves : List Move)

theorem budgeted_run : (outset.execution.run moves).world.Budgeted outset.timings ∧
    (outset.execution.run moves).GivesUpExhausted outset.timings.reboot := by
  refine outset.sound_execution.run_induction (fun _ => True) (fun execution =>
    execution.world.Budgeted outset.timings ∧
      execution.GivesUpExhausted outset.timings.reboot) ?_ ?_ moves fun _ _ => trivial
  · rintro before after move sound _ step ⟨budgeted, exhausts⟩
    exact ⟨budgeted.step (step.accounts sound), exhausts.step budgeted.fixed step⟩
  · refine ⟨⟨rfl, rfl, fun _ _ => rfl, Nat.zero_le _, nofun, nofun, ?_⟩, ?_⟩
    · intro limit limited small session
      exact Nat.zero_le _
    · intro report reported
      cases reported

/-- **The launch budget bounds every session.** Whatever moves are made in whatever order: with a
limit, the node calls for a connection on behalf of one session at most as often as the limit says,
or once; while a session is live, these calls are its failures and the attempt that it holds, and
the failures are none or fewer than the limit. Without a limit the count of failures stays at the
largest number that it can hold, and no session is given up for it. A session that is opened starts
from nothing, and no call for a connection is made but on behalf of a session. The calls that are
counted here are the connections: each of them is one more connection, and without one no move adds
to the connections, unless somebody connects the endpoint by hand. -/
theorem launch_budget :
    (∀ limit, outset.timings.reboot.maxLaunchFailures = some limit →
      limit ≤ Text.Decimal.largest32 →
      (∀ session,
        (outset.execution.run moves).world.launchedFor.count session ≤ max limit 1) ∧
      ((outset.execution.run moves).world.node.session.active = true →
        (outset.execution.run moves).world.launchedFor.count
            (outset.execution.run moves).world.node.session.generation =
          (outset.execution.run moves).world.node.session.launchFailures +
            (outset.execution.run moves).world.node.session.attempt.isSome.toNat ∧
        ((outset.execution.run moves).world.node.session.launchFailures = 0 ∨
          (outset.execution.run moves).world.node.session.launchFailures < limit))) ∧
    ((outset.execution.run moves).world.node.session.active = true → ∃ failed,
      (outset.execution.run moves).world.launchedFor.count
          (outset.execution.run moves).world.node.session.generation =
        failed + (outset.execution.run moves).world.node.session.attempt.isSome.toNat ∧
      (outset.execution.run moves).world.node.session.launchFailures =
        min failed Text.Decimal.largest32) ∧
    (outset.timings.reboot.maxLaunchFailures = none →
      (outset.execution.run moves).world.node.session.launchFailures ≤ Text.Decimal.largest32 ∧
      ∀ report, report ∈ (outset.execution.run moves).reports → ∀ failures,
        report.answer ≠ .looked (.abandoned (.launchBudgetExhausted failures))) ∧
    (∀ move, (outset.execution.run (moves ++ [move])).world.node.session.generation ≠
        (outset.execution.run moves).world.node.session.generation →
      (outset.execution.run (moves ++ [move])).world.node.session.launchFailures = 0 ∧
      (outset.execution.run (moves ++ [move])).world.launchedFor.count
        (outset.execution.run (moves ++ [move])).world.node.session.generation = 0) ∧
    ((outset.execution.run moves).world.launches =
      (outset.execution.run moves).world.launchedFor.flatMap fun session =>
        [.attemptStarted session, .startingConnection false]) ∧
    (∀ move, (outset.execution.run moves).world.Connects move
      (outset.execution.run (moves ++ [move])).world) ∧
    (outset.execution.run moves).world.connections ≤ outset.endpoint.connectCalls +
      (outset.execution.run moves).world.launchedFor.length + moves.countP Move.connects := by
  rcases outset.budgeted_run moves with ⟨budgeted, exhausts⟩
  refine ⟨?_, budgeted.live, ?_, ?_, budgeted.paired, outset.connects_run moves,
    outset.connections_run moves⟩
  · intro limit limited small
    exact ⟨budgeted.bounded limit limited small,
      fun active => budgeted.failures_eq active limited small⟩
  · intro unlimited
    refine ⟨budgeted.capped, ?_⟩
    intro report reported failures given
    have exhausted := exhausts report reported failures given
    simp [Reboot.Policy.isExhausted, unlimited] at exhausted
  · intro move other
    have sound := outset.sound_run moves
    rw [Execution.run_append] at other ⊢
    exact budgeted.fresh ((Execution.step_apply sound.orderly move).accounts sound) other

/-- A node that is given up after its second failure to launch. -/
def givenUpAfterTwo : Outset :=
  { onInstance someInstance with timings := { reboot := { maxLaunchFailures := some 2 } } }

/-- A reboot, a launch that fails, and another launch. -/
def failedLaunch : List Move :=
  [.happen (.script (.launchFail "no agent")), .start 0 .reboot, .resume 0, .resume 0, .resume 0,
    .resume 0, .resume 0, .start 1 (.look 1), .resume 1, .resume 1, .resume 1, .start 2 (.look 1),
    .resume 2, .start 3 (.look 1), .resume 3, .resume 3, .resume 3]

/-- After one failure the second attempt is under way, and there will be no third. -/
theorem launch_budget_second :
    (givenUpAfterTwo.execution.run failedLaunch).world.node.session.launchFailures = 1 ∧
      (givenUpAfterTwo.execution.run failedLaunch).world.launchedFor.count 1 = 1 + 1 := by
  have session_eq : (givenUpAfterTwo.execution.run failedLaunch).world.node.session =
      { generation := 1, active := true, attempt := some 2, launchFailures := 1 } := by
    decide +kernel
  have budget := (givenUpAfterTwo.launch_budget failedLaunch).1 2 rfl (by decide)
  rw [session_eq] at budget ⊢
  exact ⟨rfl, (budget.2 rfl).1⟩

end Outset

end BuildAgent
