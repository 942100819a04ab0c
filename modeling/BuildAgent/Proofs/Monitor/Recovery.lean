import BuildAgent.Proofs.Execution.Step
import BuildAgent.Proofs.Monitor.Undisturbed

/-!
# The outcome of an undisturbed reboot

A reboot that nothing disturbs makes attempt after attempt, two looks for each: one that starts the
attempt and one that sees how it ended. `Execution.Awaits` is what holds before each attempt. An
attempt that fails to launch leads back to it, with one more failure counted, while the policy
has attempts left (`Awaits.retried`); every other attempt closes the session (`Awaits.ended`). By
induction on the attempts, `Execution.undisturbed_reboot` gives the number of looks, the attempts,
the delays and the outcome of the whole reboot.
-/

namespace BuildAgent

theorem Reboot.Session.isCurrent_live (generation : Nat) (attempt : Option Nat)
    (launchFailures : Nat) :
    Session.isCurrent ⟨generation, true, attempt, launchFailures⟩ generation = true := by
  simp [isCurrent]

namespace Execution

variable {execution : Execution} {policy : Reboot.Policy} {course : Course}
  {session failures attempts : Nat} {history : List Nat} {scripts : List ConnectScript}

/-- Whether nothing is under way but a session that waits for its next attempt: one look is
scheduled, and all looks of earlier attempts have run. -/
structure Awaits (execution : Execution) (policy : Reboot.Policy) (session failures : Nat)
    (history : List Nat) (scripts : List ConnectScript) (attempts : Nat) : Prop where
  resting : execution.running = []
  stands : ∃ channel, execution.world.OnCourse policy {
    session := ⟨session, true, none, failures⟩
    backlog := ⟨[(policy.initialDelay, session)], history ++ [policy.initialDelay]⟩
    channel
    cause := some (.reboot session)
    scripts
    attempts }

/-- The only look that is scheduled is run next. -/
theorem runNext_of_ends {moves delay : Nat} {answer : Answer} {after : World}
    (resting : execution.running = []) (onCourse : execution.world.OnCourse policy course)
    (queued : course.backlog = ⟨[(delay, session)], history⟩)
    (ends : (Request.look session).entry.Ends moves
      (execution.world.withAgenda (some delay) (.manual ⟨[], history⟩)) answer after)
    (few : moves ≤ patience) :
    execution.runNext = (some delay, execution.answered (.look session) answer after) := by
  refine runNext_eq resting onCourse.held ?_ ends few
  simp [World.scheduled?, onCourse.agenda, queued, Schedule.Backlog.take?]

/-- The first look at a session that waits starts an attempt, and the attempt ends at once. -/
theorem Awaits.first_look
    (awaits : execution.Awaits policy session failures history scripts attempts)
    (ends : scripts.headD .succeed ≠ .hang) :
    ∃ attempt outcome after, execution.runNext = (some policy.initialDelay,
        execution.answered (.look session) (.looked .attemptStarted) after) ∧
      after.outcome? attempt = some outcome ∧
      after.OnCourse policy {
        session := ⟨session, true, some attempt, failures⟩
        backlog := ⟨[(policy.pendingRecheck, session)],
          history ++ [policy.initialDelay, policy.pendingRecheck]⟩
        channel := (scripts.headD .succeed).cause?.isNone
        cause := (scripts.headD .succeed).cause?.or (some (.reboot session))
        scripts := scripts.tail
        attempts := attempts + 1 } := by
  rcases awaits.stands with ⟨channel, onCourse⟩
  have popped := onCourse.withAgenda policy.initialDelay ⟨[], history ++ [policy.initialDelay]⟩
  rcases LookPoint.ends_idle popped (Reboot.Session.isCurrent_live ..) rfl rfl ends with
    ⟨attempt, outcome, after, looked, known, started⟩
  refine ⟨attempt, outcome, after, ?_, known, ?_⟩
  · exact runNext_of_ends awaits.resting onCourse rfl looked (by decide)
  · simpa [Course.attempted, Course.schedule, Schedule.Backlog.schedule] using started

/-- An attempt that fails to launch leads to another one, while the policy has some left. -/
theorem Awaits.retried (awaits : execution.Awaits policy session failures history scripts attempts)
    (failing : (scripts.headD .succeed).isLaunchFailing = true)
    (spare : policy.isExhausted (Reboot.countFailure failures) = false) :
    ∃ after, Looks session [.attemptStarted, .retryScheduled] execution after ∧
      after.Awaits policy session (Reboot.countFailure failures)
        (history ++ [policy.initialDelay, policy.pendingRecheck]) scripts.tail (attempts + 1) := by
  have ends : scripts.headD .succeed ≠ .hang := by
    intro hangs
    rw [hangs] at failing
    cases failing
  rcases awaits.first_look ends with ⟨attempt, outcome, middle, ran, known, onCourse⟩
  let looked := execution.answered (.look session) (.looked .attemptStarted) middle
  have popped := onCourse.withAgenda policy.pendingRecheck
    ⟨[], history ++ [policy.initialDelay, policy.pendingRecheck]⟩
  have decided := policy.decide_attempted (scripts.headD .succeed) (some (.reboot session)) failures
  rw [if_pos failing, if_neg (by simp [spare])] at decided
  rcases LookPoint.ends_retry popped (Reboot.Session.isCurrent_live ..) rfl known decided with
    ⟨after, ends, scheduled⟩
  have retried : looked.runNext = (some policy.pendingRecheck,
      looked.answered (.look session) (.looked .retryScheduled) after) :=
    runNext_of_ends rfl onCourse rfl ends (by decide)
  refine ⟨_, .cons ran (.cons retried (.nil _)), rfl, (scripts.headD .succeed).cause?.isNone, ?_⟩
  simpa [Course.schedule, Schedule.Backlog.schedule, Reboot.Session.recordFailure, answered]
    using scheduled

/-- Every other attempt is the last one. -/
theorem Awaits.ended (awaits : execution.Awaits policy session failures history scripts attempts)
    (ends : scripts.headD .succeed ≠ .hang) {verdict : LookOutcome}
    (decided : (policy.decide (.attemptFinished (scripts.headD .succeed).cause?.isNone
      ((scripts.headD .succeed).cause?.or (some (.reboot session)))) failures).verdict? =
        some verdict) :
    ∃ after channel cause, Looks session [.attemptStarted, verdict] execution after ∧
      after.world.OnCourse policy {
        session := ⟨session, false, none, failures⟩
        backlog := ⟨[], history ++ [policy.initialDelay, policy.pendingRecheck]⟩
        channel
        cause
        scripts := scripts.tail
        attempts := attempts + 1 } := by
  rcases awaits.first_look ends with ⟨attempt, outcome, middle, ran, known, onCourse⟩
  let looked := execution.answered (.look session) (.looked .attemptStarted) middle
  have popped := onCourse.withAgenda policy.pendingRecheck
    ⟨[], history ++ [policy.initialDelay, policy.pendingRecheck]⟩
  rcases LookPoint.ends_over popped (Reboot.Session.isCurrent_live ..) rfl known decided with
    ⟨after, cause, ends, closed⟩
  have concluded : looked.runNext = (some policy.pendingRecheck,
      looked.answered (.look session) (.looked verdict) after) :=
    runNext_of_ends rfl onCourse rfl ends (by decide)
  exact ⟨_, _, cause, .cons ran (.cons concluded (.nil _)), closed⟩

theorem headD_drop (scripts : List ConnectScript) (position : Nat) :
    (scripts.drop position).headD .succeed = scripts.getD position .succeed := by
  simp [List.headD_eq_head?_getD]

/-- The attempts before the last one, each of which failed to launch. -/
theorem Awaits.retries (awaits : execution.Awaits policy session 0 history scripts attempts)
    {retries : Nat} (before : retries < policy.attempts scripts) :
    ∃ after, Looks session (List.replicate retries [.attemptStarted, .retryScheduled]).flatten
        execution after ∧
      after.Awaits policy session (min retries Text.Decimal.largest32)
        (history ++ (List.replicate retries
          [policy.initialDelay, policy.pendingRecheck]).flatten)
        (scripts.drop retries) (attempts + retries) := by
  induction retries with
  | zero => exact ⟨execution, .nil execution, by simpa using awaits⟩
  | succ retries ih =>
      rcases ih (by omega) with ⟨middle, looks, waits⟩
      rcases Reboot.Policy.retries_of_lt before with ⟨failing, spare⟩
      rw [← headD_drop] at failing
      rcases waits.retried failing spare with ⟨after, pair, again⟩
      have counted : Reboot.countFailure (min retries Text.Decimal.largest32) =
          min (retries + 1) Text.Decimal.largest32 := by
        simp only [Reboot.countFailure]
        omega
      refine ⟨after, ?_, ?_⟩
      · simpa [List.replicate_succ'] using looks.append pair
      · simpa [counted, List.replicate_succ', Nat.add_assoc] using again

/-- A node on which nothing is under way can be rebooted, and its session waits for an attempt. -/
theorem awaits_of_call (undisturbed : execution.world.Undisturbed)
    (resting : execution.running = []) (idle : execution.world.agenda = .manual ⟨[], history⟩) :
    ∃ rebooted,
      execution.call .reboot =
        (some (.rebooted (.ok (execution.world.node.session.generation + 1))), rebooted) ∧
      rebooted.reports.map Report.answer =
        .rebooted (.ok (execution.world.node.session.generation + 1)) ::
          execution.reports.map Report.answer ∧
      rebooted.Awaits execution.world.node.timings.reboot
        (execution.world.node.session.generation + 1) 0 history execution.world.endpoint.scripts
        execution.world.endpoint.connectCalls := by
  have onCourse : execution.world.OnCourse execution.world.node.timings.reboot {
      session := execution.world.node.session
      backlog := ⟨[], history⟩
      channel := execution.world.endpoint.channelPresent
      cause := execution.world.endpoint.cause
      scripts := execution.world.endpoint.scripts
      attempts := execution.world.endpoint.connectCalls } :=
    { undisturbed with
      policy := rfl
      session := rfl
      agenda := idle
      channel := rfl
      cause := rfl
      scripts := rfl
      attempts := rfl }
  rcases RebootPoint.concludes_entering onCourse with ⟨world, entered, scheduled⟩
  exact ⟨_, call_eq resting undisturbed.held entered (by decide), rfl, rfl, false, scheduled⟩

/-- All the looks of a session that has not made an attempt. -/
theorem Awaits.looks (awaits : execution.Awaits policy session 0 history scripts attempts)
    (small : ∀ launches, policy.maxLaunchFailures = some launches →
      launches ≤ Text.Decimal.largest32)
    (ends : .hang ∉ scripts.take (policy.attempts scripts)) :
    ∃ after, Looks session ((List.replicate (policy.attempts scripts - 1)
        [.attemptStarted, .retryScheduled]).flatten ++
          [.attemptStarted, policy.verdict scripts]) execution after ∧
      after.world.endpoint.connectCalls = attempts + policy.attempts scripts ∧
      after.world.agenda = .manual ⟨[], history ++ (List.replicate (policy.attempts scripts)
        [policy.initialDelay, policy.pendingRecheck]).flatten⟩ ∧
      after.world.node.session.phase = .noSession := by
  obtain ⟨retries, last⟩ : ∃ retries, policy.attempts scripts = retries + 1 :=
    Nat.exists_eq_add_one.mpr (policy.attempts_pos scripts)
  rcases awaits.retries (by omega : retries < policy.attempts scripts) with
    ⟨middle, earlier, waits⟩
  have decided := Reboot.Policy.verdict?_last last.symm small (some (.reboot session))
  rw [← headD_drop] at decided
  have launches : (scripts.drop retries).headD .succeed ≠ .hang := by
    intro hangs
    rw [headD_drop, List.getD_eq_getElem?_getD] at hangs
    rcases found : scripts[retries]? with _ | script
    · simp [found] at hangs
    · simp only [found, Option.getD_some] at hangs
      subst hangs
      rw [last] at ends
      rw [← List.getElem?_take_of_lt (Nat.lt_succ_self retries)] at found
      exact ends (List.mem_of_getElem? found)
  rcases waits.ended launches decided with ⟨after, channel, cause, final, closed⟩
  rw [last]
  refine ⟨after, ?_, ?_, ?_, ?_⟩
  · exact earlier.append final
  · rw [closed.attempts, Nat.add_assoc]
  · simp [closed.agenda, List.replicate_succ']
  · simp [closed.session, Reboot.Session.phase]

/-- A reboot that nothing disturbs, and the looks that follow it until none is scheduled. It makes
the attempts that the policy allows, two looks for each, with the two delays in turn. The session
is over afterwards, with an outcome that the scripts of the attempts and the policy decide. A limit
of the policy is a number of 32 bits, and no attempt that is made may hang. -/
theorem undisturbed_reboot {limit : Nat} (undisturbed : execution.world.Undisturbed)
    (resting : execution.running = []) (idle : execution.world.agenda = .manual ⟨[], history⟩)
    (governed : execution.world.node.timings.reboot = policy)
    (scripted : execution.world.endpoint.scripts = scripts)
    (small : ∀ launches, policy.maxLaunchFailures = some launches →
      launches ≤ Text.Decimal.largest32)
    (ends : .hang ∉ scripts.take (policy.attempts scripts))
    (enough : 2 * policy.attempts scripts ≤ limit) :
    ∃ rebooted after,
      execution.call .reboot =
        (some (.rebooted (.ok (execution.world.node.session.generation + 1))), rebooted) ∧
      rebooted.runUntilIdle limit = (2 * policy.attempts scripts, after) ∧
      after.world.endpoint.connectCalls =
        execution.world.endpoint.connectCalls + policy.attempts scripts ∧
      after.world.agenda = .manual ⟨[], history ++ (List.replicate (policy.attempts scripts)
        [policy.initialDelay, policy.pendingRecheck]).flatten⟩ ∧
      after.world.node.session.phase = .noSession ∧
      after.reports.map Report.answer =
        .looked (policy.verdict scripts) :: .looked .attemptStarted ::
          ((List.replicate (policy.attempts scripts - 1)
              [Answer.looked .retryScheduled, .looked .attemptStarted]).flatten ++
            .rebooted (.ok (execution.world.node.session.generation + 1)) ::
              execution.reports.map Report.answer) := by
  subst governed scripted
  rcases awaits_of_call undisturbed resting idle with ⟨rebooted, called, answers, awaits⟩
  rcases awaits.looks small ends with ⟨after, looks, calls, agenda, phase⟩
  have nothing : after.world.scheduled? = none := by
    simp [World.scheduled?, agenda, Schedule.Backlog.take?]
  have positive := execution.world.node.timings.reboot.attempts_pos execution.world.endpoint.scripts
  refine ⟨rebooted, after, called, ?_, calls, agenda, phase, ?_⟩
  · rw [looks.runUntilIdle_eq nothing (by simp; omega)]
    simp
    omega
  · rw [looks.reports_eq, answers]
    simp [List.reverse_flatten]

/-- A node whose agent fails to launch twice, and whose policy does not wait for a third time. -/
def refusing : Execution :=
  Outset.execution { Outset.onInstance someInstance with
    timings := { reboot := { maxLaunchFailures := some 2 } }
    endpoint := {
      name := "node"
      scripts := [.launchFail "refused", .fail (.launchFailed "refused"), .succeed] } }

theorem undisturbed_refusing : refusing.world.Undisturbed where
  held := rfl
  managed := rfl
  attached := rfl
  serves := ⟨someInstance, rfl, ⟨_, rfl, rfl⟩, rfl⟩
  prompt := rfl
  noneDue := nofun

theorem undisturbed_reboot_refusing :
    ∃ rebooted after, refusing.call .reboot = (some (.rebooted (.ok 1)), rebooted) ∧
      rebooted.runUntilIdle 20 = (4, after) ∧
      after.world.endpoint.connectCalls = 2 ∧
      after.world.agenda = .manual ⟨[], [30000, 5000, 30000, 5000]⟩ ∧
      after.world.node.session.phase = .noSession ∧
      after.reports.map Report.answer =
        [.looked (.abandoned (.launchBudgetExhausted 2)), .looked .attemptStarted,
          .looked .retryScheduled, .looked .attemptStarted, .rebooted (.ok 1)] :=
  undisturbed_reboot undisturbed_refusing rfl rfl rfl rfl
    (by intro launches limited; cases limited; decide) (by decide) (by decide)

end Execution

end BuildAgent
