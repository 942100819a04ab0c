import BuildAgent.Node.Rebooting

/-!
# The state machine of a reboot

The reboot monitor as a machine of its own, with no node in sight. No session is live, or the live
one waits for its instance, or an attempt to connect is under way. At each look the machine sees
four things (`Reboot.Sight`), and `Reboot.Machine.Step` lists what it may do then, with one
constructor for each line of the description:

* While the session waits, it is given up if the instance is gone or if the node shows another cause
  than the session's own. Otherwise an attempt is started.
* An attempt that has not ended is left alone.
* When an attempt has ended and a channel is present, the node is online, whatever the cause.
* When it has ended without a channel and the launch failed, the failure is counted. The session
  waits again while the budget lasts, and is given up when it is used up.
* When it has ended without a channel for any other cause, the session is given up.

The machine never has a choice (`Reboot.Machine.Step.outcome_eq`). What a node shows of where it
stands is `Reboot.Machine.phase`.
-/

namespace BuildAgent.Reboot

/-- Where the machine stands. -/
inductive Machine where
  | noSession
  | awaitingReboot (failures : Nat)
  | attemptInFlight (failures attempt : Nat)
  deriving DecidableEq, Repr

/-- What the machine sees at one look. -/
structure Sight where
  /-- Whether the instance is there and is not terminated. -/
  alive : Bool
  attemptEnded : Bool
  channelPresent : Bool
  cause : Option OfflineCause

/-- Where the record of the sessions has the machine stand. -/
def Session.machine (session : Session) : Machine :=
  if session.active then
    match session.attempt with
    | none => .awaitingReboot session.launchFailures
    | some attempt => .attemptInFlight session.launchFailures attempt
  else .noSession

/-- What can be seen of the machine from outside. -/
def Machine.phase : Machine → Phase
  | noSession => .noSession
  | awaitingReboot _ => .awaitingReboot
  | attemptInFlight _ _ => .attemptInFlight

/-- The phase that a node shows is that of the machine. -/
theorem Session.phase_machine (session : Session) : session.machine.phase = session.phase := by
  rcases session with ⟨generation, active, attempt, failures⟩
  cases active <;> cases attempt <;> rfl

@[simp]
theorem Session.machine_close (session : Session) : session.close.machine = .noSession := rfl

namespace Machine

/-- What the machine does at a look of a session, and where it stands then. -/
inductive Step (policy : Policy) (session : Nat) (sight : Sight) :
    Machine → LookOutcome → Machine → Prop where
  | gone {failures : Nat} (dead : sight.alive = false) :
      Step policy session sight (awaitingReboot failures) (.abandoned .instanceGone) noSession
  | ousted {failures : Nat} (alive : sight.alive = true)
      (other : sight.cause ≠ some (.reboot session)) :
      Step policy session sight (awaitingReboot failures) (.abandoned .noLongerRebooting) noSession
  | started {failures : Nat} (attempt : Nat) (alive : sight.alive = true)
      (own : sight.cause = some (.reboot session)) :
      Step policy session sight (awaitingReboot failures) .attemptStarted
        (attemptInFlight failures attempt)
  | pending {failures attempt : Nat} (underWay : sight.attemptEnded = false) :
      Step policy session sight (attemptInFlight failures attempt) .pending
        (attemptInFlight failures attempt)
  | online {failures attempt : Nat} (ended : sight.attemptEnded = true)
      (present : sight.channelPresent = true) :
      Step policy session sight (attemptInFlight failures attempt) .online noSession
  | retried {failures attempt : Nat} {reason : String} (ended : sight.attemptEnded = true)
      (absent : sight.channelPresent = false) (failed : sight.cause = some (.launchFailed reason))
      (left : ∀ limit, policy.maxLaunchFailures = some limit → countFailure failures < limit) :
      Step policy session sight (attemptInFlight failures attempt) .retryScheduled
        (awaitingReboot (countFailure failures))
  | exhausted {failures attempt limit : Nat} {reason : String} (ended : sight.attemptEnded = true)
      (absent : sight.channelPresent = false) (failed : sight.cause = some (.launchFailed reason))
      (limited : policy.maxLaunchFailures = some limit) (reached : limit ≤ countFailure failures) :
      Step policy session sight (attemptInFlight failures attempt)
        (.abandoned (.launchBudgetExhausted (countFailure failures))) noSession
  | refused {failures attempt : Nat} (ended : sight.attemptEnded = true)
      (absent : sight.channelPresent = false)
      (other : ∀ reason, sight.cause ≠ some (.launchFailed reason)) :
      Step policy session sight (attemptInFlight failures attempt)
        (.abandoned (.nonRetryable sight.cause)) noSession

variable {policy : Policy} {session : Nat} {sight : Sight} {before after : Machine}
  {outcome : LookOutcome}

namespace Step

theorem outcome_of_waiting {failures : Nat}
    (step : Step policy session sight (awaitingReboot failures) outcome after) :
    outcome = if sight.alive then
        if sight.cause = some (.reboot session) then .attemptStarted
        else .abandoned .noLongerRebooting
      else .abandoned .instanceGone := by
  cases step with
  | gone dead => simp [dead]
  | ousted alive other => simp [alive, other]
  | started attempt alive own => simp [alive, own]

theorem outcome_of_present {failures attempt : Nat} (ended : sight.attemptEnded = true)
    (step : Step policy session sight (attemptInFlight failures attempt) outcome after) :
    outcome = .online ↔ sight.channelPresent = true := by
  cases step <;> simp_all

/-- After a failed launch the budget decides. -/
theorem outcome_of_failed {failures attempt : Nat} {reason : String}
    (ended : sight.attemptEnded = true) (absent : sight.channelPresent = false)
    (failed : sight.cause = some (.launchFailed reason))
    (step : Step policy session sight (attemptInFlight failures attempt) outcome after) :
    outcome = if ∃ limit, policy.maxLaunchFailures = some limit ∧ limit ≤ countFailure failures then
        .abandoned (.launchBudgetExhausted (countFailure failures))
      else .retryScheduled := by
  cases step with
  | pending underWay =>
      rw [ended] at underWay
      cases underWay
  | online ended present =>
      rw [absent] at present
      cases present
  | retried ended absent failed left =>
      rw [if_neg]
      rintro ⟨limit, limited, reached⟩
      exact Nat.not_le.mpr (left limit limited) reached
  | exhausted ended absent failed limited reached => rw [if_pos ⟨_, limited, reached⟩]
  | refused ended absent other => exact absurd failed (other reason)

/-- What the machine does is settled by what it sees. -/
theorem outcome_eq {other : LookOutcome} {last : Machine}
    (step : Step policy session sight before outcome after)
    (again : Step policy session sight before other last) : other = outcome := by
  cases step with
  | gone dead => rw [again.outcome_of_waiting, dead]; rfl
  | ousted alive other => rw [again.outcome_of_waiting, if_pos alive, if_neg other]
  | started attempt alive own => rw [again.outcome_of_waiting, if_pos alive, if_pos own]
  | pending underWay => cases again <;> simp_all
  | online ended present => exact (outcome_of_present ended again).mpr present
  | retried ended absent failed left =>
      rw [again.outcome_of_failed ended absent failed, if_neg]
      rintro ⟨limit, limited, reached⟩
      exact Nat.not_le.mpr (left limit limited) reached
  | exhausted ended absent failed limited reached =>
      rw [again.outcome_of_failed ended absent failed, if_pos ⟨_, limited, reached⟩]
  | refused ended absent other => cases again <;> simp_all

end Step

end Machine

/-! ## The policy -/

namespace Policy

variable {policy : Policy} {failures : Nat} {reason : String} {cause : Option OfflineCause}

/-- A budget is used up when the failures reach its limit. -/
theorem isExhausted_iff : policy.isExhausted failures = true ↔
    ∃ limit, policy.maxLaunchFailures = some limit ∧ limit ≤ failures := by
  rcases limited : policy.maxLaunchFailures with _ | limit <;> simp [isExhausted, limited]

theorem isExhausted_eq_false_iff : policy.isExhausted failures = false ↔
    ∀ limit, policy.maxLaunchFailures = some limit → failures < limit := by
  rcases limited : policy.maxLaunchFailures with _ | limit <;> simp [isExhausted, limited]

theorem decide_of_spare (spare : policy.isExhausted (countFailure failures) = false) :
    policy.decide (.attemptFinished false (some (.launchFailed reason))) failures =
      .retryLaunch policy.initialDelay := by
  simp [decide, OfflineCause.retryClass, spare]

theorem decide_of_spent (spent : policy.isExhausted (countFailure failures) = true) :
    policy.decide (.attemptFinished false (some (.launchFailed reason))) failures =
      .abandon (.launchBudgetExhausted (countFailure failures)) := by
  simp [decide, OfflineCause.retryClass, spent]

/-- Any cause but a failed launch ends the session. -/
theorem decide_of_other (other : ∀ reason, cause ≠ some (.launchFailed reason)) :
    policy.decide (.attemptFinished false cause) failures = .abandon (.nonRetryable cause) := by
  rcases cause with _ | cause
  · rfl
  · cases cause with
    | launchFailed reason => exact absurd rfl (other reason)
    | _ => rfl

end Policy

end BuildAgent.Reboot
