import BuildAgent.Link.OfflineCause
import BuildAgent.Text.Decimal

/-!
# The reconnect policy

After a reboot the monitor looks at the node again and again until the agent is back. At each look
it makes one `Observation`, and the policy turns it into a `Decision`: start an attempt to
reconnect, look again later, try again after a failed launch, finish, or give the node up. The
policy is plain data and the decision a function, so the rules can be studied without a node.
Durations are in milliseconds.
-/

namespace BuildAgent.Reboot

/-- The delays and the limit of the monitor. -/
structure Policy where
  /-- The wait after a reboot was issued, and after each failed launch. -/
  initialDelay : Nat := 30000
  /-- The wait between two looks at an attempt that is under way. -/
  pendingRecheck : Nat := 5000
  /-- The failed launches after which the node is given up; without a number it never is. -/
  maxLaunchFailures : Option Nat := none
  deriving DecidableEq, Repr

/-- What the monitor sees at one look. -/
inductive Observation where
  /-- No attempt is under way. -/
  | idle (alive stillRebooting : Bool)
  /-- An attempt is under way. -/
  | attemptPending
  /-- The attempt has ended. -/
  | attemptFinished (channelPresent : Bool) (cause : Option OfflineCause)
  deriving DecidableEq, Repr

/-- Why a session ended before the node came back. -/
inductive AbandonReason where
  | instanceGone
  | noLongerRebooting
  | nonRetryable (cause : Option OfflineCause)
  | launchBudgetExhausted (failures : Nat)
  | endpointGone
  | nodeRetired
  deriving DecidableEq, Repr

/-- What the monitor does next. -/
inductive Decision where
  | startAttempt (recheckAfter : Nat)
  | recheck (after : Nat)
  | online
  | retryLaunch (after : Nat)
  | abandon (reason : AbandonReason)
  deriving DecidableEq, Repr

namespace AbandonReason

/-- Whether the ending needs somebody to look at the node. -/
def isFailure : AbandonReason → Bool
  | instanceGone => true
  | nonRetryable _ => true
  | launchBudgetExhausted _ => true
  | _ => false

def message : AbandonReason → String
  | instanceGone => "instance terminated or unreachable"
  | noLongerRebooting => "offline cause changed since reboot"
  | nonRetryable (some cause) => "reconnect failed: " ++ cause.message
  | nonRetryable none => "reconnect failed without a cause"
  | launchBudgetExhausted failures =>
    "agent launch failed " ++ toString failures ++ " times"
  | endpointGone => "compute endpoint removed"
  | nodeRetired => "node retired"

end AbandonReason

/-- One more failure. The count stays at the largest number of 32 bits. -/
def countFailure (failures : Nat) : Nat :=
  min (failures + 1) Text.Decimal.largest32

/-- Whether a number of failures uses the policy's limit up. -/
def Policy.isExhausted (policy : Policy) (failures : Nat) : Bool :=
  match policy.maxLaunchFailures with
  | some limit => limit ≤ failures
  | none => false

/-- The next step, given the failed launches of the session before this look. -/
def Policy.decide (policy : Policy) (observation : Observation) (launchFailures : Nat) :
    Decision :=
  match observation with
  | .idle false _ => .abandon .instanceGone
  | .idle true false => .abandon .noLongerRebooting
  | .idle true true => .startAttempt policy.pendingRecheck
  | .attemptPending => .recheck policy.pendingRecheck
  | .attemptFinished true _ => .online
  | .attemptFinished false cause =>
    match cause.map OfflineCause.retryClass with
    | some .retryWithBackoff =>
      if policy.isExhausted (countFailure launchFailures) then
        .abandon (.launchBudgetExhausted (countFailure launchFailures))
      else .retryLaunch policy.initialDelay
    | _ => .abandon (.nonRetryable cause)

end BuildAgent.Reboot
