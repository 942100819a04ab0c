/-!
# Offline causes

A node that cannot be reached has a cause that says why. The cause decides how the reboot monitor
goes on: a cause of its own session is waited out, a failed launch is tried again after a pause, and
every other cause ends the session.
-/

namespace BuildAgent

/-- Why a node is unreachable. -/
inductive OfflineCause where
  | reboot (session : Nat)
  | launchFailed (reason : String)
  | userRequested (reason : String)
  | channelTerminated (reason : String)
  | other (reason : String)
  deriving DecidableEq, Repr

/-- How the reboot monitor treats a cause. -/
inductive RetryClass where
  | retryable
  | retryWithBackoff
  | nonRetryable
  deriving DecidableEq, Repr

namespace OfflineCause

/-- Whether the cause was set by the reboot session with a number. -/
def isRebootFor (cause : OfflineCause) (session : Nat) : Bool :=
  match cause with
  | reboot own => own = session
  | _ => false

/-- Whether the cause is a failed launch of the agent. -/
def isLaunchFailure : OfflineCause → Bool
  | launchFailed _ => true
  | _ => false

def retryClass : OfflineCause → RetryClass
  | reboot _ => .retryable
  | launchFailed _ => .retryWithBackoff
  | _ => .nonRetryable

def message : OfflineCause → String
  | reboot _ => "Rebooting after build"
  | launchFailed reason => "Launch failed: " ++ reason
  | userRequested reason => "Disconnected by user: " ++ reason
  | channelTerminated reason => "Connection was broken: " ++ reason
  | other reason => reason

end OfflineCause

end BuildAgent
