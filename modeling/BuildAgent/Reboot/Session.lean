import BuildAgent.Reboot.Policy

/-!
# Reboot sessions

Every reboot opens a session with a number of its own, one more than the number of the session
before. Only the newest session can be live, and it is live until it is closed. A live session may
hold the number of an attempt to reconnect, and it counts the attempts that failed to launch.
-/

namespace BuildAgent.Reboot

/-- What can be seen of a session from outside. -/
inductive Phase where
  | noSession
  | awaitingReboot
  | attemptInFlight
  deriving DecidableEq, Repr

/-- The record of a node's reboot sessions. -/
structure Session where
  generation : Nat := 0
  active : Bool := false
  attempt : Option Nat := none
  launchFailures : Nat := 0
  deriving DecidableEq, Repr

namespace Session

def start (session : Session) : Session where
  generation := session.generation + 1
  active := true
  attempt := none
  launchFailures := 0

def close (session : Session) : Session :=
  { session with active := false, attempt := none }

def isCurrent (session : Session) (generation : Nat) : Bool :=
  session.active && session.generation = generation

def phase (session : Session) : Phase :=
  if session.active then
    if session.attempt.isSome then .attemptInFlight else .awaitingReboot
  else .noSession

def recordFailure (session : Session) : Session :=
  { session with launchFailures := countFailure session.launchFailures }

end Session

end BuildAgent.Reboot
