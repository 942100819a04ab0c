/-!
# Link faults

How work on the link to an agent can fail. An agent that is shutting down breaks the link off or
has closed it already; these faults are expected.
-/

namespace BuildAgent.Link

/-- Why work on the link failed. -/
inductive Fault where
  | aborted
  | channelClosed
  | io (reason : String)
  | interrupted
  | launchFailed (reason : String)
  | crashed
  deriving DecidableEq, Repr

namespace Fault

/-- Whether the fault is normal while an agent shuts down. -/
def isExpected : Fault → Bool
  | aborted => true
  | channelClosed => true
  | _ => false

def message : Fault → String
  | aborted => "request aborted by remote side"
  | channelClosed => "channel already closed"
  | io reason => "i/o error: " ++ reason
  | interrupted => "interrupted"
  | launchFailed reason => "agent launch failed: " ++ reason
  | crashed => "i/o error: the task ended without a result"

end Fault

abbrev Outcome := Except Fault Unit

end BuildAgent.Link
