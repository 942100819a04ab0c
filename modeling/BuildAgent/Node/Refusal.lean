import BuildAgent.Provider.Failure

/-!
# Refusals

Why the node could not do what it was asked to do: a call of the provider failed, the provider no
longer knows the instance, no instance has been assigned yet, or the node has been taken out of
management. Only the last is final.
-/

namespace BuildAgent

/-- Why the node did not do what it was asked to do. -/
inductive Refusal where
  | provider (failure : Provider.Failure)
  | instanceNotFound (instanceId : String)
  | noInstanceId (label : String)
  | retired (node : String)
  deriving DecidableEq, Repr

namespace Refusal

/-- Whether the node has no instance to act on. -/
def isMissingInstance : Refusal → Bool
  | instanceNotFound _ => true
  | noInstanceId _ => true
  | _ => false

def isRetryable : Refusal → Bool
  | provider failure => failure.isRetryable
  | instanceNotFound _ => true
  | noInstanceId _ => true
  | retired _ => false

def message : Refusal → String
  | provider failure => failure.message
  | instanceNotFound instanceId => "instance not found: " ++ instanceId
  | noInstanceId label => "no instance id assigned to node " ++ label
  | retired node => "node " ++ node ++ " has been retired"

end Refusal

end BuildAgent
