/-!
# Provider calls and their failures

The node talks to the provider through six calls. A call fails in one of three ways: it did not
get through, the provider asked to slow down, or the provider refused it. The first two are worth
another attempt later, a refusal is not.
-/

namespace BuildAgent.Provider

/-- The calls that the provider answers. -/
inductive Operation where
  | describe
  | reboot
  | stop
  | terminate
  | createTags
  | deleteTags
  deriving DecidableEq, Repr

namespace Operation

def all : List Operation :=
  [describe, reboot, stop, terminate, createTags, deleteTags]

def name : Operation → String
  | describe => "describe_instances"
  | reboot => "reboot_instances"
  | stop => "stop_instances"
  | terminate => "terminate_instances"
  | createTags => "create_tags"
  | deleteTags => "delete_tags"

end Operation

/-- Why a call failed. -/
inductive Failure where
  | communication (operation : Operation) (reason : String)
  | throttled (operation : Operation)
  | rejected (operation : Operation) (reason : String)
  deriving DecidableEq, Repr

namespace Failure

def operation : Failure → Operation
  | communication operation _ => operation
  | throttled operation => operation
  | rejected operation _ => operation

def isRetryable : Failure → Bool
  | communication .. => true
  | throttled _ => true
  | rejected .. => false

def message : Failure → String
  | communication operation reason =>
    operation.name ++ ": provider communication failed: " ++ reason
  | throttled operation => operation.name ++ ": request throttled"
  | rejected operation reason => operation.name ++ ": request rejected: " ++ reason

end Failure

end BuildAgent.Provider
