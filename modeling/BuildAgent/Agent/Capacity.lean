import BuildAgent.Identifier

/-!
# Capacity models

A node runs on capacity that the provider sells in two ways. An on-demand instance is launched
directly. A spot instance fulfils a request, and until the request is fulfilled the instance is
unknown. Either way a node is bound to at most one instance at a time; `bind` replaces it, and the
capacity model itself never changes.
-/

namespace BuildAgent

/-- How the instance behind a node is obtained, and which one it is. -/
inductive Capacity where
  | onDemand (bound : Option InstanceId)
  | spot (request : SpotRequestId) (bound : Option InstanceId)
  deriving DecidableEq

namespace Capacity

def bound? : Capacity → Option InstanceId
  | onDemand bound => bound
  | spot _ bound => bound

def bind (capacity : Capacity) (instanceId : InstanceId) : Capacity :=
  match capacity with
  | onDemand _ => onDemand (some instanceId)
  | spot request _ => spot request (some instanceId)

def label : Capacity → String
  | onDemand _ => "On Demand"
  | spot .. => "Spot"

/-- The capacity that a document holds. Its fields may also be given by position, after the name of
the model. -/
def ofDatum? (datum : Datum) : Option Capacity := do
  let (model, content) ← match datum with
    | .record fields => do
      let model ← Datum.required? fields "type" Datum.text?
      pure (model, datum)
    | .list (first :: rest) => do
      let model ← first.text?
      pure (model, Datum.list rest)
    | _ => none
  match model with
  | "on_demand" =>
    let fields ← content.fields? ["instance_id"] 0
    let bound ← Datum.optionalField? fields "instance_id" (Identifier.ofDatum? .machine)
    return onDemand bound
  | "spot" =>
    let fields ← content.fields? ["spot_request_id", "instance_id"] 1
    let request ← Datum.required? fields "spot_request_id" (Identifier.ofDatum? .spotRequest)
    let bound ← Datum.optionalField? fields "instance_id" (Identifier.ofDatum? .machine)
    return spot request bound
  | _ => none

def toDatum : Capacity → Datum
  | onDemand bound =>
    .record [("type", .text "on_demand"), ("instance_id", .ofOption Identifier.toDatum bound)]
  | spot request bound =>
    .record [("type", .text "spot"), ("spot_request_id", request.toDatum),
      ("instance_id", .ofOption Identifier.toDatum bound)]

@[simp]
theorem bound?_bind (capacity : Capacity) (instanceId : InstanceId) :
    (capacity.bind instanceId).bound? = some instanceId := by
  cases capacity <;> rfl

@[simp]
theorem label_bind (capacity : Capacity) (instanceId : InstanceId) :
    (capacity.bind instanceId).label = capacity.label := by
  cases capacity <;> rfl

end Capacity

end BuildAgent
