import BuildAgent.Node.Stage

/-!
# The node's view of its instance

Much about an instance is beyond the node's control, so the node keeps the provider's last answer
only for a time. A fetch returns the kept snapshot while it is fresh and asks the provider
otherwise; it holds the cache lock until the answer is there. A fetch that fails keeps what
there was and does not count. Without an instance nothing is asked.

A lookup asks the provider directly and leaves the cache alone. It holds no lock while it waits for
the answer.
-/

namespace BuildAgent

namespace Node

/-- Binds the node to an instance. Another instance than before makes the cache void. -/
def bind (node : Node) (instanceId : InstanceId) : Node :=
  if node.capacity.bound? = some instanceId then node
  else { node with capacity := node.capacity.bind instanceId, entry := {} }

end Node

/-- What is asked of a fetched snapshot. -/
inductive Query where
  | snapshot
  | alive
  | publicDns
  | privateAddress
  | launchTime
  | tags
  deriving DecidableEq, Repr

/-- Where a fetch stands. -/
inductive FetchPoint where
  | waiting (force : Bool)
  | describing (force : Bool) (instanceId : InstanceId)
  deriving DecidableEq

namespace FetchPoint

def keep (force : Bool) (instanceId : InstanceId) (found : Option Snapshot) (world : World) :
    World :=
  (world.note (.refreshed instanceId found.isSome force)).withNode fun node =>
    { node with entry := ⟨found, some world.clock⟩ }

def resume : FetchPoint → World → Stage FetchPoint (Option Snapshot)
  | waiting force, world =>
    match world.node.capacity.bound? with
    | none => .done world.node.entry.snapshot (world.note .fetchSkipped)
    | some instanceId =>
      if !force && world.node.entry.isFresh world.clock world.node.timings.freshness then
        .done world.node.entry.snapshot world
      else .pause (.describing force instanceId) world
  | describing force instanceId, world =>
    match world.ask fun provider => provider.describe [instanceId] with
    | (.ok found, world) => .done found.head? (keep force instanceId found.head? world)
    | (.error failure, world) =>
      .done world.node.entry.snapshot (world.note (.fetchFailed instanceId failure))

end FetchPoint

/-- Where a lookup stands. -/
inductive LookupPoint where
  | waiting
  | describing (instanceId : InstanceId)
  deriving DecidableEq

namespace LookupPoint

def resume : LookupPoint → World → Stage LookupPoint (Except Refusal (Option Snapshot))
  | waiting, world =>
    match world.node.capacity.bound? with
    | none => .done (.error (.noInstanceId world.node.capacity.label)) world
    | some instanceId => .pause (.describing instanceId) world
  | describing instanceId, world =>
    match world.ask fun provider => provider.describe [instanceId] with
    | (.ok found, world) => .done (.ok found.head?) world
    | (.error failure, world) => .done (.error (.provider failure)) world

end LookupPoint

/-- What a lookup found, as failure messages carry it; nothing if it found nothing. -/
def diagnosticOf : Except Refusal (Option Snapshot) → String
  | .ok (some snapshot) => snapshot.diagnostic
  | _ => ""

end BuildAgent
