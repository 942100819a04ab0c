import BuildAgent.Node.Cache
import BuildAgent.Node.Connection

/-!
# Stopping and terminating the instance

Both disconnect first and then send the command, once. A stop that the provider accepted tears the
channel down again; one that it refused is noted with what the provider says about the instance. The
result is whether the provider accepted the command.
-/

namespace BuildAgent

/-- Where a stop stands. -/
inductive StopPoint where
  | entering
  | disconnecting (point : DisconnectPoint)
  | binding
  | commanding (instanceId : InstanceId)
  | tearing (point : DisconnectPoint)
  | diagnosing (instanceId : InstanceId) (failure : Provider.Failure) (point : LookupPoint)
  deriving DecidableEq

namespace StopPoint

def resume : StopPoint → World → Stage StopPoint Bool
  | entering, world =>
    (DisconnectPoint.enter none world).andThen .disconnecting fun () world =>
      .pause .binding world
  | disconnecting point, world =>
    (point.resume world).andThen .disconnecting fun () world => .pause .binding world
  | binding, world =>
    match world.node.capacity.bound? with
    | some instanceId => .pause (.commanding instanceId) world
    | none => .done false (world.note .stopNotSent)
  | commanding instanceId, world =>
    match world.ask fun provider => provider.command .stop instanceId with
    | (.ok (), world) =>
      (DisconnectPoint.enterTeardown none (world.note (.stopSent instanceId))).andThen .tearing
        fun () world => .done true world
    | (.error failure, world) => .pause (.diagnosing instanceId failure .waiting) world
  | tearing point, world =>
    (point.resume world).andThen .tearing fun () world => .done true world
  | diagnosing instanceId failure point, world =>
    (point.resume world).andThen (.diagnosing instanceId failure) fun found world =>
      .done false (world.note (.stopFailed instanceId failure (diagnosticOf found)))

end StopPoint

/-- Where a termination stands. -/
inductive TerminatePoint where
  | entering
  | disconnecting (point : DisconnectPoint)
  | binding
  | commanding (instanceId : InstanceId)
  deriving DecidableEq

namespace TerminatePoint

def resume : TerminatePoint → World → Stage TerminatePoint Bool
  | entering, world =>
    (DisconnectPoint.enter none world).andThen .disconnecting fun () world =>
      .pause .binding world
  | disconnecting point, world =>
    (point.resume world).andThen .disconnecting fun () world => .pause .binding world
  | binding, world =>
    match world.node.capacity.bound? with
    | some instanceId => .pause (.commanding instanceId) world
    | none => .done false (world.note .terminateNotSent)
  | commanding instanceId, world =>
    match world.ask fun provider => provider.command .terminate instanceId with
    | (.ok (), world) => .done true (world.note (.terminateSent instanceId))
    | (.error failure, world) =>
      .done false (world.note (.terminateFailed instanceId failure))

end TerminatePoint

end BuildAgent
