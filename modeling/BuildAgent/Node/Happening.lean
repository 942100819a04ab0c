import BuildAgent.Node.World

/-!
# What happens to a node from outside

The provider and the endpoint have a life of their own: instances come and go, an operator changes
the reason why a node is offline, somebody connects the endpoint by hand, calls begin to fail or to
take time. A `Happening` is one such change. It takes no step of the node's own procedures.
-/

namespace BuildAgent

/-- A change that the node has no part in. -/
inductive Happening where
  | insertInstance (snapshot : Snapshot)
  | removeInstance (instanceId : InstanceId)
  | setState (instanceId : InstanceId) (state : InstanceState)
  | failNext (operation : Provider.Operation) (failure : Provider.Failure)
  | describe (instanceIds : List InstanceId)
  | command (operation : Provider.Operation) (instanceId : InstanceId)
  | changeTags (change : TagChange) (instanceId : InstanceId) (batch : List Tag)
  | script (script : ConnectScript)
  | failShutdown (fault : Link.Fault)
  | failTeardown (fault : Link.Fault)
  | setCause (cause : Option OfflineCause)
  | mark (offline : Bool) (cause : Option OfflineCause)
  | requestShutdown
  | tearDown (cause : Option OfflineCause)
  | connect (explicit : Bool)
  | delayConnect (delay : Nat)
  | delayTeardown (delay : Nat)

namespace World

def withProvider (world : World) (change : Provider → Provider) : World :=
  { world with provider := change world.provider }

def withEndpoint (world : World) (change : Endpoint → Endpoint) : World :=
  { world with endpoint := change world.endpoint }

def withLatencies (world : World) (change : Latencies → Latencies) : World :=
  { world with latencies := change world.latencies }

/-- Tears the channel down past the node, and says how that ended. -/
def tearDownDirectly (world : World) (cause : Option OfflineCause) : Link.Outcome × World :=
  let (outcome, endpoint) := world.endpoint.teardown cause
  (outcome, { world with endpoint })

end World

def Happening.apply (happening : Happening) (world : World) : World :=
  match happening with
  | .insertInstance snapshot => world.withProvider fun provider => provider.insert snapshot
  | .removeInstance instanceId => world.withProvider fun provider => provider.remove instanceId
  | .setState instanceId state =>
    world.withProvider fun provider => provider.setState instanceId state
  | .failNext operation failure =>
    world.withProvider fun provider => provider.failNext operation failure
  | .describe instanceIds => (world.ask fun provider => provider.describe instanceIds).2
  | .command operation instanceId =>
    (world.ask fun provider => provider.command operation instanceId).2
  | .changeTags change instanceId batch =>
    (world.ask fun provider => provider.changeTags change instanceId batch).2
  | .script next =>
    world.withEndpoint fun endpoint => { endpoint with scripts := endpoint.scripts ++ [next] }
  | .failShutdown fault =>
    world.withEndpoint fun endpoint => { endpoint with shutdownFault := some fault }
  | .failTeardown fault =>
    world.withEndpoint fun endpoint => { endpoint with teardownFault := some fault }
  | .setCause cause => world.withEndpoint fun endpoint => { endpoint with cause }
  | .mark offline cause => world.withEndpoint fun endpoint => endpoint.mark offline cause
  | .requestShutdown => world.askToExit.2
  | .tearDown cause => (world.tearDownDirectly cause).2
  | .connect explicit => (world.reachEndpoint explicit).2
  | .delayConnect delay =>
    world.withLatencies fun waiting => { waiting with connect := waiting.connect ++ [delay] }
  | .delayTeardown delay =>
    world.withLatencies fun waiting => { waiting with teardown := waiting.teardown ++ [delay] }

end BuildAgent
