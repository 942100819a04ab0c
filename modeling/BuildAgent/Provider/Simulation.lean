import BuildAgent.Journal.Event

/-!
# The simulated provider

A provider that keeps its instances in memory. It records every call, whether the call succeeds or
not, and keeps the last `callLogCapacity` of them. Failures can be queued for an operation: a call
takes the oldest failure that waits for its own operation and fails with it, before it looks at the
instances. A call that fails leaves the instances as they were.

An instance is stored under the identifier in its own snapshot, so the two cannot disagree.
-/

namespace BuildAgent

namespace Provider

/-- A call as it was made. -/
structure Call where
  operation : Operation
  instanceIds : List InstanceId
  tags : List Tag
  deriving DecidableEq

def callLogCapacity : Nat := 1024

/-- A failure that waits for the next call of an operation. What the failure says of itself may be
another operation. -/
structure Injection where
  operation : Operation
  failure : Failure
  deriving DecidableEq

end Provider

/-- A provider with its instances, its record of calls and the failures that wait. -/
structure Provider where
  instances : List Snapshot := []
  calls : List Provider.Call := []
  failures : List Provider.Injection := []
  deriving DecidableEq

namespace Provider

/-- The answer to a call, the provider after it, and the event that it leaves in the journal. -/
structure Reply (α : Type) where
  answer : Except Failure α
  provider : Provider
  event : Option Journal.Event

def find? (provider : Provider) (instanceId : InstanceId) : Option Snapshot :=
  provider.instances.find? fun snapshot => snapshot.instanceId = instanceId

def remove (provider : Provider) (instanceId : InstanceId) : Provider :=
  { provider with
    instances := provider.instances.filter fun snapshot => snapshot.instanceId ≠ instanceId }

/-- Adds an instance, in place of the one with the same identifier. -/
def insert (provider : Provider) (snapshot : Snapshot) : Provider :=
  { provider with instances := snapshot :: (provider.remove snapshot.instanceId).instances }

def ofInstances (snapshots : List Snapshot) : Provider :=
  snapshots.foldl insert {}

/-- Changes what the provider knows about one instance; the identifier stays. -/
def update (provider : Provider) (instanceId : InstanceId) (change : Snapshot → Snapshot) :
    Provider :=
  { provider with
    instances := provider.instances.map fun snapshot =>
      if snapshot.instanceId = instanceId then
        { change snapshot with instanceId := snapshot.instanceId }
      else snapshot }

def setState (provider : Provider) (instanceId : InstanceId) (state : InstanceState) : Provider :=
  provider.update instanceId fun snapshot => { snapshot with state }

/-- The tags of an instance; none if it is unknown. -/
def tagsOf (provider : Provider) (instanceId : InstanceId) : TagMap :=
  ((provider.find? instanceId).map Snapshot.tags).getD .empty

/-- Lets the next call of an operation fail, after the failures that wait for it already. -/
def failNext (provider : Provider) (operation : Operation) (failure : Failure) : Provider :=
  { provider with failures := provider.failures ++ [⟨operation, failure⟩] }

def callCount (provider : Provider) (operation : Operation) : Nat :=
  provider.calls.countP fun call => call.operation = operation

/-- The calls with one more, and without the oldest if there were too many. -/
def keepCall (call : Call) (calls : List Call) : List Call :=
  (if calls.length = callLogCapacity then calls.tail else calls) ++ [call]

/-- The oldest failure that waits for an operation. -/
def waitingFailure? (provider : Provider) (operation : Operation) : Option Failure :=
  (provider.failures.find? fun waiting => waiting.operation = operation).map Injection.failure

/-- Records a call and takes the failure that waits for it. -/
def record (provider : Provider) (call : Call) : Provider :=
  { provider with
    calls := keepCall call provider.calls
    failures := provider.failures.eraseP fun waiting => waiting.operation = call.operation }

/-- Makes a call: it fails with the failure that waits for it, or else is carried out. -/
def perform {α : Type} (provider : Provider) (call : Call) (carryOut : Provider → Reply α) :
    Reply α :=
  match provider.waitingFailure? call.operation with
  | some failure =>
    ⟨.error failure, provider.record call, some (.injectedFailure call.operation failure)⟩
  | none => carryOut (provider.record call)

/-- The refusal of a call that names an unknown instance. -/
def unknownInstance (operation : Operation) (instanceId : InstanceId) : Failure :=
  .rejected operation ("InvalidInstanceID.NotFound: " ++ instanceId.text)

/-- Describes instances in the order asked for. Unknown ones are left out. -/
def describe (provider : Provider) (instanceIds : List InstanceId) : Reply (List Snapshot) :=
  provider.perform ⟨.describe, instanceIds, []⟩ fun provider =>
    ⟨.ok (instanceIds.filterMap provider.find?), provider, none⟩

/-- The status that a command brings an instance to, if it changes the status. -/
def stateAfter : Operation → Option InstanceState
  | .stop => some .stopped
  | .terminate => some .terminated
  | _ => none

def command (provider : Provider) (operation : Operation) (instanceId : InstanceId) :
    Reply Unit :=
  provider.perform ⟨operation, [instanceId], []⟩ fun provider =>
    match provider.find? instanceId with
    | none => ⟨.error (unknownInstance operation instanceId), provider, none⟩
    | some snapshot =>
      let state := (stateAfter operation).getD snapshot.state
      ⟨.ok (), provider.setState instanceId state,
        some (.commandApplied instanceId operation state)⟩

def operationOf : TagChange → Operation
  | .clear => .deleteTags
  | .push => .createTags

/-- The tags after a change. A tag is removed only while its value is the one given. -/
def changed (change : TagChange) (batch : List Tag) (tags : TagMap) : TagMap :=
  match change with
  | .clear => tags.eraseAll batch
  | .push => tags.insertAll batch

def changeTags (provider : Provider) (change : TagChange) (instanceId : InstanceId)
    (batch : List Tag) : Reply Unit :=
  provider.perform ⟨operationOf change, [instanceId], batch⟩ fun provider =>
    match provider.find? instanceId with
    | none => ⟨.error (unknownInstance (operationOf change) instanceId), provider, none⟩
    | some _ =>
      let apply (snapshot : Snapshot) : Snapshot :=
        { snapshot with tags := changed change batch snapshot.tags }
      ⟨.ok (), provider.update instanceId apply, none⟩

end Provider

end BuildAgent
