import BuildAgent.Document.Json.Printer
import BuildAgent.Document.Json.Reader
import BuildAgent.Identifier
import BuildAgent.Provider.Tag
import BuildAgent.Time.Reader

/-!
# Instances

What the provider reports about an instance: a `Snapshot` is its view at one moment and is never
changed afterwards, only replaced. `Snapshot.diagnostic` is the one-line JSON rendering that failure
messages carry, and `Snapshot.ofDatum?` reads a snapshot back from a document.
-/

namespace BuildAgent

/-- The status of an instance. -/
inductive InstanceState where
  | pending
  | running
  | shuttingDown
  | stopping
  | stopped
  | terminated
  deriving DecidableEq, Repr

namespace InstanceState

def all : List InstanceState :=
  [pending, running, shuttingDown, stopping, stopped, terminated]

def name : InstanceState → String
  | pending => "pending"
  | running => "running"
  | shuttingDown => "shutting-down"
  | stopping => "stopping"
  | stopped => "stopped"
  | terminated => "terminated"

def ofName? (name : String) : Option InstanceState :=
  all.find? fun state => state.name = name

/-- The status that a document holds: its name, or a record that gives that name no value. -/
def ofDatum? : Datum → Option InstanceState
  | .text name => ofName? name
  | .record [(name, .absent)] => ofName? name
  | _ => none

end InstanceState

/-- The provider's view of one instance at one moment. -/
structure Snapshot where
  instanceId : InstanceId
  state : InstanceState
  publicDns : Option String
  privateAddress : Option String
  launchTime : Time.Timestamp
  tags : TagMap
  deriving DecidableEq

namespace Snapshot

/-- An instance that runs, launched at a given time, with no addresses and no tags. -/
def running (instanceId : InstanceId) (launchTime : Time.Timestamp) : Snapshot where
  instanceId
  state := .running
  publicDns := none
  privateAddress := none
  launchTime
  tags := .empty

def isAlive (snapshot : Snapshot) : Bool :=
  snapshot.state ≠ .terminated

def toDatum (snapshot : Snapshot) : Datum :=
  .record [
    ("instance_id", snapshot.instanceId.toDatum),
    ("state", .text snapshot.state.name),
    ("public_dns", .ofOption .text snapshot.publicDns),
    ("private_ip", .ofOption .text snapshot.privateAddress),
    ("launch_time", .text snapshot.launchTime.print),
    ("tags", snapshot.tags.toDatum)]

def ofDatum? (datum : Datum) : Option Snapshot := do
  let fields ← datum.fields?
    ["instance_id", "state", "public_dns", "private_ip", "launch_time", "tags"] 5
  let instanceId ← Datum.required? fields "instance_id" (Identifier.ofDatum? .machine)
  let state ← Datum.required? fields "state" InstanceState.ofDatum?
  let publicDns ← Datum.optionalField? fields "public_dns" Datum.text?
  let privateAddress ← Datum.optionalField? fields "private_ip" Datum.text?
  let launchTime ← Datum.required? fields "launch_time" fun datum => datum.text?.bind Time.read?
  let tags ← Datum.defaultedField? fields "tags" TagMap.ofDatum? .empty
  return { instanceId, state, publicDns, privateAddress, launchTime, tags }

def diagnostic (snapshot : Snapshot) : String :=
  Json.print snapshot.toDatum

def read? (text : String) : Option Snapshot :=
  (Json.read text).bind ofDatum?

end Snapshot

end BuildAgent
