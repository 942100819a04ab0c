import BuildAgent.Agent.Capacity
import BuildAgent.Document.Toml.Reader
import BuildAgent.Provider.Tag
import BuildAgent.Text.Decimal

/-!
# Agent definitions

A definition is the configuration of one build agent node: how its instance is obtained and reached,
how it is sized, which tags it carries and what happens when it goes idle. Only the name is
required. Definitions are written in TOML; `ofDatum?` reads one from any document and `toDatum`
writes it.

Older definitions used the instance's identifier as the name, so an on-demand node that names no
instance is bound to the one that its name spells (`Definition.initialCapacity`).
-/

namespace BuildAgent

/-- The minutes after which an idle node is shut down, as the user wrote them. -/
inductive IdleMinutes where
  | minutes (count : Int64)
  | text (written : String)
  deriving DecidableEq

namespace IdleMinutes

def count? : IdleMinutes → Option Int
  | minutes count => some count.toInt
  | text written =>
    (Text.Decimal.readInteger Text.Decimal.largestSigned64 (Text.trim written.toList)).toOption

def positive? (idle : IdleMinutes) : Option Nat :=
  idle.count?.bind fun count => if 0 < count then some count.toNat else none

def ofDatum? : Datum → Option IdleMinutes
  | .integer value =>
    if Int64.minValue.toInt ≤ value ∧ value ≤ Int64.maxValue.toInt then
      some (minutes (Int64.ofInt value))
    else none
  | .text value => some (text value)
  | _ => none

def toDatum : IdleMinutes → Datum
  | minutes count => .integer count.toInt
  | text written => .text written

end IdleMinutes

/-- The configuration of one node. -/
structure Definition where
  name : String
  capacity : Option Capacity := none
  description : String := ""
  remoteRoot : Option String := none
  executorCount : Option UInt32 := none
  instanceType : Option String := none
  labels : List String := []
  initScript : Option String := none
  temporaryDirectory : Option String := none
  remoteAdmin : Option String := none
  jvmOptions : Option String := none
  stopOnTerminate : Bool := false
  rebootAfterBuild : Bool := false
  longLivedAgent : Bool := false
  idleMinutes : Option IdleMinutes := none
  usePrivateAddress : Bool := false
  useDedicatedTenancy : Bool := false
  launchTimeoutSeconds : Option UInt64 := none
  tags : List Tag := []
  deriving DecidableEq

namespace Definition

/-- The least definition of a node on a given on-demand instance. -/
def onDemand (name : String) (instanceId : InstanceId) : Definition where
  name
  capacity := some (.onDemand (some instanceId))

def initialCapacity (definition : Definition) : Capacity :=
  match definition.capacity.getD (.onDemand none) with
  | .onDemand none => .onDemand (Identifier.parse? .machine definition.name)
  | capacity => capacity

/-- The seconds that a launch may take, if they are limited. -/
def launchTimeout? (definition : Definition) : Option Nat :=
  (definition.launchTimeoutSeconds.map UInt64.toNat).filter (0 < ·)

/-- The seconds after which an idle node is shut down, if it ever is. -/
def idleTermination? (definition : Definition) : Option Nat :=
  (definition.idleMinutes.bind IdleMinutes.positive?).map fun minutes =>
    min (minutes * 60) Text.Decimal.largest64

def administrator (definition : Definition) : String :=
  match definition.remoteAdmin with
  | some account => if Text.trim account.toList = [] then "root" else account
  | none => "root"

def options (definition : Definition) : String :=
  definition.jvmOptions.getD ""

/-- The executor counts that suit the instance types of the provider. -/
def executorTable : List (String × Nat) :=
  [("t1.micro", 1), ("m1.small", 1), ("m1.medium", 2), ("m1.large", 4), ("c1.medium", 5),
    ("m2.xlarge", 6), ("c3.large", 7), ("m1.xlarge", 8), ("m2.2xlarge", 13), ("m3.xlarge", 13),
    ("c3.xlarge", 14), ("c1.xlarge", 20), ("m2.4xlarge", 26), ("m3.2xlarge", 26),
    ("g2.2xlarge", 26), ("c3.2xlarge", 28), ("cc1.4xlarge", 33), ("cg1.4xlarge", 33),
    ("hi1.4xlarge", 35), ("hs1.8xlarge", 35), ("c3.4xlarge", 55), ("cc2.8xlarge", 88),
    ("cr1.8xlarge", 88), ("c3.8xlarge", 108)]

/-- The executor count that suits an instance type; one where the type is not known. -/
def suggestedExecutors (instanceType : String) : Nat :=
  (executorTable.lookup instanceType).getD 1

def executors (definition : Definition) : Nat :=
  match (definition.executorCount.map UInt32.toNat).filter (0 < ·) with
  | some count => count
  | none => suggestedExecutors (definition.instanceType.getD "")

/-- The names of the fields, in the order in which a list gives them. -/
def fieldNames : List String :=
  ["name", "kind", "description", "remote_fs", "num_executors", "instance_type", "labels",
    "init_script", "tmp_dir", "remote_admin", "jvm_opts", "stop_on_terminate",
    "reboot_after_build", "long_lived_agent", "idle_termination_minutes", "use_private_dns_name",
    "use_dedicated_tenancy", "launch_timeout_secs", "tags"]

def ofDatum? (datum : Datum) : Option Definition := do
  let fields ← datum.fields? fieldNames 1
  let text (name : String) := Datum.optionalField? fields name Datum.text?
  let flag (name : String) := Datum.defaultedField? fields name Datum.truth? false
  let number (name : String) (bound : Nat) :=
    Datum.optionalField? fields name (Datum.natural? bound)
  return {
    name := ← Datum.required? fields "name" Datum.text?
    capacity := ← Datum.optionalField? fields "kind" Capacity.ofDatum?
    description := ← Datum.defaultedField? fields "description" Datum.text? ""
    remoteRoot := ← text "remote_fs"
    executorCount := (← number "num_executors" Text.Decimal.largest32).map UInt32.ofNat
    instanceType := ← text "instance_type"
    labels := ← Datum.defaultedField? fields "labels" (Datum.list? Datum.text?) []
    initScript := ← text "init_script"
    temporaryDirectory := ← text "tmp_dir"
    remoteAdmin := ← text "remote_admin"
    jvmOptions := ← text "jvm_opts"
    stopOnTerminate := ← flag "stop_on_terminate"
    rebootAfterBuild := ← flag "reboot_after_build"
    longLivedAgent := ← flag "long_lived_agent"
    idleMinutes :=
      ← Datum.optionalField? fields "idle_termination_minutes" IdleMinutes.ofDatum?
    usePrivateAddress := ← flag "use_private_dns_name"
    useDedicatedTenancy := ← flag "use_dedicated_tenancy"
    launchTimeoutSeconds :=
      (← number "launch_timeout_secs" Text.Decimal.largest64).map UInt64.ofNat
    tags := ← Datum.defaultedField? fields "tags" (Datum.list? Tag.ofDatum?) []
  }

def toDatum (definition : Definition) : Datum :=
  .record [
    ("name", .text definition.name),
    ("kind", .ofOption Capacity.toDatum definition.capacity),
    ("description", .text definition.description),
    ("remote_fs", .ofOption .text definition.remoteRoot),
    ("num_executors", .ofOption (fun count => .integer count.toNat) definition.executorCount),
    ("instance_type", .ofOption .text definition.instanceType),
    ("labels", .list (definition.labels.map .text)),
    ("init_script", .ofOption .text definition.initScript),
    ("tmp_dir", .ofOption .text definition.temporaryDirectory),
    ("remote_admin", .ofOption .text definition.remoteAdmin),
    ("jvm_opts", .ofOption .text definition.jvmOptions),
    ("stop_on_terminate", .truth definition.stopOnTerminate),
    ("reboot_after_build", .truth definition.rebootAfterBuild),
    ("long_lived_agent", .truth definition.longLivedAgent),
    ("idle_termination_minutes", .ofOption IdleMinutes.toDatum definition.idleMinutes),
    ("use_private_dns_name", .truth definition.usePrivateAddress),
    ("use_dedicated_tenancy", .truth definition.useDedicatedTenancy),
    ("launch_timeout_secs",
      .ofOption (fun seconds => .integer seconds.toNat) definition.launchTimeoutSeconds),
    ("tags", .list (definition.tags.map Tag.toDatum))]

/-- Why a definition cannot be used. -/
inductive Fault where
  | invalid
  | unreadable (path : String)
  | unparsable (path : String)
  deriving DecidableEq, Repr

def Fault.message : Fault → String
  | .invalid => "Invalid agent definition"
  | .unreadable path => "Failed to read agent definition " ++ path
  | .unparsable path => "Failed to parse agent definition " ++ path

def ofToml (text : String) : Except Fault Definition :=
  match (Toml.read text).bind ofDatum? with
  | some definition => .ok definition
  | none => .error .invalid

/-- Reads the definition file at a path, whose bytes are absent if there is no such file. -/
def load (path : String) (contents : Option ByteArray) : Except Fault Definition :=
  match contents.bind String.fromUTF8? with
  | none => .error (.unreadable path)
  | some text =>
    match ofToml text with
    | .ok definition => .ok definition
    | .error _ => .error (.unparsable path)

end Definition

end BuildAgent
