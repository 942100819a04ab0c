import BuildAgent.Reboot.Policy
import BuildAgent.Text.Blank
import BuildAgent.Text.Decimal

/-!
# Settings of the service

The service is set up by environment variables, which `Settings.load` looks up by name. The path of
the agent definition has to be given; everything else has a default. A duration is a whole
number of seconds. It is never replaced by its default when it is malformed: the first variable that
is wrong is the fault.
-/

namespace BuildAgent

/-- The timings of one node, in milliseconds. -/
structure Timings where
  /-- The age up to which a fetched snapshot is used again. -/
  freshness : Nat := 20000
  reboot : Reboot.Policy := {}
  deriving DecidableEq, Repr

/-- The settings of the service. -/
structure Settings where
  definitionPath : String
  cloudName : String
  /-- The seconds between two looks at whether the node is idle; at least one. -/
  idleCheckSeconds : Nat
  timings : Timings
  logLevel : String
  deriving DecidableEq, Repr

namespace Settings

/-- The variables that hold settings. -/
inductive Variable where
  | definition
  | cloud
  | idleCheckInterval
  | freshness
  | rebootInitialDelay
  | rebootRecheck
  | logLevel
  deriving DecidableEq, Repr

def Variable.all : List Variable :=
  [.definition, .cloud, .idleCheckInterval, .freshness, .rebootInitialDelay, .rebootRecheck,
    .logLevel]

def Variable.name : Variable → String
  | .definition => "EC2_AGENT_DEFINITION"
  | .cloud => "EC2_AGENT_CLOUD"
  | .idleCheckInterval => "EC2_AGENT_IDLE_CHECK_INTERVAL_SECS"
  | .freshness => "EC2_AGENT_FRESHNESS_SECS"
  | .rebootInitialDelay => "EC2_AGENT_REBOOT_INITIAL_DELAY_SECS"
  | .rebootRecheck => "EC2_AGENT_REBOOT_RECHECK_SECS"
  | .logLevel => "EC2_AGENT_LOG_LEVEL"

/-- What is wrong with the settings. -/
inductive Fault where
  | missingDefinition
  | malformed (setting : Variable) (fault : Text.Decimal.Fault)
  deriving DecidableEq, Repr

def Fault.message : Fault → String
  | .missingDefinition =>
    "Missing agent definition. Set EC2_AGENT_DEFINITION to a TOML file."
  | .malformed setting _ => setting.name ++ " must be a non-negative integer (seconds)."

/-- The wording of a fault together with what caused it. -/
def Fault.chain (fault : Fault) : String :=
  match fault with
  | .missingDefinition => fault.message
  | .malformed _ cause => fault.message ++ ": " ++ cause.message

def seconds (lookup : String → Option String) (setting : Variable) :
    Except Fault (Option Nat) :=
  match lookup setting.name with
  | none => .ok none
  | some text =>
    match Text.Decimal.readNatural Text.Decimal.largest64 (Text.trim text.toList) with
    | .ok value => .ok (some value)
    | .error fault => .error (.malformed setting fault)

/-- A duration in milliseconds, or the standard one if the variable is not set. -/
def duration (lookup : String → Option String) (setting : Variable) (standard : Nat) :
    Except Fault Nat :=
  (seconds lookup setting).map fun
    | some value => value * 1000
    | none => standard

def definitionPath? (lookup : String → Option String) : Except Fault String :=
  match lookup Variable.definition.name with
  | some path => .ok path
  | none => .error .missingDefinition

def load (lookup : String → Option String) : Except Fault Settings := do
  let standard : Timings := {}
  let definitionPath ← definitionPath? lookup
  let idleCheck ← seconds lookup .idleCheckInterval
  let freshness ← duration lookup .freshness standard.freshness
  let initialDelay ← duration lookup .rebootInitialDelay standard.reboot.initialDelay
  let pendingRecheck ← duration lookup .rebootRecheck standard.reboot.pendingRecheck
  return {
    definitionPath
    cloudName := (lookup Variable.cloud.name).getD "default"
    idleCheckSeconds := max (idleCheck.getD 60) 1
    timings := { freshness, reboot := { initialDelay, pendingRecheck } }
    logLevel := (lookup Variable.logLevel.name).getD "info" }

end Settings

end BuildAgent
