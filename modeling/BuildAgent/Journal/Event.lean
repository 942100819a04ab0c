import BuildAgent.Identifier
import BuildAgent.Link.Endpoint
import BuildAgent.Node.Refusal
import BuildAgent.Provider.Instance
import BuildAgent.Reboot.Policy
import BuildAgent.Text.Quoted

/-!
# Journal events

Everything worth a line in the journal is an `Event`. An event has a level, a fixed message and
named fields; the name of the node and of its endpoint are the same for all events of one node and
are supplied when an event is written out. A field that shows the structure of a value names the
constructor and its contents, with texts quoted.
-/

namespace BuildAgent

/-- The two changes of an instance's tags. -/
inductive TagChange where
  | clear
  | push
  deriving DecidableEq, Repr

/-- What an idle timeout did, and whether the provider accepted it. -/
inductive IdleAction where
  | stopped (accepted : Bool)
  | terminated (accepted : Bool)
  deriving DecidableEq, Repr

namespace Journal

/-- The severity of an event, the gravest first. -/
inductive Level where
  | warning
  | information
  | detail
  deriving DecidableEq, Repr

namespace Level

def name : Level → String
  | warning => "WARN"
  | information => "INFO"
  | detail => "DEBUG"

def shownAt (logLevel : String) : List Level :=
  match logLevel with
  | "warn" => [warning]
  | "info" => [warning, information]
  | "debug" => [warning, information, detail]
  | "trace" => [warning, information, detail]
  | _ => []

end Level

/-- What happened. -/
inductive Event where
  | fetchSkipped
  | refreshed (instanceId : InstanceId) (found force : Bool)
  | fetchFailed (instanceId : InstanceId) (failure : Provider.Failure)
  | nothingToSynchronize (change : TagChange)
  | synchronized (instanceId : InstanceId) (change : TagChange) (count : Nat)
  | detached
  | takingOffline (cause : OfflineCause)
  | broughtOnline
  | nothingToDisconnect
  | askedToExit
  | goneDuringShutdown (fault : Link.Fault)
  | shutdownRequestFailed (fault : Link.Fault)
  | tornDown
  | teardownEndedEarly (fault : Link.Fault)
  | teardownFailed (fault : Link.Fault)
  | startingConnection (explicit : Bool)
  | agentExiting
  | connecting (explicit : Bool) (script : ConnectScript)
  | injectedFailure (operation : Provider.Operation) (failure : Provider.Failure)
  | commandApplied (instanceId : InstanceId) (operation : Provider.Operation)
      (state : InstanceState)
  | nodeRetired
  | instanceAssigned (instanceId : InstanceId)
  | noTagsToClear (refusal : Refusal)
  | definitionReplaced
  | tagsNotPushed (refusal : Refusal)
  | preparingReboot (session : Nat)
  | rebootSent (instanceId : InstanceId)
  | rebootFailed (instanceId : InstanceId) (failure : Provider.Failure) (current : String)
  | rebootNotSent
  | rebootSkipped (refusal : Refusal)
  | stopNotSent
  | stopSent (instanceId : InstanceId)
  | stopFailed (instanceId : InstanceId) (failure : Provider.Failure) (current : String)
  | terminateNotSent
  | terminateSent (instanceId : InstanceId)
  | terminateFailed (instanceId : InstanceId) (failure : Provider.Failure)
  | idleTimeExpired (stopOnTerminate : Bool)
  | schedulingMonitor (session delay : Nat)
  | monitorWithoutNode (session : Nat)
  | superseded (session : Nat)
  | attemptFailed (fault : Link.Fault)
  | attemptStarted (session : Nat)
  | attemptPending (session : Nat)
  | instanceOnline (session : Nat)
  | launchFailed (session failures : Nat) (cause : Option OfflineCause)
  | abandoned (session : Nat) (reason : Reboot.AbandonReason)
  | runningTask (delay : Nat)
  | watchdogStarted (interval : Nat)
  | watchdogSawRetirement
  | withinIdleLimit (idle : Nat)
  | idleTimeoutHandled (action : IdleAction)
  | watchdogShuttingDown
  deriving DecidableEq

/-- The value of a field. -/
inductive Value where
  | text (value : String)
  | number (value : Nat)
  | truth (value : Bool)
  deriving DecidableEq, Repr

def changeName : TagChange → String
  | .clear => "Clear"
  | .push => "Push"

def causeText : OfflineCause → String
  | .reboot session => "Reboot \x7b session: " ++ toString session ++ " \x7d"
  | .launchFailed reason => "LaunchFailed \x7b reason: " ++ Text.quoted reason ++ " \x7d"
  | .userRequested reason => "UserRequested \x7b reason: " ++ Text.quoted reason ++ " \x7d"
  | .channelTerminated reason =>
    "ChannelTerminated \x7b reason: " ++ Text.quoted reason ++ " \x7d"
  | .other reason => "Other(" ++ Text.quoted reason ++ ")"

def optionalCauseText : Option OfflineCause → String
  | some cause => "Some(" ++ causeText cause ++ ")"
  | none => "None"

def scriptText : ConnectScript → String
  | .succeed => "Succeed"
  | .launchFail reason => "LaunchFail(" ++ Text.quoted reason ++ ")"
  | .fail cause => "Fail(" ++ causeText cause ++ ")"
  | .hang => "Hang"

def actionText : IdleAction → String
  | .stopped accepted => "Stopped \x7b accepted: " ++ toString accepted ++ " \x7d"
  | .terminated accepted => "Terminated \x7b accepted: " ++ toString accepted ++ " \x7d"

namespace Event

def level : Event → Level
  | fetchFailed .. => .warning
  | shutdownRequestFailed _ => .warning
  | teardownFailed _ => .warning
  | rebootFailed .. => .warning
  | rebootNotSent => .warning
  | stopNotSent => .warning
  | stopFailed .. => .warning
  | terminateNotSent => .warning
  | terminateFailed .. => .warning
  | launchFailed .. => .warning
  | abandoned _ reason => if reason.isFailure then .warning else .detail
  | synchronized .. => .information
  | takingOffline _ => .information
  | broughtOnline => .information
  | connecting .. => .information
  | commandApplied .. => .information
  | nodeRetired => .information
  | instanceAssigned _ => .information
  | definitionReplaced => .information
  | preparingReboot _ => .information
  | rebootSent _ => .information
  | stopSent _ => .information
  | terminateSent _ => .information
  | idleTimeExpired _ => .information
  | attemptStarted _ => .information
  | instanceOnline _ => .information
  | watchdogStarted _ => .information
  | watchdogSawRetirement => .information
  | idleTimeoutHandled _ => .information
  | watchdogShuttingDown => .information
  | _ => .detail

def message : Event → String
  | fetchSkipped => "No instance id assigned yet, skipping fetch"
  | refreshed .. => "Refreshed instance data"
  | fetchFailed .. => "Failed to fetch instance"
  | nothingToSynchronize _ => "No local tags, nothing to synchronize"
  | synchronized .. => "Synchronized tags"
  | detached => "Detached compute endpoint"
  | takingOffline _ => "Taking node offline"
  | broughtOnline => "Node back online"
  | nothingToDisconnect => "No endpoint attached, nothing to disconnect"
  | askedToExit => "Agent process asked to exit"
  | goneDuringShutdown _ => "Agent went away during shutdown"
  | shutdownRequestFailed _ => "Failed to ask agent process to exit"
  | tornDown => "Channel torn down"
  | teardownEndedEarly _ => "Channel teardown ended early"
  | teardownFailed _ => "Channel teardown failed"
  | startingConnection _ => "Starting connection attempt"
  | agentExiting => "[MOCK] Agent process exiting"
  | connecting .. => "[MOCK] Connecting"
  | injectedFailure .. => "[MOCK] Injected failure"
  | commandApplied .. => "[MOCK] Instance command applied"
  | nodeRetired => "Node retired"
  | instanceAssigned _ => "Instance assigned"
  | noTagsToClear _ => "No live instance, no tags to clear"
  | definitionReplaced => "Agent definition replaced"
  | tagsNotPushed _ => "No live instance, tags not pushed"
  | preparingReboot _ => "Preparing to reboot instance"
  | rebootSent _ => "Reboot request sent"
  | rebootFailed .. => "Failed to reboot instance"
  | rebootNotSent => "No instance id assigned, reboot not sent"
  | rebootSkipped _ => "Skipping reboot after build"
  | stopNotSent => "No instance id assigned, stop not sent"
  | stopSent _ => "Stop request sent"
  | stopFailed .. => "Failed to stop instance"
  | terminateNotSent => "No instance id assigned, terminate not sent"
  | terminateSent _ => "Terminate request sent"
  | terminateFailed .. => "Failed to terminate instance"
  | idleTimeExpired _ => "Instance idle time expired"
  | schedulingMonitor .. => "Scheduling reboot monitor"
  | monitorWithoutNode _ => "Node dropped, reboot monitor exits"
  | superseded _ => "Reboot session superseded"
  | attemptFailed _ => "Reconnect attempt failed"
  | attemptStarted _ => "Starting reboot reconnect"
  | attemptPending _ => "Reconnect still pending"
  | instanceOnline _ => "Instance is back online"
  | launchFailed .. => "Reconnect launch attempt failed, will try later"
  | abandoned _ reason =>
    if reason.isFailure then "Reboot handling aborted" else "Reboot session ended"
  | runningTask _ => "Running scheduled task"
  | watchdogStarted _ => "Starting idle watchdog"
  | watchdogSawRetirement => "Node retired, idle watchdog exiting"
  | withinIdleLimit _ => "Node busy or within idle limit"
  | idleTimeoutHandled _ => "Idle timeout handled"
  | watchdogShuttingDown => "Idle watchdog shutting down"

/-- The fields of an event of a node with a name and an endpoint with a name. Durations are given in
whole seconds. -/
def fields (node endpoint : String) (event : Event) : List (String × Value) :=
  let ofNode (rest : List (String × Value)) := ("node", Value.text node) :: rest
  let ofInstance (instanceId : InstanceId) := ("instance_id", Value.text instanceId.text)
  let ofSession (session : Nat) := ("session", Value.number session)
  let ofError (message : String) := ("error", Value.text message)
  match event with
  | fetchSkipped => []
  | refreshed instanceId found force =>
    [ofInstance instanceId, ("found", .truth found), ("force", .truth force)]
  | fetchFailed instanceId failure => [ofInstance instanceId, ofError failure.message]
  | nothingToSynchronize change => [("op", .text (changeName change))]
  | synchronized instanceId change count =>
    [ofInstance instanceId, ("op", .text (changeName change)), ("count", .number count)]
  | takingOffline cause => ofNode [("cause", .text cause.message)]
  | goneDuringShutdown fault => ofNode [ofError fault.message]
  | shutdownRequestFailed fault => ofNode [ofError fault.message]
  | teardownEndedEarly fault => ofNode [ofError fault.message]
  | teardownFailed fault => ofNode [ofError fault.message]
  | startingConnection explicit => ofNode [("explicit", .truth explicit)]
  | agentExiting => [("endpoint", .text endpoint)]
  | connecting explicit script =>
    [("endpoint", .text endpoint), ("explicit", .truth explicit),
      ("script", .text (scriptText script))]
  | injectedFailure operation failure =>
    [("operation", .text operation.name), ofError failure.message]
  | commandApplied instanceId operation state =>
    [ofInstance instanceId, ("operation", .text operation.name), ("state", .text state.name)]
  | instanceAssigned instanceId => ofNode [ofInstance instanceId]
  | noTagsToClear refusal => ofNode [ofError refusal.message]
  | tagsNotPushed refusal => ofNode [ofError refusal.message]
  | preparingReboot session => ofNode [ofSession session]
  | rebootSent instanceId => ofNode [ofInstance instanceId]
  | rebootFailed instanceId failure current =>
    ofNode [ofInstance instanceId, ofError failure.message, ("current", .text current)]
  | rebootSkipped refusal => ofNode [ofError refusal.message]
  | stopSent instanceId => ofNode [ofInstance instanceId]
  | stopFailed instanceId failure current =>
    ofNode [ofInstance instanceId, ofError failure.message, ("current", .text current)]
  | terminateSent instanceId => ofNode [ofInstance instanceId]
  | terminateFailed instanceId failure => ofNode [ofInstance instanceId, ofError failure.message]
  | idleTimeExpired stopOnTerminate => ofNode [("stop_on_terminate", .truth stopOnTerminate)]
  | schedulingMonitor session delay =>
    ofNode [ofSession session, ("delay_secs", .number (delay / 1000))]
  | monitorWithoutNode session => [ofSession session]
  | superseded session => ofNode [ofSession session]
  | attemptFailed fault => ofNode [ofError fault.message]
  | attemptStarted session => ofNode [ofSession session]
  | attemptPending session => ofNode [ofSession session]
  | instanceOnline session => ofNode [ofSession session]
  | launchFailed session failures cause =>
    ofNode [ofSession session, ("failures", .number failures),
      ("cause", .text (optionalCauseText cause))]
  | abandoned session reason => ofNode [ofSession session, ("reason", .text reason.message)]
  | runningTask delay => [("delay_secs", .number (delay / 1000))]
  | watchdogStarted interval => ofNode [("interval_secs", .number (interval / 1000))]
  | withinIdleLimit idle => ofNode [("idle_secs", .number (idle / 1000))]
  | idleTimeoutHandled action => ofNode [("action", .text (actionText action))]
  | _ => ofNode []

end Event

/-- An event and the time at which it happened. -/
structure Entry where
  time : Nat
  event : Event
  deriving DecidableEq

end Journal

end BuildAgent
