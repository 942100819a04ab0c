import BuildAgent.Proofs.Execution.Acting

/-!
# The calls that tasks make

With one step a task makes at most one call of the provider, and the point where it stands before
the step tells which (`Point.call?`). The provider records that call, whether or not it succeeds,
and the step leaves no other trace in its record (`Point.calls_resume`). So a law about the calls
that are made is a law about the points of the tasks that take their steps
(`Execution.calls_apply`), and the record after some moves has the calls of those tasks in their
order (`Execution.calls_run`).
-/

namespace BuildAgent

/-! ## Calls of the provider -/

namespace Provider

/-- The record of calls after a step that makes one call or none. -/
def keepCall? (call? : Option Call) (calls : List Call) : List Call :=
  match call? with
  | some call => keepCall call calls
  | none => calls

/-- The record of calls after some more, the latest last. -/
def keepCalls (made calls : List Call) : List Call :=
  made.foldl (fun calls call => keepCall call calls) calls

variable (provider : Provider)

/-- A call is recorded whether or not it succeeds. -/
theorem calls_perform {α : Type} (call : Call) {carryOut : Provider → Reply α}
    (kept : ∀ recorded, (carryOut recorded).provider.calls = recorded.calls) :
    (provider.perform call carryOut).provider.calls = keepCall call provider.calls := by
  simp only [perform]
  split
  · rfl
  · exact kept _

theorem calls_describe (instanceIds : List InstanceId) :
    (provider.describe instanceIds).provider.calls =
      keepCall ⟨.describe, instanceIds, []⟩ provider.calls :=
  provider.calls_perform _ fun _ => rfl

theorem calls_command (operation : Operation) (instanceId : InstanceId) :
    (provider.command operation instanceId).provider.calls =
      keepCall ⟨operation, [instanceId], []⟩ provider.calls := by
  refine provider.calls_perform _ ?_
  intro recorded
  split <;> rfl

theorem calls_changeTags (change : TagChange) (instanceId : InstanceId) (batch : List Tag) :
    (provider.changeTags change instanceId batch).provider.calls =
      keepCall ⟨operationOf change, [instanceId], batch⟩ provider.calls := by
  refine provider.calls_perform _ ?_
  intro recorded
  split <;> rfl

end Provider

/-! ## What makes no call -/

namespace World

variable (world : World)

theorem calls_of_ask {α : Type} {call : Provider → Provider.Reply α}
    {answer : Except Provider.Failure α} {after : World}
    (asked : world.ask call = (answer, after)) :
    after.provider.calls = (call world.provider).provider.calls := by
  have provider : (world.ask call).2.provider = (call world.provider).provider := by
    simp only [ask]
    split <;> rfl
  rw [asked] at provider
  exact congrArg Provider.calls provider

@[simp]
theorem provider_abortAttempt : world.abortAttempt.provider = world.provider := by
  simp only [abortAttempt]
  split <;> rfl

@[simp]
theorem provider_takeOffline (cause : OfflineCause) :
    (world.takeOffline cause).provider = world.provider := by
  simp only [takeOffline]
  split <;> rfl

@[simp]
theorem provider_bringOnline : world.bringOnline.provider = world.provider := by
  simp only [bringOnline]
  split <;> rfl

@[simp]
theorem provider_startConnection (explicit : Bool) :
    (world.startConnection explicit).2.provider = world.provider := by
  simp only [startConnection]
  split <;> rfl

@[simp]
theorem provider_startTeardown (cause : Option OfflineCause) :
    (world.startTeardown cause).2.provider = world.provider := by
  simp only [startTeardown]
  split <;> rfl

@[simp]
theorem provider_requestShutdown : world.requestShutdown.provider = world.provider := by
  simp only [requestShutdown, askToExit, noteShutdown]
  repeat' split
  all_goals rfl

@[simp]
theorem provider_noteTeardown (outcome : Link.Outcome) :
    (world.noteTeardown outcome).provider = world.provider := by
  simp only [noteTeardown]
  split
  · rfl
  · split <;> rfl

@[simp]
theorem provider_retire : world.retire.provider = world.provider := by
  simp only [retire, detach]
  split
  · rfl
  · split <;> rfl

@[simp]
theorem provider_withAgenda (delay : Option Nat) (agenda : Schedule.Agenda) :
    (world.withAgenda delay agenda).provider = world.provider := by
  cases delay <;> rfl

theorem provider_bringOn (number : Nat) : (world.bringOn number).provider = world.provider := by
  simp only [bringOn]
  split
  · split <;> rfl
  · split <;> rfl
  · rfl

end World

theorem Stage.provider_andThen {π π' ρ ρ' : Type} {stage : Stage π ρ} {wrap : π → π'}
    {next : ρ → World → Stage π' ρ'} (rest : ∀ result middle,
      (next result middle).world.provider = middle.provider) :
    (stage.andThen wrap next).world.provider = stage.world.provider := by
  cases stage with
  | pause point middle => rfl
  | done result middle => exact rest result middle

namespace DisconnectPoint

variable (world : World)

theorem provider_enter (cause : Option OfflineCause) :
    (enter cause world).world.provider = world.provider := by
  simp only [enter, tear]
  split
  · split
    · rfl
    · exact world.provider_startTeardown cause
  · rfl

theorem provider_enterTeardown (cause : Option OfflineCause) :
    (enterTeardown cause world).world.provider = world.provider := by
  simp only [enterTeardown, tear]
  split
  · exact world.provider_startTeardown cause
  · rfl

theorem provider_resume (point : DisconnectPoint) :
    (point.resume world).world.provider = world.provider := by
  cases point with
  | entering cause => exact provider_enter world cause
  | requesting cause =>
      exact (World.provider_startTeardown _ cause).trans world.provider_requestShutdown
  | tearing transfer =>
      simp only [resume]
      split
      · exact world.provider_noteTeardown _
      · rfl

end DisconnectPoint

namespace LookPoint

theorem provider_act (session : Nat) (observation : Reboot.Observation) (world : World) :
    (act session observation world).2.provider = world.provider := by
  have abandoned : ∀ reason (middle : World),
      (abandon session reason middle).2.provider = middle.provider := by
    intro reason middle
    exact middle.provider_abortAttempt
  simp only [act]
  split
  · simp only [startAttempt, World.connect?]
    split
    · exact abandoned .endpointGone world
    · rename_i attempt begun connected
      split at connected
      · have started := (world.note (.startingConnection false)).provider_startConnection false
        simp only [Option.some.injEq] at connected
        rw [connected] at started
        exact started
      · cases connected
  · rfl
  · exact (World.provider_abortAttempt _).trans (World.provider_bringOnline _)
  · exact World.provider_takeOffline _ _
  · exact abandoned _ world

theorem provider_begin (session : Nat) (world : World) :
    (begin session world).world.provider = world.provider := by
  have taken : ∀ outcome : Link.Outcome,
      (takeAttempt outcome world).provider = world.provider := by
    intro outcome
    simp only [takeAttempt]
    split <;> rfl
  simp only [begin]
  split
  · rfl
  split
  · exact world.provider_abortAttempt
  split
  · exact world.provider_abortAttempt
  split
  · rfl
  · split
    · exact provider_act session .attemptPending world
    · exact (provider_act session _ _).trans (taken _)

end LookPoint

theorem RebootPoint.provider_begin (world : World) :
    (begin world).world.provider = world.provider := by
  simp only [begin]
  rw [Stage.provider_andThen fun _ _ => rfl, DisconnectPoint.provider_enter,
    World.provider_takeOffline]
  exact world.provider_abortAttempt

/-! ## The calls of the procedures -/

/-- The description of one instance. -/
def Provider.Call.describing (instanceId : InstanceId) : Provider.Call :=
  ⟨.describe, [instanceId], []⟩

namespace FetchPoint

/-- The call that a fetch makes with its next step. -/
def call? : FetchPoint → Option Provider.Call
  | waiting _ => none
  | describing _ instanceId => some (.describing instanceId)

theorem calls_resume (point : FetchPoint) (world : World) :
    (point.resume world).world.provider.calls =
      Provider.keepCall? point.call? world.provider.calls := by
  cases point with
  | waiting force =>
      simp only [resume]
      split
      · rfl
      · split <;> rfl
  | describing force instanceId =>
      have records := world.provider.calls_describe [instanceId]
      simp only [resume]
      split <;> rename_i asked <;> exact (world.calls_of_ask asked).trans records

end FetchPoint

namespace LookupPoint

/-- The call that a lookup makes with its next step. -/
def call? : LookupPoint → Option Provider.Call
  | waiting => none
  | describing instanceId => some (.describing instanceId)

theorem calls_resume (point : LookupPoint) (world : World) :
    (point.resume world).world.provider.calls =
      Provider.keepCall? point.call? world.provider.calls := by
  cases point with
  | waiting =>
      simp only [resume]
      split <;> rfl
  | describing instanceId =>
      have records := world.provider.calls_describe [instanceId]
      simp only [resume]
      split <;> rename_i asked <;> exact (world.calls_of_ask asked).trans records

end LookupPoint

namespace SyncPoint

/-- The call that a change of tags makes with its next step. -/
def call? (change : TagChange) : SyncPoint → Option Provider.Call
  | looking point => point.call?
  | submitting instanceId batch => some ⟨Provider.operationOf change, [instanceId], batch⟩
  | _ => none

theorem provider_enter (change : TagChange) (tags : List Tag) (world : World) :
    (enter change tags world).world.provider = world.provider := by
  simp only [enter]
  split <;> rfl

theorem calls_resume (change : TagChange) (tags : List Tag) (point : SyncPoint) (world : World) :
    (point.resume change tags world).world.provider.calls =
      Provider.keepCall? (point.call? change) world.provider.calls := by
  cases point with
  | entering => exact congrArg Provider.calls (provider_enter change tags world)
  | looking inner =>
      rw [resume, Stage.provider_andThen]
      · exact inner.calls_resume world
      · intro found middle
        split <;> rfl
  | identifying => rfl
  | submitting instanceId batch =>
      have records := world.provider.calls_changeTags change instanceId batch
      simp only [resume]
      split <;> rename_i asked <;> exact (world.calls_of_ask asked).trans records

end SyncPoint

namespace ReconfigurePoint

/-- The call that the replacement of a definition makes with its next step. -/
def call? : ReconfigurePoint → Option Provider.Call
  | clearing _ point => point.call? .clear
  | pushing _ point => point.call? .push
  | _ => none

theorem provider_afterClear (result : Except Refusal TagOutcome) (world : World) :
    (afterClear result world).world.provider = world.provider := by
  simp only [afterClear]
  split
  · rfl
  · split <;> rfl

theorem provider_afterPush (result : Except Refusal TagOutcome) (world : World) :
    (afterPush result world).world.provider = world.provider := by
  simp only [afterPush]
  split
  · rfl
  · split <;> rfl

theorem calls_resume (definition : Definition) (point : ReconfigurePoint) (world : World) :
    (point.resume definition world).world.provider.calls =
      Provider.keepCall? point.call? world.provider.calls := by
  cases point with
  | waiting =>
      rw [resume, Stage.provider_andThen provider_afterClear, SyncPoint.provider_enter]
      rfl
  | clearing tags inner =>
      rw [resume, Stage.provider_andThen provider_afterClear]
      exact inner.calls_resume .clear tags world
  | rebinding =>
      rw [resume, Stage.provider_andThen provider_afterPush, SyncPoint.provider_enter]
      rfl
  | pushing tags inner =>
      rw [resume, Stage.provider_andThen provider_afterPush]
      exact inner.calls_resume .push tags world

end ReconfigurePoint

namespace RebootPoint

/-- The call that a reboot makes with its next step. -/
def call? : RebootPoint → Option Provider.Call
  | commanding _ instanceId => some ⟨.reboot, [instanceId], []⟩
  | diagnosing _ _ _ point => point.call?
  | _ => none

theorem calls_resume (point : RebootPoint) (world : World) :
    (point.resume world).world.provider.calls =
      Provider.keepCall? point.call? world.provider.calls := by
  cases point with
  | entering =>
      simp only [resume]
      split <;> rfl
  | waiting => exact congrArg Provider.calls (provider_begin world)
  | disconnecting session inner =>
      rw [resume, Stage.provider_andThen fun _ _ => rfl, inner.provider_resume]
      rfl
  | binding session =>
      simp only [resume]
      split <;> rfl
  | commanding session instanceId =>
      have records := world.provider.calls_command .reboot instanceId
      simp only [resume]
      split <;> rename_i asked <;> exact (world.calls_of_ask asked).trans records
  | diagnosing session instanceId failure inner =>
      rw [resume, Stage.provider_andThen fun _ _ => rfl]
      exact inner.calls_resume world

end RebootPoint

namespace LookPoint

/-- The call that a look of the monitor makes with its next step. -/
def call? : LookPoint → Option Provider.Call
  | waiting => none
  | refreshing point => point.call?

theorem calls_resume (session : Nat) (point : LookPoint) (world : World) :
    (point.resume session world).world.provider.calls =
      Provider.keepCall? point.call? world.provider.calls := by
  cases point with
  | waiting => exact congrArg Provider.calls (provider_begin session world)
  | refreshing fetch =>
      rw [resume, Stage.provider_andThen]
      · exact fetch.calls_resume world
      · exact fun found middle => provider_act session _ middle

end LookPoint

namespace StopPoint

/-- The call that a stop makes with its next step. -/
def call? : StopPoint → Option Provider.Call
  | commanding instanceId => some ⟨.stop, [instanceId], []⟩
  | diagnosing _ _ point => point.call?
  | _ => none

theorem calls_resume (point : StopPoint) (world : World) :
    (point.resume world).world.provider.calls =
      Provider.keepCall? point.call? world.provider.calls := by
  cases point with
  | entering =>
      rw [resume, Stage.provider_andThen fun _ _ => rfl, DisconnectPoint.provider_enter]
      rfl
  | disconnecting inner =>
      rw [resume, Stage.provider_andThen fun _ _ => rfl, inner.provider_resume]
      rfl
  | binding =>
      simp only [resume]
      split <;> rfl
  | commanding instanceId =>
      have records := world.provider.calls_command .stop instanceId
      simp only [resume]
      split
      · rename_i middle asked
        rw [Stage.provider_andThen fun _ _ => rfl, DisconnectPoint.provider_enterTeardown]
        exact (world.calls_of_ask asked).trans records
      · rename_i failure middle asked
        exact (world.calls_of_ask asked).trans records
  | tearing inner =>
      rw [resume, Stage.provider_andThen fun _ _ => rfl, inner.provider_resume]
      rfl
  | diagnosing instanceId failure inner =>
      rw [resume, Stage.provider_andThen fun _ _ => rfl]
      exact inner.calls_resume world

end StopPoint

namespace TerminatePoint

/-- The call that a termination makes with its next step. -/
def call? : TerminatePoint → Option Provider.Call
  | commanding instanceId => some ⟨.terminate, [instanceId], []⟩
  | _ => none

theorem calls_resume (point : TerminatePoint) (world : World) :
    (point.resume world).world.provider.calls =
      Provider.keepCall? point.call? world.provider.calls := by
  cases point with
  | entering =>
      rw [resume, Stage.provider_andThen fun _ _ => rfl, DisconnectPoint.provider_enter]
      rfl
  | disconnecting inner =>
      rw [resume, Stage.provider_andThen fun _ _ => rfl, inner.provider_resume]
      rfl
  | binding =>
      simp only [resume]
      split <;> rfl
  | commanding instanceId =>
      have records := world.provider.calls_command .terminate instanceId
      simp only [resume]
      split <;> rename_i asked <;> exact (world.calls_of_ask asked).trans records

end TerminatePoint

/-! ## The calls of tasks -/

namespace Point

/-- The call that a task makes with its next step. -/
def call? : Point → Option Provider.Call
  | fetching _ point => point.call?
  | lookingUp point => point.call?
  | synchronizing change _ _ point => point.call? change
  | reconfiguring _ point => point.call?
  | rebooting _ point => point.call?
  | looking _ point => point.call?
  | stopping _ point => point.call?
  | terminating _ point => point.call?
  | _ => none

/-- The calls that tasks make, with the points at which they make them. -/
inductive Makes : Point → Provider.Call → Prop
  | describing (point : Point) (instanceId : InstanceId) : Makes point (.describing instanceId)
  | synchronizing (change : TagChange) (tags : List Tag) (locked : Bool) (instanceId : InstanceId)
      (batch : List Tag) :
      Makes (.synchronizing change tags locked (.submitting instanceId batch))
        ⟨Provider.operationOf change, [instanceId], batch⟩
  | clearing (definition : Definition) (tags : List Tag) (instanceId : InstanceId)
      (batch : List Tag) :
      Makes (.reconfiguring definition (.clearing tags (.submitting instanceId batch)))
        ⟨.deleteTags, [instanceId], batch⟩
  | pushing (definition : Definition) (tags : List Tag) (instanceId : InstanceId)
      (batch : List Tag) :
      Makes (.reconfiguring definition (.pushing tags (.submitting instanceId batch)))
        ⟨.createTags, [instanceId], batch⟩
  | rebooting (afterBuild : Bool) (session : Nat) (instanceId : InstanceId) :
      Makes (.rebooting afterBuild (.commanding session instanceId)) ⟨.reboot, [instanceId], []⟩
  | stopping (caller : Caller) (instanceId : InstanceId) :
      Makes (.stopping caller (.commanding instanceId)) ⟨.stop, [instanceId], []⟩
  | terminating (caller : Caller) (instanceId : InstanceId) :
      Makes (.terminating caller (.commanding instanceId)) ⟨.terminate, [instanceId], []⟩

/-- What a task calls is one of these. -/
theorem makes_of_call? {point : Point} {call : Provider.Call} (calls : point.call? = some call) :
    point.Makes call := by
  have fetches : ∀ fetch : FetchPoint, fetch.call? = some call → point.Makes call := by
    intro fetch calls
    cases fetch with
    | waiting force => cases calls
    | describing force instanceId =>
        cases calls
        exact .describing point instanceId
  have lookups : ∀ lookup : LookupPoint, lookup.call? = some call → point.Makes call := by
    intro lookup calls
    cases lookup with
    | waiting => cases calls
    | describing instanceId =>
        cases calls
        exact .describing point instanceId
  cases point with
  | fetching query inner => exact fetches inner calls
  | lookingUp inner => exact lookups inner calls
  | synchronizing change tags locked inner =>
      cases inner with
      | looking lookup => exact lookups lookup calls
      | submitting instanceId batch =>
          cases calls
          exact .synchronizing change tags locked instanceId batch
      | _ => cases calls
  | reconfiguring definition inner =>
      cases inner with
      | clearing tags sync =>
          cases sync with
          | looking lookup => exact lookups lookup calls
          | submitting instanceId batch =>
              cases calls
              exact .clearing definition tags instanceId batch
          | _ => cases calls
      | pushing tags sync =>
          cases sync with
          | looking lookup => exact lookups lookup calls
          | submitting instanceId batch =>
              cases calls
              exact .pushing definition tags instanceId batch
          | _ => cases calls
      | _ => cases calls
  | rebooting afterBuild inner =>
      cases inner with
      | commanding session instanceId =>
          cases calls
          exact .rebooting afterBuild session instanceId
      | diagnosing session instanceId failure lookup => exact lookups lookup calls
      | _ => cases calls
  | looking session inner =>
      cases inner with
      | waiting => cases calls
      | refreshing fetch => exact fetches fetch calls
  | stopping caller inner =>
      cases inner with
      | commanding instanceId =>
          cases calls
          exact .stopping caller instanceId
      | diagnosing instanceId failure lookup => exact lookups lookup calls
      | _ => cases calls
  | terminating caller inner =>
      cases inner with
      | commanding instanceId =>
          cases calls
          exact .terminating caller instanceId
      | _ => cases calls
  | _ => cases calls

variable (world : World)

theorem provider_afterAction (caller : Caller) (action : IdleAction) :
    (afterAction caller action world).world.provider = world.provider := by
  simp only [afterAction]
  split
  · split <;> rfl
  · rfl

theorem provider_afterStop (caller : Caller) (accepted : Bool) :
    (afterStop caller accepted world).world.provider = world.provider := by
  simp only [afterStop]
  split
  · rfl
  · rfl
  · exact provider_afterAction world caller _

theorem provider_afterTermination (caller : Caller) (accepted : Bool) :
    (afterTermination caller accepted world).world.provider = world.provider := by
  have retiring : (if accepted then world.retire else world).provider = world.provider := by
    split
    · exact world.provider_retire
    · rfl
  simp only [afterTermination]
  split
  · rfl
  · exact retiring
  · exact (provider_afterAction _ caller _).trans retiring

theorem provider_afterReboot (afterBuild : Bool) (result : Except Refusal Nat) :
    (afterReboot afterBuild result world).world.provider = world.provider := by
  simp only [afterReboot]
  split
  · split <;> rfl
  · rfl

theorem provider_consult (consultation : Consultation) :
    (consult consultation world).world.provider = world.provider := by
  cases consultation <;> simp only [consult] <;> repeat' split
  all_goals rfl

/-- **A step of a task makes the call that its point tells**, and no other. -/
theorem calls_resume (point : Point) : (point.resume world).world.provider.calls =
    Provider.keepCall? point.call? world.provider.calls := by
  cases point with
  | consulting consultation => exact congrArg Provider.calls (provider_consult world consultation)
  | fetching query inner =>
      rw [resume, Stage.provider_andThen fun _ _ => rfl]
      exact inner.calls_resume world
  | lookingUp inner =>
      rw [resume, Stage.provider_andThen fun _ _ => rfl]
      exact inner.calls_resume world
  | assigning instanceId announce =>
      simp only [resume, assign]
      split <;> rfl
  | changingTags change =>
      rw [resume, Stage.provider_andThen fun _ _ => rfl, SyncPoint.provider_enter]
      rfl
  | synchronizing change tags locked inner =>
      rw [resume, Stage.provider_andThen fun _ _ => rfl]
      exact inner.calls_resume change tags world
  | reconfiguring definition inner =>
      rw [resume, Stage.provider_andThen fun _ _ => rfl]
      exact inner.calls_resume definition world
  | rebooting afterBuild inner =>
      rw [resume, Stage.provider_andThen fun _ _ => provider_afterReboot _ afterBuild _]
      exact inner.calls_resume world
  | looking session inner =>
      rw [resume, Stage.provider_andThen fun _ _ => rfl]
      exact inner.calls_resume session world
  | stopping caller inner =>
      rw [resume, Stage.provider_andThen fun _ _ => provider_afterStop _ caller _]
      exact inner.calls_resume world
  | terminating caller inner =>
      rw [resume, Stage.provider_andThen fun _ _ => provider_afterTermination _ caller _]
      exact inner.calls_resume world
  | disconnecting inner =>
      rw [resume, Stage.provider_andThen fun _ _ => rfl, inner.provider_resume]
      rfl
  | tearingDown cause =>
      rw [resume, Stage.provider_andThen fun _ _ => rfl, DisconnectPoint.provider_enterTeardown]
      rfl
  | watching watch =>
      simp only [resume, watchLook]
      split <;> rfl
  | _ => rfl

theorem provider_notice (point : Point) : (point.notice world).world.provider = world.provider := by
  cases point with
  | watching watch =>
      simp only [notice]
      split <;> rfl
  | _ => rfl

end Point

namespace Execution

variable {execution before after : Execution} {move : Move}

/-- The call that the provider gets with a move from a task of the node, if it gets one. -/
def call? (execution : Execution) (move : Move) : Option Provider.Call :=
  (execution.acting? move).bind fun task => task.point.call?

/-- Without the step of a task the provider gets no call, unless somebody acts past the node. -/
theorem Silent.calls_eq (silent : before.Silent move after)
    (inside : ∀ happening, move ≠ .happen happening) :
    after.world.provider.calls = before.world.provider.calls := by
  cases silent with
  | idle move => rfl
  | outside move change changes =>
      cases move with
      | happen happening => exact absurd rfl (inside happening)
      | bringOn transfer =>
          cases changes
          exact congrArg Provider.calls (before.world.provider_bringOn transfer)
      | retire =>
          cases changes
          exact congrArg Provider.calls before.world.provider_retire
      | _ => cases changes <;> rfl
  | started number request fresh held => rfl
  | looked number session delay agenda fresh scheduled present =>
      exact congrArg Provider.calls (before.world.provider_withAgenda delay agenda)
  | lost number session delay agenda scheduled dropped alone =>
      exact congrArg Provider.calls (before.world.provider_withAgenda delay agenda)
  | noticed earlier later task split news =>
      exact congrArg Provider.calls (Point.provider_notice before.world task.point)

/-- **The provider records the calls of tasks** and no others, unless somebody acts past the
node. -/
theorem calls_apply (orderly : execution.Orderly) (move : Move)
    (inside : ∀ happening, move ≠ .happen happening) :
    (execution.apply move).world.provider.calls =
      Provider.keepCall? (execution.call? move) execution.world.provider.calls := by
  rcases acts_or_silent orderly move with
    ⟨task, earlier, later, acts, _, _, moved⟩ | ⟨still, silent⟩
  · rw [moved, call?, acts]
    exact task.point.calls_resume execution.world
  · rw [call?, still]
    exact silent.calls_eq inside

/-- The calls that tasks make while moves are made, with the numbers of the tasks, the earliest
first. -/
def calls : Execution → List Move → List (Nat × Provider.Call) :=
  observed fun task => task.point.call?.map fun call => (task.number, call)

/-- What the provider has recorded after some moves are the calls of the tasks. -/
theorem calls_run (orderly : execution.Orderly) (moves : List Move)
    (inside : ∀ happening, .happen happening ∉ moves) :
    (execution.run moves).world.provider.calls =
      Provider.keepCalls ((execution.calls moves).map Prod.snd) execution.world.provider.calls := by
  induction moves generalizing execution with
  | nil => rfl
  | cons move moves hypothesis =>
      have first := calls_apply orderly move fun happening same =>
        inside happening (same ▸ List.mem_cons_self)
      have rest := hypothesis (orderly.step (step_apply orderly move)) fun happening among =>
        inside happening (List.mem_cons_of_mem move among)
      have made : (execution.calls (move :: moves)).map Prod.snd =
          (execution.call? move).toList ++ ((execution.apply move).calls moves).map Prod.snd := by
        rw [calls, observed, List.map_append, call?]
        rcases execution.acting? move with _ | task
        · rfl
        · simp only [Option.bind_some]
          cases task.point.call? <;> rfl
      have whole : (execution.run (move :: moves)).world.provider.calls =
          ((execution.apply move).run moves).world.provider.calls := rfl
      rw [whole, rest, first, made, Provider.keepCalls, Provider.keepCalls, List.foldl_append]
      cases execution.call? move <;> rfl

end Execution

end BuildAgent
