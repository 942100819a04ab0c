import BuildAgent.Proofs.Task.Deeds
import BuildAgent.Proofs.World.Guise

/-!
# What no step looks at

What the changes of the world have in common, the procedures of the node have too: a step of a task
in a world under a guise leads to the same point or the same answer, and to the same world under
that guise (`Point.resume_under`). A node whose endpoint is detached is blind to another endpoint,
but for one thing: a disconnection that was about to ask the agent to exit has the endpoint at hand
(`Point.parting?`), and still does so.
-/

namespace BuildAgent

/-! ## Partings -/

/-- The cause with which a disconnection tears the channel down once it has asked the agent to exit,
if that is what it does next. -/
def DisconnectPoint.parting? : DisconnectPoint → Option (Option OfflineCause)
  | requesting cause => some cause
  | _ => none

def RebootPoint.parting? : RebootPoint → Option (Option OfflineCause)
  | disconnecting _ point => point.parting?
  | _ => none

def StopPoint.parting? : StopPoint → Option (Option OfflineCause)
  | disconnecting point => point.parting?
  | tearing point => point.parting?
  | _ => none

def TerminatePoint.parting? : TerminatePoint → Option (Option OfflineCause)
  | disconnecting point => point.parting?
  | _ => none

def Point.parting? : Point → Option (Option OfflineCause)
  | rebooting _ point => point.parting?
  | stopping _ point => point.parting?
  | terminating _ point => point.parting?
  | disconnecting point => point.parting?
  | _ => none

namespace Stage

variable {π π' ρ ρ' : Type}

def under (stage : Stage π ρ) (guise : Guise) : Stage π ρ :=
  match stage with
  | pause point world => pause point (world.under guise)
  | done result world => done result (world.under guise)

@[simp]
theorem under_pause (point : π) (world : World) (guise : Guise) :
    (pause point world : Stage π ρ).under guise = pause point (world.under guise) := rfl

@[simp]
theorem under_done (result : ρ) (world : World) (guise : Guise) :
    (done result world : Stage π ρ).under guise = done result (world.under guise) := rfl

theorem andThen_under {stage : Stage π ρ} {wrap : π → π'} {next : ρ → World → Stage π' ρ'}
    {guise : Guise}
    (rest : ∀ result middle, stage = .done result middle →
      next result (middle.under guise) = (next result middle).under guise) :
    (stage.under guise).andThen wrap next = (stage.andThen wrap next).under guise := by
  cases stage with
  | pause point world => rfl
  | done result world => exact rest result world rfl

end Stage

variable (world : World) (guise : Guise)

/-! ## Lookups, fetches and tags -/

theorem LookupPoint.resume_under (point : LookupPoint) :
    point.resume (world.under guise) = (point.resume world).under guise := by
  cases point with
  | waiting =>
      simp only [resume, World.frame_under]
      split <;> rfl
  | describing instanceId =>
      rcases asked : (world.ask fun provider => provider.describe [instanceId]) with
        ⟨failure | found, middle⟩ <;> simp [resume, asked]

theorem FetchPoint.keep_under (force : Bool) (instanceId : InstanceId)
    (found : Option Snapshot) : keep force instanceId found (world.under guise) =
      (keep force instanceId found world).under guise := rfl

theorem FetchPoint.resume_under (point : FetchPoint) :
    point.resume (world.under guise) = (point.resume world).under guise := by
  cases point with
  | waiting force =>
      simp only [resume, World.frame_under]
      split
      · rfl
      · split <;> rfl
  | describing force instanceId =>
      rcases asked : (world.ask fun provider => provider.describe [instanceId]) with
        ⟨failure | found, middle⟩ <;> simp [resume, asked, keep_under]

namespace SyncPoint

theorem enter_under (change : TagChange) (tags : List Tag) :
    enter change tags (world.under guise) = (enter change tags world).under guise := by
  simp only [enter]
  split <;> rfl

theorem resume_under (change : TagChange) (tags : List Tag) (point : SyncPoint) :
    point.resume change tags (world.under guise) =
      (point.resume change tags world).under guise := by
  cases point with
  | entering => exact enter_under world guise change tags
  | looking inner =>
      simp only [resume, inner.resume_under]
      refine Stage.andThen_under ?_
      intro found middle _
      split <;> rfl
  | identifying => rfl
  | submitting instanceId batch =>
      rcases asked : (world.ask fun provider => provider.changeTags change instanceId batch) with
        ⟨failure | _, middle⟩ <;> simp [resume, asked]

end SyncPoint

namespace ReconfigurePoint

theorem afterClear_under (result : Except Refusal TagOutcome) :
    afterClear result (world.under guise) = (afterClear result world).under guise := by
  simp only [afterClear]
  split
  · rfl
  · split <;> rfl

theorem afterPush_under (result : Except Refusal TagOutcome) :
    afterPush result (world.under guise) = (afterPush result world).under guise := by
  simp only [afterPush]
  split
  · rfl
  · split <;> rfl

theorem resume_under (definition : Definition) (point : ReconfigurePoint) :
    point.resume definition (world.under guise) =
      (point.resume definition world).under guise := by
  cases point with
  | waiting =>
      simp only [resume, World.frame_under, SyncPoint.enter_under]
      exact Stage.andThen_under fun result middle _ => afterClear_under middle guise result
  | clearing tags inner =>
      simp only [resume, SyncPoint.resume_under]
      exact Stage.andThen_under fun result middle _ => afterClear_under middle guise result
  | rebinding =>
      simp only [resume, World.replace_under, SyncPoint.enter_under]
      exact Stage.andThen_under fun result middle _ => afterPush_under middle guise result
  | pushing tags inner =>
      simp only [resume, SyncPoint.resume_under]
      exact Stage.andThen_under fun result middle _ => afterPush_under middle guise result

end ReconfigurePoint

/-! ## Disconnections and commands -/

namespace DisconnectPoint

theorem tear_under (past : List Journal.Entry) (cause : Option OfflineCause) :
    tear cause (world.under ⟨past, none⟩) = (tear cause world).under ⟨past, none⟩ := by
  simp [tear]

theorem enter_under (blind : world.IsBlindTo guise) (cause : Option OfflineCause) :
    enter cause (world.under guise) = (enter cause world).under guise := by
  rcases blind with ⟨past, rfl⟩ | detached
  · simp only [enter, World.frame_under, World.endpoint_under, tear_under]
    split
    · split <;> rfl
    · rfl
  · simp [enter, detached]

theorem enterTeardown_under (blind : world.IsBlindTo guise) (cause : Option OfflineCause) :
    enterTeardown cause (world.under guise) = (enterTeardown cause world).under guise := by
  rcases blind with ⟨past, rfl⟩ | detached
  · simp only [enterTeardown, World.frame_under, tear_under]
    split <;> rfl
  · simp [enterTeardown, detached]

theorem resume_under (blind : world.IsBlindTo guise) (point : DisconnectPoint)
    (remains : guise.IsPast ∨ point.parting? = none) :
    point.resume (world.under guise) = (point.resume world).under guise := by
  cases point with
  | entering cause => exact enter_under world guise blind cause
  | requesting cause =>
      rcases remains with ⟨past, rfl⟩ | stays
      · simp only [resume, World.requestShutdown_under]
        exact tear_under world.requestShutdown past cause
      · cases stays
  | tearing transfer =>
      simp only [resume, World.outcome?_under, World.noteTeardown_under]
      split <;> rfl

end DisconnectPoint

theorem StopPoint.resume_under (blind : world.IsBlindTo guise) (point : StopPoint)
    (remains : guise.IsPast ∨ point.parting? = none) :
    point.resume (world.under guise) = (point.resume world).under guise := by
  cases point with
  | entering =>
      simp only [resume, DisconnectPoint.enter_under world guise blind]
      exact Stage.andThen_under fun _ _ _ => rfl
  | disconnecting inner =>
      simp only [resume, inner.resume_under world guise blind remains]
      exact Stage.andThen_under fun _ _ _ => rfl
  | binding =>
      simp only [resume, World.frame_under]
      split <;> rfl
  | commanding instanceId =>
      rcases asked : (world.ask fun provider => provider.command .stop instanceId) with
        ⟨failure | _, middle⟩
      · simp [resume, asked]
      · have same := (world.frame_ask fun provider => provider.command .stop instanceId).1
        rw [asked] at same
        have still : (middle.note (.stopSent instanceId)).IsBlindTo guise :=
          blind.of_attached (congrArg Node.attached same)
        simp only [resume, World.ask_under, asked, World.note_under,
          DisconnectPoint.enterTeardown_under _ guise still]
        exact Stage.andThen_under fun _ _ _ => rfl
  | tearing inner =>
      simp only [resume, inner.resume_under world guise blind remains]
      exact Stage.andThen_under fun _ _ _ => rfl
  | diagnosing instanceId failure inner =>
      simp only [resume, inner.resume_under]
      exact Stage.andThen_under fun _ _ _ => rfl

theorem TerminatePoint.resume_under (blind : world.IsBlindTo guise) (point : TerminatePoint)
    (remains : guise.IsPast ∨ point.parting? = none) :
    point.resume (world.under guise) = (point.resume world).under guise := by
  cases point with
  | entering =>
      simp only [resume, DisconnectPoint.enter_under world guise blind]
      exact Stage.andThen_under fun _ _ _ => rfl
  | disconnecting inner =>
      simp only [resume, inner.resume_under world guise blind remains]
      exact Stage.andThen_under fun _ _ _ => rfl
  | binding =>
      simp only [resume, World.frame_under]
      split <;> rfl
  | commanding instanceId =>
      rcases asked : (world.ask fun provider => provider.command .terminate instanceId) with
        ⟨failure | _, middle⟩ <;> simp [resume, asked]

/-! ## Reboots and looks -/

namespace RebootPoint

theorem finish_under (session : Nat) :
    finish session (world.under guise) = (finish session world).under guise := rfl

theorem begin_under (blind : world.IsBlindTo guise) :
    begin (world.under guise) = (begin world).under guise := by
  have attached : world.openSession.node.attached = world.node.attached := by
    simp [World.openSession]
  have opened := blind.of_attached attached
  have prepared : ((world.openSession.note
      (.preparingReboot world.openSession.node.session.generation)).takeOffline
      (.reboot world.openSession.node.session.generation)).IsBlindTo guise :=
    opened.of_attached (by simp)
  simp only [begin, World.openSession_under, World.frame_under, World.note_under]
  rw [World.takeOffline_under _ guise (opened.note _), DisconnectPoint.enter_under _ guise prepared]
  exact Stage.andThen_under fun _ _ _ => rfl

theorem resume_under (blind : world.IsBlindTo guise) (point : RebootPoint)
    (remains : guise.IsPast ∨ point.parting? = none) :
    point.resume (world.under guise) = (point.resume world).under guise := by
  cases point with
  | entering =>
      simp only [resume, World.frame_under]
      split <;> rfl
  | waiting => exact begin_under world guise blind
  | disconnecting session inner =>
      simp only [resume, inner.resume_under world guise blind remains]
      exact Stage.andThen_under fun _ _ _ => rfl
  | binding session =>
      simp only [resume, World.frame_under]
      split <;> rfl
  | commanding session instanceId =>
      rcases asked : (world.ask fun provider => provider.command .reboot instanceId) with
        ⟨failure | _, middle⟩ <;> simp [resume, asked, finish_under]
  | diagnosing session instanceId failure inner =>
      simp only [resume, inner.resume_under]
      exact Stage.andThen_under fun _ _ _ => rfl

end RebootPoint

/-- A fetch does not detach the endpoint. -/
theorem FetchPoint.attached_resume (point : FetchPoint) (world : World) :
    (point.resume world).world.node.attached = world.node.attached := by
  refine (point.through world).view_eq (fun middle => middle.node.attached) ?_
  intro deed middle permitted
  refine (deed.standing_apply middle ?_).2
  rintro rfl
  exact permitted

namespace LookPoint

theorem abandon_under (session : Nat) (reason : Reboot.AbandonReason) :
    abandon session reason (world.under guise) =
      ((abandon session reason world).1, (abandon session reason world).2.under guise) := by
  simp [abandon]

theorem startAttempt_under (blind : world.IsBlindTo guise) (session recheckAfter : Nat) :
    startAttempt session recheckAfter (world.under guise) =
      ((startAttempt session recheckAfter world).1,
        (startAttempt session recheckAfter world).2.under guise) := by
  simp only [startAttempt, World.connect?_under world guise blind]
  cases world.connect? false with
  | none => exact abandon_under world guise session .endpointGone
  | some begun => rfl

theorem retryLaunch_under (blind : world.IsBlindTo guise) (session after : Nat) :
    retryLaunch session after (world.under guise) =
      ((retryLaunch session after world).1, (retryLaunch session after world).2.under guise) := by
  have counted : (world.withSession .recordFailure).IsBlindTo guise := blind.of_attached rfl
  simp only [retryLaunch, World.withSession_under, World.frame_under, World.note_under]
  rw [World.offlineCause_under _ guise counted, World.takeOffline_under _ guise (counted.note _)]
  rfl

theorem act_under (blind : world.IsBlindTo guise) (session : Nat)
    (observation : Reboot.Observation) :
    act session observation (world.under guise) =
      ((act session observation world).1, (act session observation world).2.under guise) := by
  simp only [act, World.frame_under]
  split
  · exact startAttempt_under world guise blind session _
  · rfl
  · simp [World.bringOnline_under world guise blind]
  · exact retryLaunch_under world guise blind session _
  · exact abandon_under world guise session _

theorem takeAttempt_under (ended : Link.Outcome) :
    takeAttempt ended (world.under guise) = (takeAttempt ended world).under guise := by
  cases ended <;> rfl

theorem begin_under (blind : world.IsBlindTo guise) (session : Nat) :
    begin session (world.under guise) = (begin session world).under guise := by
  have taken : ∀ ended, (takeAttempt ended world).IsBlindTo guise := by
    intro ended
    refine blind.of_attached ?_
    cases ended <;> rfl
  simp only [begin, World.frame_under, World.outcome?_under, abandon_under,
    act_under world guise blind, takeAttempt_under, act_under _ guise (taken _),
    World.isChannelPresent_under _ guise (taken _), World.offlineCause_under _ guise (taken _)]
  split
  · rfl
  split
  · rfl
  split
  · rfl
  split
  · rfl
  · split <;> rfl

theorem afterFetch_under (blind : world.IsBlindTo guise) (session : Nat)
    (found : Option Snapshot) :
    afterFetch session found (world.under guise) =
      (afterFetch session found world).under guise := by
  simp only [afterFetch, World.offlineCause_under world guise blind, act_under world guise blind]
  rfl

theorem resume_under (blind : world.IsBlindTo guise) (session : Nat) (point : LookPoint) :
    point.resume session (world.under guise) = (point.resume session world).under guise := by
  cases point with
  | waiting => exact begin_under world guise blind session
  | refreshing fetch =>
      have attached := fetch.attached_resume world
      simp only [resume, fetch.resume_under]
      apply Stage.andThen_under
      intro found middle fetched
      rw [fetched] at attached
      exact afterFetch_under middle guise (blind.of_attached attached) session found

end LookPoint

/-! ## All tasks -/

namespace Point

theorem afterAction_under (caller : Caller) (action : IdleAction) :
    afterAction caller action (world.under guise) =
      (afterAction caller action world).under guise := by
  simp only [afterAction]
  split
  · split <;> rfl
  · rfl

theorem afterStop_under (caller : Caller) (accepted : Bool) :
    afterStop caller accepted (world.under guise) =
      (afterStop caller accepted world).under guise := by
  simp only [afterStop]
  split
  · rfl
  · rfl
  · exact afterAction_under world guise _ _

theorem afterTermination_under (caller : Caller) (accepted : Bool) :
    afterTermination caller accepted (world.under guise) =
      (afterTermination caller accepted world).under guise := by
  have retiring : (if accepted then (world.under guise).retire else world.under guise) =
      (if accepted then world.retire else world).under guise := by
    split
    · exact world.retire_under guise
    · rfl
  cases caller with
  | instanceCommand => rfl
  | nodeCommand =>
      simp only [afterTermination, retiring]
      rfl
  | idleTimeout =>
      simp only [afterTermination, retiring]
      exact afterAction_under _ guise .idleTimeout _
  | watchdog watch =>
      simp only [afterTermination, retiring]
      exact afterAction_under _ guise (.watchdog watch) _

theorem afterReboot_under (afterBuild : Bool) (result : Except Refusal Nat) :
    afterReboot afterBuild result (world.under guise) =
      (afterReboot afterBuild result world).under guise := by
  simp only [afterReboot]
  split
  · split <;> rfl
  · rfl

theorem consult_under (consultation : Consultation) :
    consult consultation (world.under guise) = (consult consultation world).under guise := by
  cases consultation with
  | idleAction caller =>
      simp only [consult, World.frame_under, World.note_under]
      split <;> rfl
  | idleLimit watch =>
      simp only [consult, World.frame_under, World.idleFor_under]
      split
      · rfl
      · rename_i limit limited
        by_cases within : world.idleFor < limit * 1000 <;> simp [within]
  | rebootAfterBuild =>
      simp only [consult, World.frame_under]
      split <;> rfl
  | _ => rfl

theorem assign_under (instanceId : InstanceId) (announce : Bool) :
    assign instanceId announce (world.under guise) =
      (assign instanceId announce world).under guise := by
  simp only [assign, World.frame_under, World.withNode_under, Stage.under_done]
  split <;> rfl

/-- **No step reads the journal, and none looks at an endpoint that is detached,** unless the step
asks the agent to exit. -/
theorem resume_under (blind : world.IsBlindTo guise) (point : Point)
    (remains : guise.IsPast ∨ point.parting? = none) :
    point.resume (world.under guise) = (point.resume world).under guise := by
  cases point with
  | consulting consultation => exact consult_under world guise consultation
  | fetching query inner =>
      simp only [resume, inner.resume_under]
      exact Stage.andThen_under fun _ _ _ => rfl
  | lookingUp inner =>
      simp only [resume, inner.resume_under]
      exact Stage.andThen_under fun _ _ _ => rfl
  | assigning instanceId announce => exact assign_under world guise instanceId announce
  | changingTags change =>
      simp only [resume, World.frame_under, SyncPoint.enter_under]
      exact Stage.andThen_under fun _ _ _ => rfl
  | synchronizing change tags locked inner =>
      simp only [resume, inner.resume_under]
      exact Stage.andThen_under fun _ _ _ => rfl
  | reconfiguring definition inner =>
      simp only [resume, inner.resume_under]
      exact Stage.andThen_under fun _ _ _ => rfl
  | rebooting afterBuild inner =>
      simp only [resume, inner.resume_under world guise blind remains]
      exact Stage.andThen_under fun result middle _ =>
        afterReboot_under middle guise afterBuild result
  | looking session inner =>
      simp only [resume, inner.resume_under world guise blind]
      exact Stage.andThen_under fun _ _ _ => rfl
  | stopping caller inner =>
      simp only [resume, inner.resume_under world guise blind remains]
      exact Stage.andThen_under fun result middle _ => afterStop_under middle guise caller result
  | terminating caller inner =>
      simp only [resume, inner.resume_under world guise blind remains]
      exact Stage.andThen_under fun result middle _ =>
        afterTermination_under middle guise caller result
  | disconnecting inner =>
      simp only [resume, inner.resume_under world guise blind remains]
      exact Stage.andThen_under fun _ _ _ => rfl
  | tearingDown cause =>
      simp only [resume, DisconnectPoint.enterTeardown_under world guise blind]
      exact Stage.andThen_under fun _ _ _ => rfl
  | watching watch =>
      simp only [resume, watchLook, World.frame_under]
      split <;> rfl
  | _ => rfl

theorem hasNews_under (point : Point) :
    point.hasNews (world.under guise) = point.hasNews world := by
  cases point <;> rfl

theorem notice_under (point : Point) :
    point.notice (world.under guise) = (point.notice world).under guise := by
  cases point with
  | watching watch =>
      simp only [notice, World.frame_under]
      split <;> rfl
  | _ => rfl

end Point

end BuildAgent
