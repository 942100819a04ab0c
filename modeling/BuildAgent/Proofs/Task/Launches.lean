import BuildAgent.Proofs.Task.Deeds
import BuildAgent.Proofs.World.Ledger

/-!
# Which steps start attempts

Only a look of the reboot monitor starts attempts to connect. For every other procedure of the node
there is a lemma here that says so: its steps leave the ledger of attempts and the timings of the
node alone.
-/

namespace BuildAgent

theorem Stage.ledger_andThen {π π' ρ ρ' : Type} {stage : Stage π ρ} {wrap : π → π'}
    {next : ρ → World → Stage π' ρ'} {world : World} (part : stage.world.ledger = world.ledger)
    (rest : ∀ result middle, (next result middle).world.ledger = middle.ledger) :
    (stage.andThen wrap next).world.ledger = world.ledger := by
  cases stage with
  | pause point middle => exact part
  | done result middle => exact (rest result middle).trans part

/-! ## Lookups, fetches and tags -/

theorem LookupPoint.ledger_resume (point : LookupPoint) (world : World) :
    (point.resume world).world.ledger = world.ledger := by
  cases point with
  | waiting =>
      simp only [resume]
      split <;> rfl
  | describing instanceId =>
      have described := world.ledger_describe [instanceId]
      simp only [resume]
      split
      · rename_i asked
        rwa [asked] at described
      · rename_i asked
        rwa [asked] at described

theorem FetchPoint.ledger_keep (force : Bool) (instanceId : InstanceId) (found : Option Snapshot)
    (world : World) : (keep force instanceId found world).ledger = world.ledger := by
  rw [keep, World.ledger_withNode _ rfl, World.ledger_note _ _ rfl]

theorem FetchPoint.ledger_resume (point : FetchPoint) (world : World) :
    (point.resume world).world.ledger = world.ledger := by
  cases point with
  | waiting force =>
      simp only [resume]
      split
      · exact World.ledger_note _ _ rfl
      · split <;> rfl
  | describing force instanceId =>
      have described := world.ledger_describe [instanceId]
      simp only [resume]
      split
      · rename_i found middle asked
        rw [asked] at described
        exact (ledger_keep force instanceId found.head? middle).trans described
      · rename_i failure middle asked
        rw [asked] at described
        exact (World.ledger_note _ _ rfl).trans described

namespace SyncPoint

theorem ledger_enter (change : TagChange) (tags : List Tag) (world : World) :
    (enter change tags world).world.ledger = world.ledger := by
  simp only [enter]
  split
  · exact World.ledger_note _ _ rfl
  · rfl

theorem ledger_resume (change : TagChange) (tags : List Tag) (point : SyncPoint) (world : World) :
    (point.resume change tags world).world.ledger = world.ledger := by
  cases point with
  | entering => exact ledger_enter change tags world
  | looking inner =>
      refine Stage.ledger_andThen (inner.ledger_resume world) ?_
      intro found middle
      split <;> rfl
  | identifying => rfl
  | submitting instanceId batch =>
      have submitted := world.ledger_changeTags change instanceId batch
      simp only [resume]
      split
      · rename_i middle asked
        rw [asked] at submitted
        exact (World.ledger_note _ _ rfl).trans submitted
      · rename_i asked
        rwa [asked] at submitted

end SyncPoint

namespace ReconfigurePoint

theorem ledger_afterClear (result : Except Refusal TagOutcome) (world : World) :
    (afterClear result world).world.ledger = world.ledger := by
  simp only [afterClear]
  split
  · rfl
  · split
    · exact World.ledger_note _ _ rfl
    · rfl

theorem ledger_afterPush (result : Except Refusal TagOutcome) (world : World) :
    (afterPush result world).world.ledger = world.ledger := by
  simp only [afterPush]
  split
  · rfl
  · split
    · exact World.ledger_note _ _ rfl
    · rfl

theorem ledger_resume (definition : Definition) (point : ReconfigurePoint) (world : World) :
    (point.resume definition world).world.ledger = world.ledger := by
  cases point with
  | waiting => exact Stage.ledger_andThen (SyncPoint.ledger_enter _ _ _) ledger_afterClear
  | clearing tags inner => exact Stage.ledger_andThen (inner.ledger_resume _ _ _) ledger_afterClear
  | rebinding =>
      refine Stage.ledger_andThen ?_ ledger_afterPush
      exact (SyncPoint.ledger_enter _ _ _).trans (world.ledger_replace definition)
  | pushing tags inner => exact Stage.ledger_andThen (inner.ledger_resume _ _ _) ledger_afterPush

end ReconfigurePoint

/-! ## Disconnections and commands -/

namespace DisconnectPoint

theorem ledger_tear (cause : Option OfflineCause) (world : World) :
    (tear cause world).world.ledger = world.ledger :=
  world.ledger_startTeardown cause

theorem ledger_enter (cause : Option OfflineCause) (world : World) :
    (enter cause world).world.ledger = world.ledger := by
  simp only [enter]
  split
  · split
    · rfl
    · exact ledger_tear cause world
  · exact World.ledger_note _ _ rfl

theorem ledger_enterTeardown (cause : Option OfflineCause) (world : World) :
    (enterTeardown cause world).world.ledger = world.ledger := by
  simp only [enterTeardown]
  split
  · exact ledger_tear cause world
  · rfl

theorem ledger_resume (point : DisconnectPoint) (world : World) :
    (point.resume world).world.ledger = world.ledger := by
  cases point with
  | entering cause => exact ledger_enter cause world
  | requesting cause => exact (ledger_tear cause _).trans world.ledger_requestShutdown
  | tearing transfer =>
      simp only [resume]
      split
      · exact World.ledger_noteTeardown _ _
      · rfl

end DisconnectPoint

theorem StopPoint.ledger_resume (point : StopPoint) (world : World) :
    (point.resume world).world.ledger = world.ledger := by
  cases point with
  | entering => exact Stage.ledger_andThen (DisconnectPoint.ledger_enter none world) fun _ _ => rfl
  | disconnecting inner => exact Stage.ledger_andThen (inner.ledger_resume world) fun _ _ => rfl
  | binding =>
      simp only [resume]
      split
      · rfl
      · exact World.ledger_note _ _ rfl
  | commanding instanceId =>
      have commanded := world.ledger_command .stop instanceId
      simp only [resume]
      split
      · rename_i middle asked
        rw [asked] at commanded
        refine Stage.ledger_andThen ?_ fun _ _ => rfl
        exact (DisconnectPoint.ledger_enterTeardown none _).trans
          ((World.ledger_note _ _ rfl).trans commanded)
      · rename_i asked
        rwa [asked] at commanded
  | tearing inner => exact Stage.ledger_andThen (inner.ledger_resume world) fun _ _ => rfl
  | diagnosing instanceId failure inner =>
      exact Stage.ledger_andThen (inner.ledger_resume world) fun _ _ => World.ledger_note _ _ rfl

theorem TerminatePoint.ledger_resume (point : TerminatePoint) (world : World) :
    (point.resume world).world.ledger = world.ledger := by
  cases point with
  | entering => exact Stage.ledger_andThen (DisconnectPoint.ledger_enter none world) fun _ _ => rfl
  | disconnecting inner => exact Stage.ledger_andThen (inner.ledger_resume world) fun _ _ => rfl
  | binding =>
      simp only [resume]
      split
      · rfl
      · exact World.ledger_note _ _ rfl
  | commanding instanceId =>
      have commanded := world.ledger_command .terminate instanceId
      simp only [resume]
      split
      · rename_i middle asked
        rw [asked] at commanded
        exact (World.ledger_note _ _ rfl).trans commanded
      · rename_i failure middle asked
        rw [asked] at commanded
        exact (World.ledger_note _ _ rfl).trans commanded

/-! ## Reboots -/

namespace RebootPoint

theorem ledger_begin (world : World) : (begin world).world.ledger = world.ledger := by
  refine Stage.ledger_andThen ?_ fun _ _ => rfl
  refine (DisconnectPoint.ledger_enter _ _).trans ?_
  refine (World.ledger_takeOffline _ _).trans ?_
  exact (World.ledger_note _ _ rfl).trans world.ledger_openSession

theorem ledger_resume (point : RebootPoint) (world : World) :
    (point.resume world).world.ledger = world.ledger := by
  cases point with
  | entering =>
      simp only [resume]
      split <;> rfl
  | waiting => exact ledger_begin world
  | disconnecting session inner =>
      exact Stage.ledger_andThen (inner.ledger_resume world) fun _ _ => rfl
  | binding session =>
      simp only [resume]
      split
      · rfl
      · exact World.ledger_note world .rebootNotSent rfl
  | commanding session instanceId =>
      have commanded := world.ledger_command .reboot instanceId
      simp only [resume]
      split
      · rename_i middle asked
        rw [asked] at commanded
        exact (World.ledger_note middle (.rebootSent instanceId) rfl).trans commanded
      · rename_i failure middle asked
        rwa [asked] at commanded
  | diagnosing session instanceId failure inner =>
      refine Stage.ledger_andThen (inner.ledger_resume world) ?_
      intro found middle
      exact World.ledger_note middle (.rebootFailed instanceId failure (diagnosticOf found)) rfl

end RebootPoint

/-! ## All tasks but looks -/

namespace Point

theorem ledger_afterAction (caller : Caller) (action : IdleAction) (world : World) :
    (afterAction caller action world).world.ledger = world.ledger := by
  simp only [afterAction]
  split
  · split
    · exact World.ledger_note world (.idleTimeoutHandled action) rfl
    · exact (World.ledger_recordActivity _).trans (World.ledger_note _ _ rfl)
  · rfl

theorem ledger_afterStop (caller : Caller) (accepted : Bool) (world : World) :
    (afterStop caller accepted world).world.ledger = world.ledger := by
  simp only [afterStop]
  split
  · rfl
  · rfl
  · exact ledger_afterAction _ _ world

theorem ledger_afterTermination (caller : Caller) (accepted : Bool) (world : World) :
    (afterTermination caller accepted world).world.ledger = world.ledger := by
  have retiring : (if accepted then world.retire else world).ledger = world.ledger := by
    split
    · exact world.ledger_retire
    · rfl
  cases caller with
  | instanceCommand => rfl
  | nodeCommand => exact retiring
  | idleTimeout => exact (ledger_afterAction .idleTimeout _ _).trans retiring
  | watchdog watch => exact (ledger_afterAction (.watchdog watch) _ _).trans retiring

theorem ledger_afterReboot (afterBuild : Bool) (result : Except Refusal Nat) (world : World) :
    (afterReboot afterBuild result world).world.ledger = world.ledger := by
  simp only [afterReboot]
  split
  · split
    · rfl
    · exact World.ledger_note _ _ rfl
  · rfl

theorem ledger_consult (consultation : Consultation) (world : World) :
    (consult consultation world).world.ledger = world.ledger := by
  cases consultation with
  | idleAction caller =>
      simp only [consult]
      split <;> exact World.ledger_note world (.idleTimeExpired _) rfl
  | idleLimit watch =>
      simp only [consult]
      split
      · rfl
      · split
        · exact World.ledger_note _ _ rfl
        · rfl
  | rebootAfterBuild =>
      simp only [consult]
      split <;> rfl
  | _ => rfl

theorem ledger_assign (instanceId : InstanceId) (announce : Bool) (world : World) :
    (assign instanceId announce world).world.ledger = world.ledger := by
  simp only [assign, Stage.world]
  split
  · exact (World.ledger_note _ _ rfl).trans (world.ledger_bind instanceId)
  · exact world.ledger_bind instanceId

theorem ledger_rebooting (afterBuild : Bool) (inner : RebootPoint) (world : World) :
    ((rebooting afterBuild inner).resume world).world.ledger = world.ledger :=
  Stage.ledger_andThen (inner.ledger_resume world) (ledger_afterReboot afterBuild)

/-- Outside reboots and looks. -/
theorem ledger_resume {point : Point} (ordinary : point.isMonitor = false) (world : World) :
    (point.resume world).world.ledger = world.ledger := by
  cases point with
  | consulting consultation => exact ledger_consult consultation world
  | fetching query inner =>
      exact Stage.ledger_andThen (inner.ledger_resume world) fun _ _ => rfl
  | lookingUp inner => exact Stage.ledger_andThen (inner.ledger_resume world) fun _ _ => rfl
  | assigning instanceId announce => exact ledger_assign instanceId announce world
  | changingTags change =>
      exact Stage.ledger_andThen (SyncPoint.ledger_enter _ _ world) fun _ _ => rfl
  | synchronizing change tags locked inner =>
      exact Stage.ledger_andThen (inner.ledger_resume _ _ world) fun _ _ => rfl
  | reconfiguring definition inner =>
      exact Stage.ledger_andThen (inner.ledger_resume definition world) fun _ _ => rfl
  | rebooting afterBuild inner => cases ordinary
  | looking session inner => cases ordinary
  | stopping caller inner =>
      exact Stage.ledger_andThen (inner.ledger_resume world) (ledger_afterStop caller)
  | terminating caller inner =>
      exact Stage.ledger_andThen (inner.ledger_resume world) (ledger_afterTermination caller)
  | disconnecting inner => exact Stage.ledger_andThen (inner.ledger_resume world) fun _ _ => rfl
  | tearingDown cause =>
      exact Stage.ledger_andThen (DisconnectPoint.ledger_enterTeardown cause world) fun _ _ => rfl
  | startingWatch interval => exact World.ledger_note _ _ rfl
  | watching watch =>
      simp only [resume, watchLook]
      split
      · exact World.ledger_note _ _ rfl
      · rfl
  | _ => rfl

theorem ledger_notice (point : Point) (world : World) :
    (point.notice world).world.ledger = world.ledger := by
  simp only [notice]
  split
  · split
    · exact World.ledger_note _ _ rfl
    · rfl
  · rfl

end Point

end BuildAgent
