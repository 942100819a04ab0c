import BuildAgent.Node.Task
import BuildAgent.Proofs.World.Deed

/-!
# What the steps of a task do

`Point.permits` lists the deeds that a task may do in the step that it takes at a point, and
`Point.through` says that it does no others. Reboots and the looks of the reboot monitor are left
out: they also change the record of reboot sessions and the agenda, and are described with the
monitor.
-/

namespace BuildAgent

namespace Deed

def IsNote : Deed → Prop
  | note _ => True
  | _ => False

def IsLookup : Deed → Prop
  | note _ => True
  | describe _ => True
  | _ => False

def IsFetch : Deed → Prop
  | note _ => True
  | describe _ => True
  | keep _ => True
  | _ => False

def IsSync : Deed → Prop
  | note _ => True
  | describe _ => True
  | changeTags .. => True
  | _ => False

end Deed

/-- The deeds of a disconnection. The channel is torn down with the cause that was given. -/
def DisconnectPoint.permits (point : DisconnectPoint) : Deed → Prop
  | .note _ => True
  | .askToExit => True
  | .tearDown cause => point = .entering cause ∨ point = .requesting cause
  | _ => False

def StopPoint.permits (point : StopPoint) : Deed → Prop
  | .note _ => True
  | .describe _ => True
  | .command operation _ => operation = .stop
  | .askToExit => True
  | .tearDown cause =>
    match point with
    | disconnecting inner => inner.permits (.tearDown cause)
    | tearing inner => inner.permits (.tearDown cause)
    | _ => cause = none
  | _ => False

def TerminatePoint.permits (point : TerminatePoint) : Deed → Prop
  | .note _ => True
  | .command operation _ => operation = .terminate
  | .askToExit => True
  | .tearDown cause =>
    match point with
    | disconnecting inner => inner.permits (.tearDown cause)
    | _ => cause = none
  | _ => False

/-- The deeds of a reboot, between the opening of its session and the first scheduled look. -/
def RebootPoint.permits (point : RebootPoint) : Deed → Prop
  | .note _ => True
  | .describe _ => True
  | .command operation _ => operation = .reboot
  | .askToExit => True
  | .tearDown cause =>
    match point with
    | disconnecting _ inner => inner.permits (.tearDown cause)
    | _ => False
  | _ => False

namespace Point

/-- The deeds that a task may do at a point. -/
def permits : Point → Deed → Prop
  | consulting _, deed => deed.IsNote
  | readingInstanceId, _ => False
  | readingCapacity, _ => False
  | readingPhase, _ => False
  | fetching _ _, deed => deed.IsFetch
  | lookingUp _, deed => deed.IsLookup
  | assigning instanceId _, deed => deed.IsNote ∨ deed = .bind instanceId
  | changingTags _, deed => deed.IsSync
  | synchronizing .., deed => deed.IsSync
  | reconfiguring definition _, deed => deed.IsSync ∨ deed = .replace definition
  | completingBuild, deed => deed = .recordActivity
  | rebooting _ point, deed => point.permits deed
  | looking _ _, deed => deed.IsFetch
  | stopping _ point, deed => point.permits deed ∨ deed = .recordActivity
  | terminating _ point, deed => point.permits deed ∨ deed = .recordActivity ∨ deed = .retire
  | disconnecting point, deed => point.permits deed
  | tearingDown cause, deed => deed.IsNote ∨ deed = .tearDown cause
  | startingWatch _, deed => deed.IsNote
  | watching _, deed => deed.IsNote

/-- Whether a task at a point reboots the node or looks after a reboot. -/
def isMonitor : Point → Bool
  | rebooting .. => true
  | looking .. => true
  | _ => false

end Point

namespace World.Through

variable {permits : Deed → Prop} {world after : World}

theorem note (permitted : ∀ event, permits (.note event)) (event : Journal.Event) (world : World) :
    Through permits world (world.note event) :=
  single (.note event) (permitted event) world

theorem describe {instanceIds : List InstanceId}
    {answer : Except Provider.Failure (List Snapshot)} (permitted : permits (.describe instanceIds))
    (asked : (world.ask fun provider => provider.describe instanceIds) = (answer, after)) :
    Through permits world after := by
  have step := single (.describe instanceIds) permitted world
  simpa only [Deed.apply, asked] using step

theorem command {operation : Provider.Operation} {instanceId : InstanceId}
    {answer : Except Provider.Failure Unit} (permitted : permits (.command operation instanceId))
    (asked : (world.ask fun provider => provider.command operation instanceId) = (answer, after)) :
    Through permits world after := by
  have step := single (.command operation instanceId) permitted world
  simpa only [Deed.apply, asked] using step

theorem changeTags {change : TagChange} {instanceId : InstanceId} {batch : List Tag}
    {answer : Except Provider.Failure Unit}
    (permitted : permits (.changeTags change instanceId batch))
    (asked : (world.ask fun provider => provider.changeTags change instanceId batch) =
      (answer, after)) : Through permits world after := by
  have step := single (.changeTags change instanceId batch) permitted world
  simpa only [Deed.apply, asked] using step

theorem andThen {π π' ρ ρ' : Type} {stage : Stage π ρ} {wrap : π → π'}
    {next : ρ → World → Stage π' ρ'} (part : Through permits world stage.world)
    (rest : ∀ result middle, Through permits middle (next result middle).world) :
    Through permits world (stage.andThen wrap next).world := by
  cases stage with
  | pause point middle => exact part
  | done result middle => exact part.trans (rest result middle)

end World.Through

/-! ## Lookups, fetches and tags -/

theorem LookupPoint.through (point : LookupPoint) (world : World) :
    world.Through Deed.IsLookup (point.resume world).world := by
  cases point with
  | waiting =>
      simp only [resume]
      split <;> exact .refl _
  | describing instanceId =>
      simp only [resume]
      split
      · rename_i asked
        exact .describe trivial asked
      · rename_i asked
        exact .describe trivial asked

theorem FetchPoint.through (point : FetchPoint) (world : World) :
    world.Through Deed.IsFetch (point.resume world).world := by
  cases point with
  | waiting force =>
      simp only [resume]
      split
      · exact .note (fun _ => trivial) _ _
      · split <;> exact .refl _
  | describing force instanceId =>
      simp only [resume]
      split
      · rename_i found middle asked
        have described : world.Through Deed.IsFetch middle := .describe trivial asked
        exact described.trans ((World.Through.note (fun _ => trivial) _ _).trans
          (.single (.keep ⟨found.head?, some middle.clock⟩) trivial _))
      · rename_i failure middle asked
        have described : world.Through Deed.IsFetch middle := .describe trivial asked
        exact described.trans (.note (fun _ => trivial) _ _)

namespace SyncPoint

theorem through_enter (change : TagChange) (tags : List Tag) (world : World) :
    world.Through Deed.IsSync (enter change tags world).world := by
  simp only [enter]
  split
  · exact .note (fun _ => trivial) _ _
  · exact .refl _

theorem through (change : TagChange) (tags : List Tag) (point : SyncPoint) (world : World) :
    world.Through Deed.IsSync (point.resume change tags world).world := by
  cases point with
  | entering => exact through_enter change tags world
  | looking inner =>
      refine World.Through.andThen ((inner.through world).mono ?_) ?_
      · intro deed permitted
        cases deed <;> trivial
      · intro found middle
        split <;> exact .refl _
  | identifying => exact .refl _
  | submitting instanceId batch =>
      simp only [resume]
      split
      · rename_i middle asked
        exact (World.Through.changeTags trivial asked).trans (.note (fun _ => trivial) _ _)
      · rename_i asked
        exact .changeTags trivial asked

end SyncPoint

namespace ReconfigurePoint

theorem through_afterClear (result : Except Refusal TagOutcome) (world : World) :
    world.Through Deed.IsNote (afterClear result world).world := by
  simp only [afterClear]
  split
  · exact .refl _
  · split
    · exact .note (fun _ => trivial) _ _
    · exact .refl _

theorem through_afterPush (result : Except Refusal TagOutcome) (world : World) :
    world.Through Deed.IsNote (afterPush result world).world := by
  simp only [afterPush]
  split
  · exact .refl _
  · split
    · exact .note (fun _ => trivial) _ _
    · exact .refl _

theorem through (definition : Definition) (point : ReconfigurePoint) (world : World) :
    world.Through (fun deed => deed.IsSync ∨ deed = .replace definition)
      (point.resume definition world).world := by
  have noted : ∀ deed : Deed, deed.IsNote → deed.IsSync ∨ deed = .replace definition := by
    intro deed permitted
    cases deed with
    | note event => exact .inl trivial
    | _ => cases permitted
  have cleared : ∀ result (middle : World), middle.Through
      (fun deed => deed.IsSync ∨ deed = .replace definition) (afterClear result middle).world :=
    fun result middle => (through_afterClear result middle).mono noted
  have pushed : ∀ result (middle : World), middle.Through
      (fun deed => deed.IsSync ∨ deed = .replace definition) (afterPush result middle).world :=
    fun result middle => (through_afterPush result middle).mono noted
  cases point with
  | waiting =>
      exact .andThen ((SyncPoint.through_enter _ _ _).mono fun _ => .inl) cleared
  | clearing tags inner =>
      exact .andThen ((inner.through _ _ _).mono fun _ => .inl) cleared
  | rebinding =>
      refine .andThen ?_ pushed
      exact (World.Through.single (.replace definition) (.inr rfl) world).trans
        ((SyncPoint.through_enter _ _ _).mono fun _ => .inl)
  | pushing tags inner =>
      exact .andThen ((inner.through _ _ _).mono fun _ => .inl) pushed

end ReconfigurePoint

/-! ## Disconnections and commands -/

namespace World

theorem through_noteShutdown {permits : Deed → Prop} (permitted : ∀ event, permits (.note event))
    (outcome : Link.Outcome) (world : World) :
    world.Through permits (world.noteShutdown outcome) := by
  rcases outcome with fault | _
  · simp only [noteShutdown]
    split <;> exact .note permitted _ _
  · exact .note permitted _ _

theorem through_noteTeardown {permits : Deed → Prop} (permitted : ∀ event, permits (.note event))
    (outcome : Link.Outcome) (world : World) :
    world.Through permits (world.noteTeardown outcome) := by
  rcases outcome with fault | _
  · simp only [noteTeardown]
    split <;> exact .note permitted _ _
  · exact .note permitted _ _

end World

namespace DisconnectPoint

theorem through_tear {permits : Deed → Prop} {cause : Option OfflineCause}
    (permitted : permits (.tearDown cause)) (world : World) :
    world.Through permits (tear cause world).world :=
  .single (.tearDown cause) permitted world

theorem through_enter (cause : Option OfflineCause) (world : World) :
    world.Through (entering cause).permits (enter cause world).world := by
  simp only [enter]
  split
  · split
    · exact .refl _
    · exact through_tear (.inl rfl) world
  · exact .note (fun _ => trivial) _ _

theorem through_enterTeardown {permits : Deed → Prop} {cause : Option OfflineCause}
    (permitted : permits (.tearDown cause)) (world : World) :
    world.Through permits (enterTeardown cause world).world := by
  simp only [enterTeardown]
  split
  · exact through_tear permitted world
  · exact .refl _

theorem through (point : DisconnectPoint) (world : World) :
    world.Through point.permits (point.resume world).world := by
  cases point with
  | entering cause => exact through_enter cause world
  | requesting cause =>
      have asked : world.Through (requesting cause).permits world.requestShutdown :=
        (World.Through.single .askToExit trivial world).trans
          (World.through_noteShutdown (fun _ => trivial) _ _)
      exact asked.trans (through_tear (.inr rfl) _)
  | tearing transfer =>
      simp only [resume]
      split
      · exact World.through_noteTeardown (fun _ => trivial) _ _
      · exact .refl _

end DisconnectPoint

theorem StopPoint.through (point : StopPoint) (world : World) :
    world.Through point.permits (point.resume world).world := by
  cases point with
  | entering =>
      refine World.Through.andThen ((DisconnectPoint.through_enter none world).mono ?_)
        fun _ _ => .refl _
      intro deed permitted
      cases deed <;> simp_all [DisconnectPoint.permits, permits]
  | disconnecting inner =>
      refine World.Through.andThen ((inner.through world).mono ?_) fun _ _ => .refl _
      intro deed permitted
      cases deed <;> simp_all [DisconnectPoint.permits, permits]
  | binding =>
      simp only [resume]
      split
      · exact .refl _
      · exact .note (fun _ => trivial) _ _
  | commanding instanceId =>
      simp only [resume]
      split
      · rename_i middle asked
        have sent : world.Through (commanding instanceId).permits middle := .command rfl asked
        refine sent.trans (.andThen ?_ fun _ _ => .refl _)
        have tears : (commanding instanceId).permits (.tearDown none) := rfl
        exact (World.Through.note (fun _ => trivial) _ _).trans
          (DisconnectPoint.through_enterTeardown tears _)
      · rename_i asked
        exact .command rfl asked
  | tearing inner =>
      refine World.Through.andThen ((inner.through world).mono ?_) fun _ _ => .refl _
      intro deed permitted
      cases deed <;> simp_all [DisconnectPoint.permits, permits]
  | diagnosing instanceId failure inner =>
      refine World.Through.andThen ((inner.through world).mono ?_)
        fun _ _ => .note (fun _ => trivial) _ _
      intro deed permitted
      cases deed <;> trivial

theorem TerminatePoint.through (point : TerminatePoint) (world : World) :
    world.Through point.permits (point.resume world).world := by
  cases point with
  | entering =>
      refine World.Through.andThen ((DisconnectPoint.through_enter none world).mono ?_)
        fun _ _ => .refl _
      intro deed permitted
      cases deed <;> simp_all [DisconnectPoint.permits, permits]
  | disconnecting inner =>
      refine World.Through.andThen ((inner.through world).mono ?_) fun _ _ => .refl _
      intro deed permitted
      cases deed <;> simp_all [DisconnectPoint.permits, permits]
  | binding =>
      simp only [resume]
      split
      · exact .refl _
      · exact .note (fun _ => trivial) _ _
  | commanding instanceId =>
      simp only [resume]
      split
      · rename_i middle asked
        have sent : world.Through (commanding instanceId).permits middle := .command rfl asked
        exact sent.trans (.note (fun _ => trivial) _ _)
      · rename_i failure middle asked
        have sent : world.Through (commanding instanceId).permits middle := .command rfl asked
        exact sent.trans (.note (fun _ => trivial) _ _)

/-! ## All tasks -/

namespace Point

theorem through_afterAction {permits : Deed → Prop} (notes : ∀ event, permits (.note event))
    (records : permits .recordActivity) (caller : Caller) (action : IdleAction) (world : World) :
    world.Through permits (afterAction caller action world).world := by
  simp only [afterAction]
  split
  · split
    · exact .note notes _ _
    · exact (World.Through.note notes _ _).trans (.single .recordActivity records _)
  · exact .refl _

theorem through_afterStop {permits : Deed → Prop} (notes : ∀ event, permits (.note event))
    (records : permits .recordActivity) (caller : Caller) (accepted : Bool) (world : World) :
    world.Through permits (afterStop caller accepted world).world := by
  simp only [afterStop]
  split
  · exact .refl _
  · exact .refl _
  · exact through_afterAction notes records _ _ _

theorem through_afterTermination {permits : Deed → Prop} (notes : ∀ event, permits (.note event))
    (records : permits .recordActivity) (retires : permits .retire) (caller : Caller)
    (accepted : Bool) (world : World) :
    world.Through permits (afterTermination caller accepted world).world := by
  have retiring : world.Through permits (if accepted then world.retire else world) := by
    split
    · exact .single .retire retires world
    · exact .refl _
  cases caller with
  | instanceCommand => exact .refl _
  | nodeCommand => exact retiring
  | idleTimeout =>
      exact retiring.trans (through_afterAction notes records .idleTimeout _ _)
  | watchdog watch =>
      exact retiring.trans (through_afterAction notes records (.watchdog watch) _ _)

theorem through_afterReboot (afterBuild : Bool) (result : Except Refusal Nat) (world : World) :
    world.Through Deed.IsNote (afterReboot afterBuild result world).world := by
  simp only [afterReboot]
  split
  · split
    · exact .refl _
    · exact .note (fun _ => trivial) _ _
  · exact .refl _

theorem through_consult (consultation : Consultation) (world : World) :
    world.Through Deed.IsNote (consult consultation world).world := by
  have note : ∀ event (middle : World), middle.Through Deed.IsNote (middle.note event) :=
    fun event middle => .note (fun _ => trivial) event middle
  cases consultation with
  | idleAction caller =>
      simp only [consult]
      split <;> exact note _ _
  | idleLimit watch =>
      simp only [consult]
      split
      · exact .refl _
      · split
        · exact note _ _
        · exact .refl _
  | rebootAfterBuild =>
      simp only [consult]
      split <;> exact .refl _
  | _ => exact .refl _

theorem through_assign (instanceId : InstanceId) (announce : Bool) (world : World) :
    world.Through (assigning instanceId announce).permits
      (assign instanceId announce world).world := by
  have binds : (assigning instanceId announce).permits (.bind instanceId) := .inr rfl
  have bound := World.Through.single (.bind instanceId) binds world
  simp only [assign, Stage.world]
  split
  · exact bound.trans (.note (fun _ => .inl trivial) _ _)
  · exact bound

/-- Outside reboots and looks a step is made of the deeds permitted at its point. -/
theorem through {point : Point} (ordinary : point.isMonitor = false) (world : World) :
    world.Through point.permits (point.resume world).world := by
  cases point with
  | consulting consultation => exact through_consult consultation world
  | readingInstanceId => exact .refl _
  | readingCapacity => exact .refl _
  | readingPhase => exact .refl _
  | fetching query inner => exact .andThen (inner.through world) fun _ _ => .refl _
  | lookingUp inner => exact .andThen (inner.through world) fun _ _ => .refl _
  | assigning instanceId announce => exact through_assign instanceId announce world
  | changingTags change =>
      exact .andThen (SyncPoint.through_enter _ _ world) fun _ _ => .refl _
  | synchronizing change tags locked inner =>
      exact .andThen (inner.through _ _ world) fun _ _ => .refl _
  | reconfiguring definition inner =>
      exact .andThen (inner.through definition world) fun _ _ => .refl _
  | completingBuild =>
      have records : completingBuild.permits .recordActivity := rfl
      exact .single .recordActivity records world
  | rebooting afterBuild inner => cases ordinary
  | looking session inner => cases ordinary
  | stopping caller inner =>
      exact .andThen ((inner.through world).mono fun _ => .inl)
        (through_afterStop (fun _ => .inl trivial) (.inr rfl) caller)
  | terminating caller inner =>
      exact .andThen ((inner.through world).mono fun _ => .inl)
        (through_afterTermination (fun _ => .inl trivial) (.inr (.inl rfl)) (.inr (.inr rfl))
          caller)
  | disconnecting inner => exact .andThen (inner.through world) fun _ _ => .refl _
  | tearingDown cause =>
      exact .andThen (DisconnectPoint.through_enterTeardown (.inr rfl) world) fun _ _ => .refl _
  | startingWatch interval => exact .note (fun _ => trivial) _ _
  | watching watch =>
      simp only [resume, watchLook]
      split
      · exact .note (fun _ => trivial) _ _
      · exact .refl _

theorem through_notice (point : Point) (world : World) :
    world.Through Deed.IsNote (point.notice world).world := by
  simp only [notice]
  split
  · split
    · exact .note (fun _ => trivial) _ _
    · exact .refl _
  · exact .refl _

end Point

end BuildAgent
