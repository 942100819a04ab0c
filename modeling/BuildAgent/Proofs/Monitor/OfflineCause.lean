import BuildAgent.Proofs.Monitor.Attempts
import BuildAgent.Proofs.Monitor.Verdicts
import BuildAgent.Proofs.Task.Causes

/-!
# The newest session owns the offline cause

While a live session waits for its node to come back, the endpoint is marked as offline, the cause
is the session's own reboot, and no channel is present. Many hands write the cause: disconnections,
attempts to connect that fail, perhaps late, and the monitor itself. The invariant
`Execution.Marked` holds because an attempt of an older session is broken off before a reboot sets
its cause, and because a reboot holds the session lock until its channel is down. In between, the
channel may still be there: then a reboot stands at the request that asks the agent to exit
(`Point.isPreparing`).

The provider's side, an operator and whoever tears the channel down by hand may write the endpoint
as well; `Move.isOwn` leaves them out.
-/

namespace BuildAgent

namespace Endpoint

/-- Whether the endpoint is marked as offline for the reboot of a session. -/
structure IsMarkedFor (endpoint : Endpoint) (session : Nat) : Prop where
  offline : endpoint.temporarilyOffline = true
  cause : endpoint.cause = some (.reboot session)

/-- Whether the flag, the cause and the channel are as before. -/
structure SameStatus (before after : Endpoint) : Prop where
  offline : after.temporarilyOffline = before.temporarilyOffline
  cause : after.cause = before.cause
  channel : after.channelPresent = before.channelPresent

theorem SameStatus.of_eq {before after : Endpoint} (same : after = before) :
    before.SameStatus after :=
  ⟨by rw [same], by rw [same], by rw [same]⟩

theorem SameStatus.isMarkedFor {before after : Endpoint} (same : before.SameStatus after)
    {session : Nat} (marked : before.IsMarkedFor session) : after.IsMarkedFor session :=
  ⟨same.offline.trans marked.offline, same.cause.trans marked.cause⟩

end Endpoint

/-! ## What deeds do to the endpoint -/

namespace Deed

/-- Only a teardown touches the status of the endpoint. -/
theorem sameStatus_apply (deed : Deed) (world : World) (other : ∀ cause, deed ≠ .tearDown cause) :
    world.endpoint.SameStatus (deed.apply world).endpoint := by
  cases deed with
  | tearDown cause => exact absurd rfl (other cause)
  | _ =>
      constructor <;> simp [apply, Endpoint.requestShutdown]

/-- Retirement detaches the node. -/
theorem coupled_apply (deed : Deed) (world : World)
    (coupled : world.node.attached = !world.node.retired) :
    (deed.apply world).node.attached = !(deed.apply world).node.retired := by
  by_cases retires : deed = .retire
  · subst retires
    rcases world.node_retire with kept | kept
    · simpa [apply, kept] using coupled
    · simp [apply, kept]
  · have standing := deed.standing_apply world retires
    rw [standing.1, standing.2, coupled]

end Deed

namespace World.Through

variable {permits : Deed → Prop} {before after : World}

theorem coupled (through : Through permits before after)
    (coupled : before.node.attached = !before.node.retired) :
    after.node.attached = !after.node.retired := by
  induction through with
  | refl => exact coupled
  | tail _ step held =>
      rcases step with ⟨deed, _, rfl⟩
      exact deed.coupled_apply _ held

theorem attached_of_attached (through : Through permits before after)
    (attached : after.node.attached = true) : before.node.attached = true := by
  induction through with
  | refl => exact attached
  | tail _ step earlier =>
      rcases step with ⟨deed, _, rfl⟩
      refine earlier ?_
      by_cases retires : deed = .retire
      · subst retires
        rename_i middle _ _
        rcases middle.node_retire with kept | kept
        · simpa [Deed.apply, kept] using attached
        · simp [Deed.apply, kept] at attached
      · rwa [(deed.standing_apply _ retires).2] at attached

/-- Deeds that write no other cause leave the mark of a session. -/
theorem isMarkedFor {session : Nat} (through : Through permits before after)
    (causes : ∀ cause, permits (.tearDown cause) → cause = none ∨ cause = some (.reboot session))
    (marked : before.endpoint.IsMarkedFor session) : after.endpoint.IsMarkedFor session := by
  induction through with
  | refl => exact marked
  | tail _ step earlier =>
      rcases step with ⟨deed, permitted, rfl⟩
      by_cases tears : ∃ cause, deed = .tearDown cause
      · rcases tears with ⟨cause, rfl⟩
        rcases causes cause permitted with rfl | rfl
        · constructor
          · simpa [Deed.apply, Endpoint.teardown] using earlier.offline
          · simpa [Deed.apply, Endpoint.teardown] using earlier.cause
        · constructor
          · simpa [Deed.apply, Endpoint.teardown] using earlier.offline
          · simp [Deed.apply, Endpoint.teardown]
      · have other : ∀ cause, deed ≠ .tearDown cause := fun cause same => tears ⟨cause, same⟩
        exact (deed.sameStatus_apply _ other).isMarkedFor earlier

theorem channel_absent (through : Through permits before after)
    (absent : before.endpoint.channelPresent = false) :
    after.endpoint.channelPresent = false := by
  induction through with
  | refl => exact absent
  | tail _ step earlier =>
      rcases step with ⟨deed, permitted, rfl⟩
      by_cases tears : ∃ cause, deed = .tearDown cause
      · rcases tears with ⟨cause, rfl⟩
        simp [Deed.apply, Endpoint.teardown]
      · have other : ∀ cause, deed ≠ .tearDown cause := fun cause same => tears ⟨cause, same⟩
        rw [(deed.sameStatus_apply _ other).channel]
        exact earlier

end World.Through

/-! ## Moves that leave the endpoint to the node -/

/-- Whether a change from outside leaves the status of the endpoint alone. -/
def Happening.sparesEndpoint : Happening → Bool
  | setCause _ => false
  | mark .. => false
  | tearDown _ => false
  | connect _ => false
  | _ => true

/-- Whether a move leaves the status of the endpoint to the node and to the attempts that it
started. -/
def Move.isOwn : Move → Bool
  | start _ (.disconnect cause) => cause.isNone
  | start _ (.tearDown cause) => cause.isNone
  | happen happening => happening.sparesEndpoint
  | _ => true

theorem Happening.sameStatus_apply {happening : Happening}
    (spares : happening.sparesEndpoint = true) (world : World) :
    world.endpoint.SameStatus (happening.apply world).endpoint := by
  cases happening with
  | setCause cause => cases spares
  | mark offline cause => cases spares
  | tearDown cause => cases spares
  | connect explicit => cases spares
  | _ =>
      constructor <;>
        simp [apply, World.withProvider, World.withEndpoint, World.withLatencies,
          Endpoint.requestShutdown]

/-- Only a connection that is under way writes the endpoint when it is brought on. -/
theorem World.sameStatus_bringOn {world : World} {number : Nat}
    (resting : ¬world.IsConnecting number) :
    world.endpoint.SameStatus (world.bringOn number).endpoint := by
  simp only [bringOn]
  split
  · rename_i explicit due found
    exact absurd ⟨_, found, rfl⟩ resting
  · split <;> exact ⟨rfl, rfl, rfl⟩
  · exact ⟨rfl, rfl, rfl⟩

theorem Move.sameStatus_outside {move : Move} {change : World → World}
    (changes : move.outside? = some change) (own : move.isOwn = true) {world : World}
    (holds : world.HoldsAttempts) (idle : world.node.session.attempt = none) :
    world.endpoint.SameStatus (change world).endpoint := by
  cases Move.outside_of_outside? changes with
  | bringOn transfer =>
      refine World.sameStatus_bringOn ?_
      intro connecting
      have held := holds.known transfer connecting
      rw [idle] at held
      cases held
  | retire => exact .of_eq world.frame_retire.1
  | happen happening => exact Happening.sameStatus_apply own world
  | aside _ _ aside => exact .of_eq (aside world).endpoint

theorem Move.coupled_outside {move : Move} {change : World → World}
    (changes : move.outside? = some change) {world : World}
    (coupled : world.node.attached = !world.node.retired) :
    (change world).node.attached = !(change world).node.retired ∧
      ((change world).node.attached = true → world.node.attached = true) := by
  cases Move.outside_of_outside? changes with
  | bringOn transfer =>
      rw [(world.node_bringOn transfer).1]
      exact ⟨coupled, id⟩
  | retire =>
      have through : world.Through (fun _ => True) world.retire := .single .retire trivial world
      exact ⟨through.coupled coupled, through.attached_of_attached⟩
  | happen happening =>
      rw [(happening.frame_apply world).1]
      exact ⟨coupled, id⟩
  | aside _ _ aside =>
      rw [(aside world).attached, (aside world).retired]
      exact ⟨coupled, id⟩

/-! ## What tasks do to the endpoint -/

namespace Point

/-- Whether a reboot at a point asks the agent to exit before it tears the channel down. -/
def isPreparing : Point → Bool
  | rebooting _ (.disconnecting _ (.requesting _)) => true
  | _ => false

theorem holds_of_isPreparing {point : Point} (preparing : point.isPreparing = true) :
    point.holds .session = true := by
  simp only [isPreparing] at preparing
  split at preparing
  · rfl
  · cases preparing

theorem channel_of_isPreparing {point : Point} (preparing : point.isPreparing = true)
    (world : World) : (point.resume world).world.endpoint.channelPresent = false := by
  simp only [isPreparing] at preparing
  split at preparing
  · rename_i afterBuild session cause
    have torn : (world.requestShutdown.startTeardown cause).2.endpoint.channelPresent = false := by
      simp [Endpoint.teardown]
    exact torn
  · cases preparing

namespace Effect

variable {point : Point} {next : Option Point} {before after : World}

theorem coupled (effect : point.Effect before next after)
    (coupled : before.node.attached = !before.node.retired) :
    after.node.attached = !after.node.retired ∧
      (after.node.attached = true → before.node.attached = true) := by
  rcases effect.standing with same | ⟨middle, through, same⟩
  · simp only [Node.standing, Prod.mk.injEq] at same
    rw [same.1, same.2.1]
    exact ⟨coupled, id⟩
  · rw [same]
    exact ⟨through.coupled coupled, through.attached_of_attached⟩

theorem session?_eq {later : Point} (effect : point.Effect before (some later) after)
    {session : Nat} (works : point.session? = some session) : later.session? = some session := by
  generalize next_eq : some later = next at effect
  cases effect with
  | kept through tick same =>
      subst next_eq
      exact same.trans works
  | engaged looks current managed attached idle =>
      subst looks
      cases works
  | opened reboots own resets causes marked =>
      subst reboots
      cases works
  | superseded looks stale => cases next_eq
  | concluded reboots own through scheduled => cases next_eq
  | decided tick current effect => cases next_eq

end Effect

/-- A task writes no cause, or that of the session on which it works. -/
def OwnsCauses (point : Point) : Prop :=
  ∀ cause, point.permits (.tearDown cause) → cause = none ∨
    ∃ session, point.session? = some session ∧ cause = some (.reboot session)

theorem OwnsCauses.passOn {point next : Point} {before after : World} (owns : point.OwnsCauses)
    (effect : point.Effect before (some next) after)
    (given : ∀ cause, next.permits (.tearDown cause) →
      point.permits (.tearDown cause) ∨ cause = none) : next.OwnsCauses := by
  intro cause permitted
  rcases given cause permitted with earlier | nothing
  · rcases owns cause earlier with nothing | ⟨session, works, rfl⟩
    · exact .inl nothing
    · exact .inr ⟨session, effect.session?_eq works, rfl⟩
  · exact .inl nothing

theorem OwnsCauses.resume {point next : Point} {world after : World} (owns : point.OwnsCauses)
    (effect : point.Effect world (some next) after)
    (paused : point.resume world = .pause next after) : next.OwnsCauses := by
  by_cases reboots : ∃ afterBuild, point = .rebooting afterBuild .waiting
  · -- The one step in which a task is given a new cause.
    rcases reboots with ⟨afterBuild, rfl⟩
    intro cause permitted
    rcases RebootPoint.begin_eq world with ⟨inner, opened, begun, works, _, causes, _⟩
    simp only [Point.resume, RebootPoint.resume, begun, Stage.andThen_pause,
      Stage.pause.injEq] at paused
    rcases paused with ⟨rfl, rfl⟩
    exact .inr ⟨_, works, causes cause permitted⟩
  · refine owns.passOn effect ?_
    intro cause permitted
    refine permits_of_resume ?_ paused permitted
    intro afterBuild same
    exact reboots ⟨afterBuild, same⟩

theorem OwnsCauses.notice {point next : Point} {world after : World} (owns : point.OwnsCauses)
    (effect : point.Effect world (some next) after)
    (paused : point.notice world = .pause next after) : next.OwnsCauses := by
  refine owns.passOn effect ?_
  intro cause permitted
  exact permits_of_notice paused permitted

theorem ownsCauses_entry {number : Nat} {request : Request}
    (own : (Move.start number request).isOwn = true) : request.entry.OwnsCauses := by
  intro cause permitted
  left
  cases request with
  | disconnect given =>
      rcases permitted with entering | requesting
      · cases entering
        simpa [Move.isOwn] using own
      · cases requesting
  | tearDown given =>
      rcases permitted with notes | tears
      · cases notes
      · cases tears
        simpa [Move.isOwn] using own
  | stop =>
      rcases permitted with stops | records
      · exact stops
      · cases records
  | terminateInstance =>
      rcases permitted with stops | records | retires
      · exact stops
      · cases records
      · cases retires
  | terminate =>
      rcases permitted with stops | records | retires
      · exact stops
      · cases records
      · cases retires
  | reconfigure definition =>
      rcases permitted with tags | replaces
      · cases tags
      · cases replaces
  | assign instanceId announce =>
      rcases permitted with notes | binds
      · cases notes
      · cases binds
  | completeBuild => cases permitted
  | _ => cases permitted

end Point

/-! ## The invariant -/

/-- Whether the live session waits for its node to come back, and the endpoint is still there. -/
structure World.Awaits (world : World) : Prop where
  attached : world.node.attached = true
  active : world.node.session.active = true
  idle : world.node.session.attempt = none

theorem Reboot.Session.eq_of_isCurrent {record : Reboot.Session} {session : Nat}
    (current : record.isCurrent session = true) : record.generation = session := by
  simp only [isCurrent, Bool.and_eq_true, decide_eq_true_eq] at current
  exact current.2

/-- A step keeps the mark of the session that waits, and no step of another task brings a channel
up. -/
theorem Point.Effect.marked {point : Point} {next : Option Point} {before after : World}
    (effect : point.Effect before next after) (owns : point.OwnsCauses)
    (live : ∀ session, point.session? = some session →
      before.node.session.isCurrent session = true)
    (coupled : before.node.attached = !before.node.retired)
    (marked : before.Awaits → before.endpoint.IsMarkedFor before.node.session.generation)
    (awaits : after.Awaits) :
    after.endpoint.IsMarkedFor after.node.session.generation ∧
      (after.endpoint.channelPresent = false ∨ next.any Point.isPreparing = true ∨
        before.Awaits ∧ before.endpoint.channelPresent = true) := by
  have attached := (effect.coupled coupled).2 awaits.attached
  have of_through : ∀ middle : World, before.Through point.permits middle →
      middle.node.session.active = true → middle.node.session.attempt = none →
      middle.endpoint.IsMarkedFor middle.node.session.generation ∧
        (middle.endpoint.channelPresent = false ∨
          before.Awaits ∧ before.endpoint.channelPresent = true) := by
    intro middle through active idle
    have session := through.session_eq
    rw [session] at active idle ⊢
    have earlier : before.Awaits := ⟨attached, active, idle⟩
    refine ⟨through.isMarkedFor ?_ (marked earlier), ?_⟩
    · intro cause permitted
      rcases owns cause permitted with nothing | ⟨own, works, rfl⟩
      · exact .inl nothing
      · rw [Reboot.Session.eq_of_isCurrent (live own works)]
        exact .inr rfl
    · rcases channel : before.endpoint.channelPresent with _ | _
      · exact .inl (through.channel_absent channel)
      · exact .inr ⟨earlier, rfl⟩
  cases effect with
  | kept through tick works =>
      rcases of_through _ through awaits.active awaits.idle with ⟨mark, channel⟩
      exact ⟨mark, channel.imp_right .inr⟩
  | engaged looks current managed still idle =>
      refine ⟨marked awaits, ?_⟩
      rcases channel : before.endpoint.channelPresent with _ | _
      · exact .inl rfl
      · exact .inr (.inr ⟨awaits, rfl⟩)
  | superseded looks stale =>
      have earlier : before.Awaits := ⟨awaits.attached, awaits.active, awaits.idle⟩
      refine ⟨marked earlier, ?_⟩
      rcases channel : before.endpoint.channelPresent with _ | _
      · exact .inl channel
      · exact .inr (.inr ⟨earlier, rfl⟩)
  | opened reboots works resets causes opened =>
      rcases opened attached with ⟨offline, cause, channel⟩
      have generation : after.node.session.generation = before.node.session.generation + 1 :=
        congrArg Reboot.Session.generation resets.session
      refine ⟨⟨offline, by rw [cause, generation]⟩, ?_⟩
      rcases channel with absent | requests
      · exact .inl absent
      · subst requests
        exact .inr (.inl rfl)
  | concluded reboots works through scheduled =>
      subst scheduled
      rcases of_through _ through awaits.active awaits.idle with ⟨mark, channel⟩
      exact ⟨mark, channel.imp_right .inr⟩
  | decided tick current effect =>
      cases effect with
      | closed outcome resets =>
          have active := awaits.active
          rw [resets.session] at active
          cases active
      | started attempt idle attempts =>
          have none_held := awaits.idle
          rw [attempts.record] at none_held
          cases none_held
      | rechecked attempt delay busy underWay scheduled =>
          subst scheduled
          have none_held : before.node.session.attempt = none := awaits.idle
          rw [busy] at none_held
          cases none_held
      | retried attempt busy ended retries =>
          rw [retries.generation, Reboot.Session.eq_of_isCurrent current, retries.endpoint]
          exact ⟨⟨rfl, rfl⟩, .inl retries.channel⟩

namespace Execution

/-- A task goes on to write no other causes than it did. -/
theorem Takes.ownsCauses {before : Execution} {move : Move} {task : Task} {next : Point}
    {world : World} (takes : before.Takes task move (.pause next world))
    (sound : before.Sound) (running : task ∈ before.running) (owns : task.point.OwnsCauses) :
    next.OwnsCauses := by
  have effect := takes.effect sound.guarded running
  generalize stage_eq : Stage.pause next world = stage at takes
  cases takes with
  | resume ready => exact owns.resume effect stage_eq.symm
  | notice news => exact owns.notice effect stage_eq.symm

/-- The endpoint is marked for the session that waits, and no channel is present unless a reboot is
about to tear it down. -/
structure Marked (execution : Execution) : Prop where
  coupled : execution.world.node.attached = !execution.world.node.retired
  owns : ∀ task, task ∈ execution.running → task.point.OwnsCauses
  marked : execution.world.Awaits →
    execution.world.endpoint.IsMarkedFor execution.world.node.session.generation
  channel : execution.world.Awaits → execution.world.endpoint.channelPresent = false ∨
    ∃ task, task ∈ execution.running ∧ task.point.isPreparing = true

namespace Marked

variable {before after : Execution} {move : Move}

theorem of_sameStatus {world : World} (marks : before.Marked) {running : List Task}
    (kept : ∀ task, task ∈ before.running → task ∈ running)
    (owns : ∀ task, task ∈ running → task.point.OwnsCauses)
    (coupled : world.node.attached = !world.node.retired)
    (session : world.node.session = before.world.node.session)
    (attached : world.node.attached = true → before.world.node.attached = true)
    (same : before.world.node.session.attempt = none →
      before.world.endpoint.SameStatus world.endpoint)
    (reports : List Report) (nextNumber : Nat) :
    Marked ⟨world, running, reports, nextNumber⟩ := by
  have earlier : world.Awaits → before.world.Awaits := by
    intro awaits
    exact ⟨attached awaits.attached, session ▸ awaits.active, session ▸ awaits.idle⟩
  refine ⟨coupled, owns, ?_, ?_⟩
  · intro awaits
    have mark := marks.marked (earlier awaits)
    dsimp only
    rw [session]
    exact (same (earlier awaits).idle).isMarkedFor mark
  · intro awaits
    rcases marks.channel (earlier awaits) with absent | ⟨task, running, preparing⟩
    · exact .inl ((same (earlier awaits).idle).channel.trans absent)
    · exact .inr ⟨task, kept task running, preparing⟩

theorem started (marks : before.Marked) {world : World} {number : Nat} {request : Request}
    (own : (Move.start number request).isOwn = true)
    (node : world.node = before.world.node) (endpoint : world.endpoint = before.world.endpoint) :
    Marked { before with
      world
      running := before.running ++ [⟨number, request, request.entry⟩]
      nextNumber := number + 1 } := by
  refine marks.of_sameStatus ?_ ?_ (by rw [node]; exact marks.coupled) (by rw [node])
    (by rw [node]; exact id) (fun _ => .of_eq endpoint) _ _
  · intro task running
    exact List.mem_append_left _ running
  · intro task running
    rw [List.mem_append, List.mem_singleton] at running
    rcases running with old | rfl
    · exact marks.owns task old
    · exact Point.ownsCauses_entry own

theorem advanced (marks : before.Marked) (sound : before.Sound) {earlier later : List Task}
    {task : Task} {stage : Stage Point Answer} (split : before.running = earlier ++ task :: later)
    (takes : before.Takes task move stage) :
    (before.replace earlier task later stage).Marked := by
  have running := mem_of_eq_append split
  have effect := takes.effect sound.guarded running
  have live := fun session works => (sound.guarded task running session works).1
  have keeps := effect.marked (marks.owns task running) live marks.coupled marks.marked
  refine ⟨(effect.coupled marks.coupled).1, ?_, fun awaits => (keeps awaits).1, ?_⟩
  · intro other others
    rcases mem_replace.mp others with left | still
    · rcases mem_remaining left with ⟨next, world, stage_eq, rfl⟩
      subst stage_eq
      exact takes.ownsCauses sound running (marks.owns task running)
    · exact marks.owns other (mem_of_split split still)
  · intro awaits
    rcases (keeps awaits).2 with absent | prepares | ⟨waited, present⟩
    · exact .inl absent
    · cases stage with
      | pause next world =>
          exact .inr ⟨{ task with point := next }, mem_replace.mpr (.inl (.head _)), prepares⟩
      | done answer world => cases prepares
    · rcases marks.channel waited with absent | ⟨other, others, preparing⟩
      · simp [present] at absent
      · rw [split] at others
        by_cases itself : other = task
        · -- The step after the request tears the channel down.
          subst itself
          cases takes with
          | resume ready => exact .inl (Point.channel_of_isPreparing preparing before.world)
          | notice news =>
              rcases Point.obstacle_of_hasNews news with ⟨deadline, timed⟩
              simp only [Point.isPreparing] at preparing
              split at preparing
              · rename_i point_eq
                rw [point_eq] at timed
                cases timed
              · cases preparing
        · refine .inr ⟨other, mem_replace.mpr (.inr ?_), preparing⟩
          simpa [itself] using others

theorem step (marks : before.Marked) (sound : before.Sound) (holds : before.world.HoldsAttempts)
    (own : move.isOwn = true) (step : before.Step move after) : after.Marked := by
  cases step with
  | idle move => exact marks
  | outside move change changes =>
      rcases Move.coupled_outside changes marks.coupled with ⟨coupled, attached⟩
      exact marks.of_sameStatus (fun _ => id) marks.owns coupled
        (Move.frame_outside changes before.world).1 attached
        (Move.sameStatus_outside changes own holds) _ _
  | started number request fresh => exact marks.started own rfl rfl
  | looked number session delay agenda fresh scheduled =>
      have frame := before.world.frame_withAgenda delay agenda
      have ownLook : (Move.start number (.look session)).isOwn = true := rfl
      exact marks.started ownLook frame.1 frame.2.1
  | lost number session delay agenda scheduled dropped =>
      have frame := before.world.frame_withAgenda delay agenda
      refine marks.of_sameStatus (fun _ => id) marks.owns ?_ ?_ ?_ ?_ _ _
      · simpa using marks.coupled
      · simp
      · simp
      · intro _
        exact .of_eq frame.2.1
  | advanced move earlier later task stage split takes => exact marks.advanced sound split takes

theorem isRebootFor_of_fetched (marks : before.Marked) (sound : before.Sound) {task : Task}
    (running : task ∈ before.running) {session : Nat} {fetch : FetchPoint}
    (looks : task.point = .looking session (.refreshing fetch))
    (managed : before.world.node.retired = false) {found : Option Snapshot} {middle : World}
    (fetched : fetch.resume before.world = .done found middle) :
    (middle.offlineCause.any fun cause => cause.isRebootFor session) = true := by
  have works : task.point.session? = some session := by
    rw [looks]
    rfl
  rcases sound.guarded task running session works with ⟨current, idle⟩
  have attached : before.world.node.attached = true := by simp [marks.coupled, managed]
  have active : before.world.node.session.active = true := by
    simp only [Reboot.Session.isCurrent, Bool.and_eq_true] at current
    exact current.1
  have mark := marks.marked ⟨attached, active, idle⟩
  rw [Reboot.Session.eq_of_isCurrent current] at mark
  have through := fetch.through before.world
  rw [fetched] at through
  have later : middle.endpoint.IsMarkedFor session := by
    refine through.isMarkedFor ?_ mark
    intro cause permitted
    cases permitted
  have still : middle.node.attached = true := by
    have standing := (World.Quiet.of_through (fun retires => retires) through).standing
    simp only [Node.standing, Prod.mk.injEq] at standing
    exact standing.2.1.trans attached
  simp [World.offlineCause, still, later.cause, OfflineCause.isRebootFor]

theorem retired_of_retired (marks : before.Marked) (sound : before.Sound)
    (step : before.Step move after) (retired : before.world.node.retired = true) :
    after.world.node.retired = true := by
  have of_detached : after.world.node.attached = !after.world.node.retired →
      (after.world.node.attached = true → before.world.node.attached = true) →
      after.world.node.retired = true := by
    intro coupled attached
    by_contra managed
    have present := attached (by simpa [coupled] using managed)
    simp [marks.coupled, retired] at present
  cases step with
  | idle move => exact retired
  | outside move change changes =>
      rcases Move.coupled_outside changes marks.coupled with ⟨coupled, attached⟩
      exact of_detached coupled attached
  | started number request fresh => exact retired
  | looked number session delay agenda fresh scheduled => simpa using retired
  | lost number session delay agenda scheduled dropped =>
      simpa [withWorld] using retired
  | advanced move earlier later task stage split takes =>
      have effect := takes.effect sound.guarded (mem_of_eq_append split)
      rcases effect.coupled marks.coupled with ⟨coupled, attached⟩
      exact of_detached coupled attached

end Marked

/-- A session was given up for another cause only after the node was retired. -/
def SparesSessions (execution : Execution) : Prop :=
  ∀ report, report ∈ execution.reports →
    report.answer = .looked (.abandoned .noLongerRebooting) →
    execution.world.node.retired = true

theorem SparesSessions.step {before after : Execution} {move : Move}
    (spares : before.SparesSessions) (marks : before.Marked) (sound : before.Sound)
    (step : before.Step move after) :
    after.SparesSessions := by
  intro report reported answered
  have old : report ∈ before.reports → after.world.node.retired = true := fun earlier =>
    marks.retired_of_retired sound step (spares report earlier answered)
  cases step with
  | idle move => exact old reported
  | outside move change changes => exact old reported
  | started number request fresh => exact old reported
  | looked number session delay agenda fresh scheduled => exact old reported
  | lost number session delay agenda scheduled dropped => exact old reported
  | advanced move earlier later task stage split takes =>
      rcases List.mem_append.mp reported with new | earlier
      · cases stage with
        | pause next world => cases new
        | done answer world =>
            rw [List.mem_singleton.mp new] at answered
            simp only at answered
            subst answered
            -- The look fetched the instance and saw another cause: the node was retired before.
            rcases takes.looked with ⟨session, inner, looks, ended⟩
            rcases LookPoint.refreshing_of_abandoned ended (.inr rfl) with
              ⟨fetch, found, middle, rfl, fetched, given⟩
            have running := mem_of_eq_append split
            have changed := LookPoint.stillRebooting_of_abandoned given
            refine marks.retired_of_retired sound (.advanced _ _ _ _ _ split takes) ?_
            by_contra managed
            have kept := marks.isRebootFor_of_fetched sound running looks (by simpa using managed)
              fetched
            simp [changed] at kept
      · exact old earlier

end Execution

namespace Outset

variable (outset : Outset) (moves : List Move)

theorem marked_run (own : ∀ move, move ∈ moves → move.isOwn = true) :
    (outset.execution.run moves).Marked ∧ (outset.execution.run moves).SparesSessions := by
  have all := outset.sound_execution.run_induction (fun move => move.isOwn = true)
    (fun execution => execution.world.HoldsAttempts ∧ execution.Marked ∧
      execution.SparesSessions) ?_ ?_ moves own
  · exact all.2
  · rintro before after move sound own step ⟨holds, marks, spares⟩
    exact ⟨holds.turn (step.turn sound), marks.step sound holds own step,
      spares.step marks sound step⟩
  · refine ⟨outset.holdsAttempts_run [], ⟨rfl, ?_, ?_, ?_⟩, ?_⟩
    · intro task running
      cases running
    · intro awaits
      cases awaits.active
    · intro awaits
      cases awaits.active
    · intro report reported
      cases reported

/-- **The newest session owns the offline cause.** After any moves in any order that leave the
endpoint to the node and to the attempts that it started: while no task holds the session lock and
the session of a node that is not retired waits for its reboot, the endpoint is marked as offline,
its cause is the reboot of that very session, and no channel is present. So a look gives a session
up for another cause only if the node was retired, and every look that comes to compare the cause
finds that of its session. -/
theorem owns_offline_cause (own : ∀ move, move ∈ moves → move.isOwn = true) :
    (∀ session, (outset.execution.run moves).isFree .session = true →
      (outset.execution.run moves).world.node.retired = false →
      (outset.execution.run moves).world.node.session.phase = .awaitingReboot →
      (outset.execution.run moves).world.node.session.generation = session →
      (outset.execution.run moves).world.endpoint.temporarilyOffline = true ∧
        (outset.execution.run moves).world.endpoint.cause = some (.reboot session) ∧
        (outset.execution.run moves).world.endpoint.channelPresent = false) ∧
    (∀ report, report ∈ (outset.execution.run moves).reports →
      report.answer = .looked (.abandoned .noLongerRebooting) →
      (outset.execution.run moves).world.node.retired = true) ∧
    (∀ task session fetch found middle, task ∈ (outset.execution.run moves).running →
      task.point = .looking session (.refreshing fetch) →
      (outset.execution.run moves).world.node.retired = false →
      fetch.resume (outset.execution.run moves).world = .done found middle →
      (middle.offlineCause.any fun cause => cause.isRebootFor session) = true) := by
  rcases outset.marked_run moves own with ⟨marks, spares⟩
  refine ⟨?_, spares, ?_⟩
  · rintro session free managed waits rfl
    have awaits : (outset.execution.run moves).world.Awaits := by
      simp only [Reboot.Session.phase] at waits
      split at waits
      · rename_i active
        split at waits
        · cases waits
        · rename_i idle
          exact ⟨by simp [marks.coupled, managed], active, by simpa using idle⟩
      · cases waits
    refine ⟨(marks.marked awaits).offline, (marks.marked awaits).cause, ?_⟩
    rcases marks.channel awaits with absent | ⟨task, running, preparing⟩
    · exact absent
    · have holds := Point.holds_of_isPreparing preparing
      simp [Execution.not_holds_of_isFree free running] at holds
  · intro task session fetch found middle running looks managed fetched
    exact marks.isRebootFor_of_fetched (outset.sound_run moves) running looks managed fetched

/-- After a reboot of a node without an instance its endpoint shows the first session. -/
theorem owns_offline_cause_plain :
    (plain.execution.run
      [.start 0 .reboot, .resume 0, .resume 0, .resume 0, .resume 0]).world.endpoint.cause =
        some (.reboot 1) :=
  ((plain.owns_offline_cause [.start 0 .reboot, .resume 0, .resume 0, .resume 0, .resume 0]
    (by decide)).1 1 rfl rfl rfl rfl).2.1

end Outset

end BuildAgent
