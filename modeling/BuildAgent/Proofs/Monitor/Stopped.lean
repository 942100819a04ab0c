import BuildAgent.Proofs.Monitor.Finality
import BuildAgent.Proofs.Monitor.Timeline

/-!
# Nodes that were stopped or terminated

A node is disconnected while no session is live and no channel is present (`World.Disconnected`).
Nothing is connecting then, so of all moves only the opening of a session and a connection past the
node can end that; until then every look is superseded (`Execution.superseded_of_disconnected`). A
stop that the provider accepts tears the channel down in the same step, so the node is disconnected
from then on unless a session was live. A termination retires the node, which detaches the endpoint
for good, so there it does not matter what was going on.

Neither takes the session lock, and a stop does not end a live session. An instance that was stopped
still exists, so for the looks of that session it is alive, and they reconnect it
(`Outset.reconnects_after_stop`).

`Outset.stays_disconnected` puts all this together.
-/

namespace BuildAgent

/-- Whether a move connects the endpoint past the node. -/
def Move.connectsEndpoint : Move → Bool
  | happen (.connect _) => true
  | _ => false

namespace World

/-- Whether no session is live and no channel is present. -/
structure Disconnected (world : World) : Prop where
  inactive : world.node.session.active = false
  absent : world.isChannelPresent = false

variable {world before after : World}

theorem isChannelPresent_eq_false : world.isChannelPresent = false ↔
    (world.node.attached = true → world.endpoint.channelPresent = false) := by
  cases attached : world.node.attached <;> simp [isChannelPresent, attached]

theorem Through.isChannelPresent {permits : Deed → Prop} (through : before.Through permits after)
    (absent : before.isChannelPresent = false) : after.isChannelPresent = false := by
  rw [isChannelPresent_eq_false] at absent ⊢
  intro attached
  exact through.channel_absent (absent (through.attached_of_attached attached))

/-- Without a live session nothing is connecting. -/
theorem HoldsAttempts.resting (holds : world.HoldsAttempts)
    (inactive : world.node.session.active = false) (number : Nat) : ¬world.IsConnecting number := by
  intro connecting
  have live := holds.live number (holds.known number connecting)
  simp [inactive] at live

end World

theorem Happening.isChannelPresent_apply {happening : Happening} {world : World}
    (own : (Move.happen happening).connectsEndpoint = false)
    (absent : world.isChannelPresent = false) :
    (happening.apply world).isChannelPresent = false := by
  rw [World.isChannelPresent_eq_false] at absent ⊢
  rw [(happening.frame_apply world).1]
  intro attached
  cases happening with
  | connect explicit => cases own
  | setCause cause => exact absent attached
  | mark offline cause => exact absent attached
  | tearDown cause => rfl
  | _ =>
      rw [(Happening.sameStatus_apply rfl world).channel]
      exact absent attached

theorem Move.isChannelPresent_outside {move : Move} {change : World → World}
    (changes : move.outside? = some change) (past : move.connectsEndpoint = false) {world : World}
    (resting : ∀ number, ¬world.IsConnecting number) (absent : world.isChannelPresent = false) :
    (change world).isChannelPresent = false := by
  cases Move.outside_of_outside? changes with
  | bringOn transfer =>
      rw [World.isChannelPresent, (world.node_bringOn transfer).1,
        (World.sameStatus_bringOn (resting transfer)).channel]
      exact absent
  | retire =>
      have through : world.Through (fun _ => True) world.retire := .single .retire trivial world
      exact through.isChannelPresent absent
  | happen happening => exact Happening.isChannelPresent_apply past absent
  | aside _ _ aside =>
      rw [World.isChannelPresent, (aside world).attached, (aside world).endpoint]
      exact absent

/-! ## Nothing reconnects a node without a session -/

/-- A step that opens no session leaves a node that is disconnected so. -/
theorem Point.Effect.disconnected {point : Point} {next : Option Point} {before after : World}
    (effect : point.Effect before next after) (disconnected : before.Disconnected)
    (unopened : after.node.session.generation = before.node.session.generation) :
    after.Disconnected := by
  cases effect with
  | kept through tick works =>
      exact ⟨through.session_eq ▸ disconnected.inactive,
        through.isChannelPresent disconnected.absent⟩
  | engaged looks current managed attached idle => exact disconnected
  | superseded looks stale => exact ⟨disconnected.inactive, disconnected.absent⟩
  | opened reboots works resets causes marked =>
      rw [resets.session] at unopened
      simp [Reboot.Session.start] at unopened
  | concluded reboots works through scheduled =>
      subst scheduled
      exact ⟨through.session_eq ▸ disconnected.inactive,
        through.isChannelPresent disconnected.absent⟩
  | decided tick current effect =>
      simp [Reboot.Session.isCurrent, disconnected.inactive] at current

namespace Execution

variable {before after execution : Execution} {move : Move} {look : Look}

theorem Step.disconnected (step : before.Step move after) (sound : before.Sound)
    (holds : before.world.HoldsAttempts) (disconnected : before.world.Disconnected)
    (past : move.connectsEndpoint = false)
    (unopened : after.world.node.session.generation = before.world.node.session.generation) :
    after.world.Disconnected := by
  cases step with
  | idle move => exact disconnected
  | outside move change changes =>
      refine ⟨?_, ?_⟩
      · rw [withWorld, (Move.frame_outside changes before.world).1]
        exact disconnected.inactive
      · exact Move.isChannelPresent_outside changes past (holds.resting disconnected.inactive)
          disconnected.absent
  | started number request fresh => exact disconnected
  | looked number session delay agenda fresh scheduled =>
      refine ⟨by simpa using disconnected.inactive, ?_⟩
      simpa [World.isChannelPresent] using disconnected.absent
  | lost number session delay agenda scheduled dropped =>
      refine ⟨by simpa [withWorld] using disconnected.inactive, ?_⟩
      simpa [withWorld, World.isChannelPresent] using disconnected.absent
  | advanced move earlier later task stage split takes =>
      exact (takes.effect sound.guarded (mem_of_eq_append split)).disconnected disconnected unopened

/-- A look that is not superseded is one of the live session. -/
theorem superseded_or_current (sound : execution.Sound)
    (found : execution.look? move = some look) : look.outcome = .superseded ∨
      execution.world.node.session.isCurrent look.session = true := by
  have verdict := verdict_of_look? sound found
  generalize look.outcome = outcome at verdict ⊢
  cases verdict with
  | superseded stale kept ledger agenda => exact .inl rfl
  | started attempt current => exact .inr current
  | pending attempt current => exact .inr current
  | retried attempt current => exact .inr current
  | ended outcome ending current => exact .inr current

/-- As long as no session is opened, only the looks of the newest session are not superseded. -/
theorem superseded_or_newest (sound : execution.Sound) {moves : List Move}
    (unopened : (execution.run moves).world.node.session.generation =
      execution.world.node.session.generation) (ended : look ∈ execution.timeline moves) :
    look.outcome = .superseded ∨ look.session = execution.world.node.session.generation := by
  rcases List.append_of_mem ended with ⟨past, future, split⟩
  rcases timeline_eq_append split with ⟨earlier, move, later, rfl, _, found, _⟩
  refine (superseded_or_current (sound.run earlier) found).imp_right ?_
  intro current
  have first := sound.generation_le_run earlier
  have rest := (sound.run earlier).generation_le_run (move :: later)
  rw [run_append] at unopened
  simp only [Reboot.Session.isCurrent, Bool.and_eq_true, decide_eq_true_eq] at current
  omega

/-- A node that is disconnected stays so until a session is opened or somebody connects the endpoint
past the node, and all looks until then are superseded. -/
theorem superseded_of_disconnected (sound : execution.Sound)
    (holds : execution.world.HoldsAttempts) (disconnected : execution.world.Disconnected)
    (moves : List Move) (past : ∀ move, move ∈ moves → move.connectsEndpoint = false)
    (unopened : (execution.run moves).world.node.session.generation =
      execution.world.node.session.generation) :
    (execution.run moves).world.Disconnected ∧
      ∀ look, look ∈ execution.timeline moves → look.outcome = .superseded := by
  induction moves generalizing execution with
  | nil => exact ⟨disconnected, fun _ ended => nomatch ended⟩
  | cons move moves hypothesis =>
      have step := step_apply sound.orderly move
      have later : Sound (execution.apply move) := sound.step step
      have first := (step.tally sound).generation_le
      have rest := later.generation_le_run moves
      have same : (execution.apply move).world.node.session.generation =
          execution.world.node.session.generation := by
        have whole : ((execution.apply move).run moves).world.node.session.generation =
            execution.world.node.session.generation := unopened
        omega
      have still := step.disconnected sound holds disconnected (past move List.mem_cons_self) same
      rcases hypothesis later (holds.turn (step.turn sound)) still
        (fun other others => past other (List.mem_cons_of_mem move others))
        (unopened.trans same.symm) with ⟨last, superseded⟩
      refine ⟨last, ?_⟩
      intro look ended
      rw [timeline, List.mem_append] at ended
      rcases ended with now | after
      · refine (superseded_or_current sound (Option.mem_toList.mp now)).resolve_right ?_
        simp [Reboot.Session.isCurrent, disconnected.inactive]
      · exact superseded look after

end Execution

/-! ## What the commands do -/

namespace StopPoint

/-- Whether the provider has accepted the stop. -/
def isAccepted : StopPoint → Bool
  | tearing _ => true
  | _ => false

/-- Whether a step leads past the acceptance by the provider. -/
def accepts : Stage StopPoint Bool → Bool
  | .pause next _ => next.isAccepted
  | .done accepted _ => accepted

theorem accepts_andThen {π ρ : Type} (stage : Stage π ρ) {wrap : π → StopPoint}
    {next : ρ → World → Stage StopPoint Bool} (points : ∀ point, (wrap point).isAccepted = false)
    (results : ∀ result world, accepts (next result world) = false) :
    accepts (stage.andThen wrap next) = false := by
  cases stage with
  | pause point world => exact points point
  | done result world => exact results result world

/-- A stop is past its acceptance only through the step that sends the command. -/
theorem accepts_resume {point : StopPoint} {world : World}
    (accepted : accepts (point.resume world) = true) : point.isAccepted = true ∨
      ∃ instanceId, point = .commanding instanceId ∧
        (world.ask fun provider => provider.command .stop instanceId).1 = .ok () := by
  cases point with
  | tearing inner => exact .inl rfl
  | commanding instanceId =>
      right
      refine ⟨instanceId, rfl, ?_⟩
      rcases asked : (world.ask fun provider => provider.command .stop instanceId) with
        ⟨failure | _, middle⟩
      · simp [resume, asked, accepts, isAccepted] at accepted
      · rfl
  | binding =>
      simp only [resume] at accepted
      split at accepted <;> cases accepted
  | entering =>
      rw [resume, accepts_andThen _ (fun _ => rfl) fun _ _ => rfl] at accepted
      cases accepted
  | disconnecting inner =>
      rw [resume, accepts_andThen _ (fun _ => rfl) fun _ _ => rfl] at accepted
      cases accepted
  | diagnosing instanceId failure inner =>
      rw [resume, accepts_andThen _ (fun _ => rfl) fun _ _ => rfl] at accepted
      cases accepted

/-- The step in which the provider accepts the stop tears the channel down. -/
theorem resume_commanding {instanceId : InstanceId} {world : World}
    (accepted : (world.ask fun provider => provider.command .stop instanceId).1 = .ok ()) :
    ((commanding instanceId).resume world).world.isChannelPresent = false ∧
      ((commanding instanceId).resume world).world.node = world.node := by
  have node := (world.frame_ask fun provider => provider.command .stop instanceId).1
  rcases asked : (world.ask fun provider => provider.command .stop instanceId) with
    ⟨answer, middle⟩
  rw [asked] at accepted node
  subst accepted
  simp only [resume, asked, DisconnectPoint.enterTeardown, DisconnectPoint.tear]
  split
  · simpa [Stage.world, World.isChannelPresent, Endpoint.teardown] using node
  · rename_i detached
    have still : middle.node.attached = false := by simpa using detached
    exact ⟨by simp [Stage.world, World.isChannelPresent, still], node⟩

end StopPoint

/-- Where a task stands that was asked to stop the instance or to terminate it. -/
def Request.Commands : Request → Point → Prop
  | stop, point => ∃ inner, point = .stopping .instanceCommand inner
  | terminate, point => ∃ inner, point = .terminating .nodeCommand inner
  | _, _ => True

theorem Request.commands_entry (request : Request) : request.Commands request.entry := by
  cases request with
  | stop => exact ⟨_, rfl⟩
  | terminate => exact ⟨_, rfl⟩
  | _ => trivial

theorem Request.Commands.of_takes {execution : Execution} {task : Task} {move : Move}
    {next : Point} {world : World} (commands : task.request.Commands task.point)
    (takes : execution.Takes task move (.pause next world)) : task.request.Commands next := by
  rcases task with ⟨number, request, point⟩
  generalize stage_eq : Stage.pause next world = stage at takes
  cases request with
  | stop =>
      rcases commands with ⟨inner, stands⟩
      cases stands
      cases takes with
      | notice news => cases news
      | resume ready =>
          rcases Stage.andThen_eq_pause stage_eq.symm with ⟨later, _, rfl⟩ | ⟨_, _, _, ended⟩
          · exact ⟨later, rfl⟩
          · cases ended
  | terminate =>
      rcases commands with ⟨inner, stands⟩
      cases stands
      cases takes with
      | notice news => cases news
      | resume ready =>
          rcases Stage.andThen_eq_pause stage_eq.symm with ⟨later, _, rfl⟩ | ⟨_, _, _, ended⟩
          · exact ⟨later, rfl⟩
          · cases ended
  | _ => trivial

namespace Execution

variable {before after execution : Execution} {move : Move} {task : Task} {number : Nat}

/-- Every task that was asked for a command works on it. -/
def Commanded (execution : Execution) : Prop :=
  ∀ task, task ∈ execution.running → task.request.Commands task.point

theorem Commanded.step (commanded : before.Commanded) (step : before.Step move after) :
    after.Commanded := by
  cases step with
  | idle move => exact commanded
  | outside move change changes => exact commanded
  | started number request fresh =>
      intro task running
      rw [List.mem_append, List.mem_singleton] at running
      rcases running with old | rfl
      · exact commanded task old
      · exact request.commands_entry
  | looked number session delay agenda fresh scheduled =>
      intro task running
      rw [List.mem_append, List.mem_singleton] at running
      rcases running with old | rfl
      · exact commanded task old
      · trivial
  | lost number session delay agenda scheduled dropped => exact commanded
  | advanced move earlier later task stage split takes =>
      intro other others
      rcases mem_replace.mp others with left | still
      · rcases mem_remaining left with ⟨next, world, rfl, rfl⟩
        exact (commanded task (mem_of_eq_append split)).of_takes takes
      · exact commanded other (mem_of_split split still)

/-- Whether the next step of a task is the one in which the provider accepts its stop. -/
def AcceptsStop (execution : Execution) (number : Nat) : Prop :=
  ∃ task instanceId, task ∈ execution.running ∧ task.number = number ∧
    task.point = .stopping .instanceCommand (.commanding instanceId) ∧
    (execution.world.ask fun provider => provider.command .stop instanceId).1 = .ok ()

theorem AcceptsStop.apply (accepts : execution.AcceptsStop number)
    (orderly : execution.Orderly) :
    (execution.apply (.resume number)).world.isChannelPresent = false ∧
      (execution.apply (.resume number)).world.node = execution.world.node := by
  rcases accepts with ⟨task, instanceId, running, rfl, stands, accepted⟩
  have ready : execution.isReady task = true := by
    rw [isReady, stands]
    rfl
  rw [(resume_of_mem orderly running ready).1, stands]
  have sent := StopPoint.resume_commanding accepted
  simp only [Point.resume]
  generalize (StopPoint.commanding instanceId).resume execution.world = stage at sent ⊢
  cases stage with
  | pause later middle => exact sent
  | done result middle => exact sent

end Execution

/-! ## Commands that were accepted -/

namespace Execution

variable {before after execution : Execution} {move : Move} {task : Task}

theorem Takes.acceptsStop {stage : Stage Point Answer} {inner : StopPoint}
    (takes : execution.Takes task move stage) (running : task ∈ execution.running)
    (stands : task.point = .stopping .instanceCommand inner)
    (accepted : StopPoint.accepts (inner.resume execution.world) = true) :
    inner.isAccepted = true ∨ move = .resume task.number ∧ execution.AcceptsStop task.number := by
  rcases StopPoint.accepts_resume accepted with past | ⟨instanceId, rfl, answered⟩
  · exact .inl past
  · cases takes with
    | notice news => simp [stands, Point.hasNews] at news
    | resume ready => exact .inr ⟨rfl, task, instanceId, running, rfl, stands, answered⟩

/-- A task that stands past the acceptance of its stop stood so before, or the stop was accepted in
this step. -/
theorem Takes.acceptsStop_of_pause {next : Point} {world : World} {later : StopPoint}
    (takes : execution.Takes task move (.pause next world)) (running : task ∈ execution.running)
    (stands : next = .stopping .instanceCommand later) (accepted : later.isAccepted = true) :
    (∃ inner, task.point = .stopping .instanceCommand inner ∧ inner.isAccepted = true) ∨
      move = .resume task.number ∧ execution.AcceptsStop task.number := by
  have outside : next.isEntrance = false := by
    rw [stands]
    cases later with
    | entering => cases accepted
    | _ => rfl
  generalize stage_eq : Stage.pause next world = stage at takes
  have paused := stage_eq.symm
  cases takes with
  | notice news =>
      rcases Point.eq_or_isEntrance_of_notice paused with same | entrance
      · exact .inl ⟨later, same ▸ stands, accepted⟩
      · simp [outside] at entrance
  | resume ready =>
      generalize point_eq : task.point = point at paused
      cases Point.leads_of_resume paused with
      | stopping caller begun =>
          rename_i inner following
          cases stands
          have goes : StopPoint.accepts (inner.resume execution.world) = true := by
            rw [begun]
            exact accepted
          rcases (Takes.resume ready).acceptsStop running point_eq goes with past | accepts
          · exact .inl ⟨inner, rfl, past⟩
          · exact .inr accepts
      | elsewhere entrance => simp [outside] at entrance
      | _ => cases stands

/-- A stop returns true only past its acceptance. -/
theorem Takes.acceptsStop_of_done {world : World} {inner : StopPoint}
    (takes : execution.Takes task move (.done (.truth true) world))
    (running : task ∈ execution.running)
    (stands : task.point = .stopping .instanceCommand inner) :
    inner.isAccepted = true ∨ move = .resume task.number ∧ execution.AcceptsStop task.number := by
  refine takes.acceptsStop running stands ?_
  generalize stage_eq : Stage.done (Answer.truth true) world = stage at takes
  cases takes with
  | notice news => simp [stands, Point.hasNews] at news
  | resume ready =>
      rw [stands, Point.resume] at stage_eq
      cases ended : inner.resume execution.world with
      | pause later middle => simp [ended] at stage_eq
      | done result middle =>
          rw [ended] at stage_eq
          cases stage_eq
          rfl

/-- Who is past the acceptance of a stop, or was told that it was accepted, is one of those whose
stop was accepted. -/
structure StopsAccepted (execution : Execution) (accepted : Nat → Prop) : Prop where
  running : ∀ task inner, task ∈ execution.running → task.point = .stopping .instanceCommand inner →
    inner.isAccepted = true → accepted task.number
  reported : ∀ number, ⟨number, .stop, .truth true⟩ ∈ execution.reports → accepted number

theorem StopsAccepted.step {accepted accepted' : Nat → Prop}
    (stops : before.StopsAccepted accepted) (commanded : before.Commanded)
    (step : before.Step move after) (older : ∀ number, accepted number → accepted' number)
    (newer : ∀ number, move = .resume number → before.AcceptsStop number → accepted' number) :
    after.StopsAccepted accepted' := by
  have kept : ∀ task inner, task ∈ before.running →
      task.point = .stopping .instanceCommand inner → inner.isAccepted = true →
      accepted' task.number := fun task inner running stands past =>
    older _ (stops.running task inner running stands past)
  have told : ∀ number, ⟨number, .stop, .truth true⟩ ∈ before.reports → accepted' number :=
    fun number reported => older _ (stops.reported number reported)
  cases step with
  | idle move => exact ⟨kept, told⟩
  | outside move change changes => exact ⟨kept, told⟩
  | started number request fresh =>
      refine ⟨?_, told⟩
      intro task inner running stands past
      rw [List.mem_append, List.mem_singleton] at running
      rcases running with old | rfl
      · exact kept task inner old stands past
      · cases request <;> cases stands
        cases past
  | looked number session delay agenda fresh scheduled =>
      refine ⟨?_, told⟩
      intro task inner running stands past
      rw [List.mem_append, List.mem_singleton] at running
      rcases running with old | rfl
      · exact kept task inner old stands past
      · cases stands
  | lost number session delay agenda scheduled dropped => exact ⟨kept, told⟩
  | advanced move earlier later task stage split takes =>
      have running := mem_of_eq_append split
      constructor
      · intro other inner others stands past
        rcases mem_replace.mp others with left | still
        · rcases mem_remaining left with ⟨next, world, rfl, rfl⟩
          rcases takes.acceptsStop_of_pause running stands past with ⟨own, stood, past⟩ | now
          · exact kept task own running stood past
          · exact newer _ now.1 now.2
        · exact kept other inner (mem_of_split split still) stands past
      · intro number reported
        rcases List.mem_append.mp reported with ends | old
        · cases stage with
          | pause next world => cases ends
          | done answer world =>
              simp only [Stage.reported, List.mem_singleton, Report.mk.injEq] at ends
              rcases ends with ⟨rfl, asked, rfl⟩
              have works := commanded task running
              rw [← asked] at works
              rcases works with ⟨inner, stands⟩
              rcases takes.acceptsStop_of_done running stands with past | now
              · exact kept task inner running stands past
              · exact newer _ now.1 now.2
        · exact told number old

end Execution

namespace Outset

/-- Whether the provider has accepted the stop with a number. -/
def HasAccepted (outset : Outset) (moves : List Move) (number : Nat) : Prop :=
  ∃ earlier later, moves = earlier ++ .resume number :: later ∧
    (outset.execution.run earlier).AcceptsStop number

theorem commanded_run (outset : Outset) (moves : List Move) :
    (outset.execution.run moves).Commanded := by
  refine outset.sound_execution.run_induction (fun _ => True) Execution.Commanded ?_ ?_ moves
    fun _ _ => trivial
  · intro before after move sound _ step commanded
    exact commanded.step step
  · intro task running
    cases running

theorem stopsAccepted_run (outset : Outset) (moves : List Move) :
    (outset.execution.run moves).StopsAccepted (outset.HasAccepted moves) := by
  induction moves using List.reverseRecOn with
  | nil =>
      constructor
      · intro task inner running
        cases running
      · intro number reported
        cases reported
  | append_singleton moves move hypothesis =>
      rw [Execution.run_append]
      refine hypothesis.step (outset.commanded_run moves)
        (Execution.step_apply (outset.sound_run moves).orderly move) ?_ ?_
      · rintro number ⟨earlier, later, rfl, accepts⟩
        exact ⟨earlier, later ++ [move], by simp, accepts⟩
      · rintro number rfl accepts
        exact ⟨moves, [], rfl, accepts⟩

end Outset

/-! ## Terminations -/

namespace LookPoint

/-- A look at a retired node finds its session over or gives it up. -/
theorem outcome_of_retired {session : Nat} {world after : World} {point : LookPoint}
    {outcome : LookOutcome} (retired : world.node.retired = true)
    (detached : world.node.attached = false)
    (ended : point.resume session world = .done outcome after) :
    outcome = .superseded ∨ ∃ reason, outcome = .abandoned reason := by
  cases point with
  | waiting =>
      simp only [resume, begin, retired, if_true] at ended
      split at ended
      · cases ended
        exact .inl rfl
      · cases ended
        exact .inr ⟨.nodeRetired, rfl⟩
  | refreshing fetch =>
      have attached := fetch.attached_resume world
      rcases fetched : fetch.resume world with ⟨later, middle⟩ | ⟨found, middle⟩
      · simp [resume, fetched] at ended
      · rw [fetched] at attached
        have still : middle.node.attached = false := attached.trans detached
        rcases afterFetch_of_detached still session found with ⟨reason, abandoned⟩
        simp only [resume, fetched, Stage.andThen_done, abandoned] at ended
        cases ended
        exact .inr ⟨reason, rfl⟩

end LookPoint

namespace Execution

variable {before after execution : Execution} {move : Move} {task : Task}

/-- A termination on behalf of the node that returns true has retired the node. -/
theorem Takes.retires {world : World} {inner : TerminatePoint}
    (takes : execution.Takes task move (.done (.truth true) world))
    (stands : task.point = .terminating .nodeCommand inner) : world.node.retired = true := by
  generalize stage_eq : Stage.done (Answer.truth true) world = stage at takes
  cases takes with
  | notice news => simp [stands, Point.hasNews] at news
  | resume ready =>
      rw [stands, Point.resume] at stage_eq
      cases ended : inner.resume execution.world with
      | pause later middle => simp [ended] at stage_eq
      | done result middle =>
          rw [ended] at stage_eq
          cases result with
          | false => cases stage_eq
          | true =>
              cases stage_eq
              exact middle.retired_retire

/-- Whether the node is retired if a termination on its behalf has returned true. -/
def RetiredOnceTerminated (execution : Execution) : Prop :=
  ∀ number, ⟨number, .terminate, .truth true⟩ ∈ execution.reports →
    execution.world.node.retired = true

theorem RetiredOnceTerminated.step (retires : before.RetiredOnceTerminated) (sound : before.Sound)
    (commanded : before.Commanded) (step : before.Step move after) :
    after.RetiredOnceTerminated := by
  have kept := step.retired sound
  intro number reported
  cases step with
  | idle move => exact retires number reported
  | outside move change changes => exact kept (retires number reported)
  | started number request fresh => exact retires _ reported
  | looked number session delay agenda fresh scheduled => exact kept (retires _ reported)
  | lost number session delay agenda scheduled dropped => exact kept (retires _ reported)
  | advanced move earlier later task stage split takes =>
      rcases List.mem_append.mp reported with ends | old
      · cases stage with
        | pause next world => cases ends
        | done answer world =>
            simp only [Stage.reported, List.mem_singleton, Report.mk.injEq] at ends
            rcases ends with ⟨rfl, asked, rfl⟩
            have works := commanded task (mem_of_eq_append split)
            rw [← asked] at works
            rcases works with ⟨inner, stands⟩
            exact takes.retires stands
      · exact kept (retires number old)

end Execution

namespace Outset

theorem retiredOnceTerminated_run (outset : Outset) (moves : List Move) :
    (outset.execution.run moves).RetiredOnceTerminated := by
  have both := outset.sound_execution.run_induction (fun _ => True) (fun execution =>
    execution.Commanded ∧ execution.RetiredOnceTerminated) ?_
    ⟨outset.commanded_run [], nofun⟩ moves fun _ _ => trivial
  · exact both.2
  · rintro before after move sound _ step ⟨commanded, retires⟩
    exact ⟨commanded.step step, retires.step sound commanded step⟩

/-- The looks at a retired node end their sessions. -/
theorem ending_of_retired (outset : Outset) (earlier later : List Move)
    (retired : (outset.execution.run earlier).world.node.retired = true) {look : Look}
    (ended : look ∈ (outset.execution.run earlier).timeline later) :
    look.outcome = .superseded ∨ ∃ reason, look.outcome = .abandoned reason := by
  rcases List.append_of_mem ended with ⟨past, future, split⟩
  rcases Execution.timeline_eq_append split with ⟨first, move, rest, rfl, _, found, _⟩
  rcases Execution.look_of_look? found with ⟨_, task, inner, after, _, _, _, _, stopped⟩
  have since := outset.detachedSince_run earlier first retired
  rw [Execution.run_append] at since
  exact LookPoint.outcome_of_retired since.since.retired since.detached stopped

/-- **A node that was stopped or terminated stays disconnected.** A stop returns true only when the
provider has accepted it. From then on, until a session is opened or somebody connects the endpoint
past the node, all looks are superseded but those of the session that was live. If none was, the
node has no channel all that time and nothing is connecting. When a termination has returned true,
no channel is ever present at the node again and no connection is started, whatever was going on:
every look that follows is superseded or gives its session up. -/
theorem stays_disconnected (outset : Outset) (moves : List Move) :
    let now := outset.execution.run moves
    (∀ number, ⟨number, .stop, .truth true⟩ ∈ now.reports → ∃ earlier later,
      moves = earlier ++ .resume number :: later ∧
        (outset.execution.run earlier).AcceptsStop number) ∧
    (∀ earlier number later, moves = earlier ++ .resume number :: later →
      let start := outset.execution.run earlier
      start.AcceptsStop number →
      now.world.node.session.generation = start.world.node.session.generation →
      (∀ move, move ∈ later → move.connectsEndpoint = false) →
      (∀ look, look ∈ (start.apply (.resume number)).timeline later →
        look.outcome = .superseded ∨ start.world.node.session.isCurrent look.session = true) ∧
      (start.world.node.session.active = false → now.world.isChannelPresent = false ∧
        ∀ transfer, ¬now.world.IsConnecting transfer)) ∧
    (∀ number, ⟨number, .terminate, .truth true⟩ ∈ now.reports → ∀ later,
      (now.run later).world.isChannelPresent = false ∧
      GoesOn now.world.transfers (now.run later).world.transfers ∧
      ∀ look, look ∈ now.timeline later →
        look.outcome = .superseded ∨ ∃ reason, look.outcome = .abandoned reason) := by
  intro now
  refine ⟨(outset.stopsAccepted_run moves).reported, ?_, ?_⟩
  · intro earlier number later split start accepts unopened past
    have sound : start.Sound := outset.sound_run earlier
    have stopped := accepts.apply sound.orderly
    have reached : (start.apply (.resume number)).run later = now := by
      simp only [start, now, split, Execution.run_append]
      rfl
    have step := Execution.step_apply sound.orderly (.resume number)
    have holds := (outset.holdsAttempts_run earlier).turn (step.turn sound)
    have since : ((start.apply (.resume number)).run later).world.node.session.generation =
        (start.apply (.resume number)).world.node.session.generation := by
      rw [reached, stopped.2]
      exact unopened
    rcases live : start.world.node.session.active with _ | _
    · have disconnected : (start.apply (.resume number)).world.Disconnected :=
        ⟨by rw [stopped.2]; exact live, stopped.1⟩
      have last := Execution.superseded_of_disconnected (sound.step step) holds disconnected later
        past since
      rw [reached] at last
      have stillHolds : now.world.HoldsAttempts := outset.holdsAttempts_run moves
      refine ⟨fun look ended => .inl (last.2 look ended), ?_⟩
      intro _
      exact ⟨last.1.absent, stillHolds.resting last.1.inactive⟩
    · refine ⟨?_, nofun⟩
      intro look ended
      refine (Execution.superseded_or_newest (sound.step step) since ended).imp_right ?_
      intro newest
      rw [stopped.2] at newest
      simp [Reboot.Session.isCurrent, live, newest]
  · intro number terminated later
    have retired : now.world.node.retired = true :=
      outset.retiredOnceTerminated_run moves number terminated
    have since := outset.detachedSince_run moves later retired
    rw [Execution.run_append] at since
    refine ⟨?_, since.goesOn, fun look ended => outset.ending_of_retired moves later retired ended⟩
    have detached : (now.run later).world.node.attached = false := since.detached
    simp [World.isChannelPresent, detached]

/-- A stop of a running instance, as the only thing that is done. -/
def stopped : List Move :=
  [.start 0 .stop, .resume 0, .resume 0, .resume 0, .resume 0, .resume 0]

/-- A node that was stopped on its own has no channel; one that was terminated has none either, and
nothing that follows gives it one. -/
theorem stays_disconnected_alone :
    let terminated := (Outset.onInstance someInstance).execution.run
      [.start 0 .terminate, .resume 0, .resume 0, .resume 0, .resume 0]
    ((Outset.onInstance someInstance).execution.run stopped).world.isChannelPresent = false ∧
      (terminated.apply (.happen (.connect true))).world.isChannelPresent = false := by
  intro terminated
  constructor
  · have stays := ((Outset.onInstance someInstance).stays_disconnected stopped).2.1
      [.start 0 .stop, .resume 0, .resume 0, .resume 0] 0 [.resume 0] rfl
      ⟨⟨0, .stop, .stopping .instanceCommand (.commanding someInstance)⟩, someInstance,
        List.mem_singleton.mpr rfl, rfl, rfl, rfl⟩ rfl (by decide)
    exact (stays.2 rfl).1
  · have reports : terminated.reports = [⟨0, .terminate, .truth true⟩] := rfl
    have stays := ((Outset.onInstance someInstance).stays_disconnected
      [.start 0 .terminate, .resume 0, .resume 0, .resume 0, .resume 0]).2.2 0
      (by rw [reports]; exact List.mem_singleton.mpr rfl) [.happen (.connect true)]
    exact stays.1

/-- A reboot up to the look that it schedules, and a stop that the provider accepts. -/
def rebootedThenStopped : List Move :=
  [.start 0 .reboot, .resume 0, .resume 0, .resume 0, .resume 0, .resume 0, .start 1 .stop,
    .resume 1, .resume 1, .resume 1, .resume 1, .resume 1]

/-- A stop does not end the session that is live: although it has returned true and the instance is
stopped, the first look that follows starts an attempt, and the second finds the channel present. -/
theorem reconnects_after_stop :
    let now := (Outset.onInstance someInstance).execution.run rebootedThenStopped
    let looks : List Move :=
      [.runMonitor 2, .resume 2, .resume 2, .resume 2, .runMonitor 3, .resume 3]
    ⟨1, .stop, .truth true⟩ ∈ now.reports ∧
      (now.world.provider.find? someInstance).map Snapshot.state = some .stopped ∧
      now.world.isChannelPresent = false ∧
      (now.timeline looks).map Look.outcome = [.attemptStarted, .online] ∧
      (now.run looks).world.isChannelPresent = true := by
  refine ⟨List.mem_cons_self, rfl, rfl, rfl, rfl⟩

end Outset

end BuildAgent
