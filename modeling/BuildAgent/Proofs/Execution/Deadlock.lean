import BuildAgent.Proofs.Monitor.Detached
import BuildAgent.Proofs.Monitor.Progress
import BuildAgent.Proofs.Task.Uninterrupted

/-!
# Tasks never block each other for good

A task waits for at most one lock at a time, and the locks are taken in one order: who holds the
cache lock waits for no lock, and who holds the session lock or the definition lock waits for the
cache lock at most. So no task waits for a lock that it holds, tasks never wait for each other in
a circle, and whoever is blocked waits, in the end, for a task that can go on by itself
(`Outset.never_deadlocked`).

Such a task is ready, or it waits for a time or for the end of a teardown. Time passes, and every
teardown that a task waits for ends by itself: that is the invariant `Execution.Teardowns`. It needs
to be known of every procedure that disconnects, and that no step of any task loses work on the link
(`Point.proceeds_resume`).
-/

namespace BuildAgent

/-! ## No work on the link is lost -/

/-- Whether all work on the link is still there, and has at most gone on. Other than `GoesOn` this
allows new connections. -/
def Proceeds (before after : List Transfer) : Prop :=
  ∀ (number : Nat) (transfer : Transfer), before[number]? = some transfer →
    ∃ later, after[number]? = some later ∧ transfer.Advances later

namespace Proceeds

variable {first second third : List Transfer}

theorem refl (transfers : List Transfer) : Proceeds transfers transfers :=
  (GoesOn.refl transfers).kept

theorem trans (earlier : Proceeds first second) (later : Proceeds second third) :
    Proceeds first third := by
  intro number transfer found
  rcases earlier number transfer found with ⟨middle, foundMiddle, toMiddle⟩
  rcases later number middle foundMiddle with ⟨last, foundLast, toLast⟩
  exact ⟨last, foundLast, toMiddle.trans toLast⟩

theorem append (transfers added : List Transfer) : Proceeds transfers (transfers ++ added) := by
  intro number transfer found
  have inside : number < transfers.length := (List.getElem?_eq_some_iff.mp found).1
  exact ⟨transfer, by rw [List.getElem?_append_left inside, found], .refl transfer⟩

end Proceeds

theorem World.IsClosing.proceeds {before after : World} {number : Nat}
    (closing : before.IsClosing number) (proceeds : Proceeds before.transfers after.transfers) :
    after.IsClosing number := by
  rcases closing with ⟨transfer, found, resting⟩
  rcases proceeds number transfer found with ⟨later, foundLater, advances⟩
  refine ⟨later, foundLater, ?_⟩
  by_contra connecting
  simp [advances.connecting (by simpa using connecting)] at resting

namespace LookPoint

variable {session : Nat}

theorem proceeds_abandon (session : Nat) (reason : Reboot.AbandonReason) (world : World) :
    Proceeds world.transfers (abandon session reason world).2.transfers :=
  (resets_abandon session reason world).goesOn.kept

theorem proceeds_startAttempt (session delay : Nat) (world : World) :
    Proceeds world.transfers (startAttempt session delay world).2.transfers := by
  simp only [startAttempt, World.connect?]
  split
  · exact proceeds_abandon session .endpointGone world
  · rename_i attempt begun connected
    split at connected
    · rcases (world.note (.startingConnection false)).startConnection_eq false with
        ⟨_, _, _, transfer, transfers, _⟩
      simp only [Option.some.injEq] at connected
      rw [connected] at transfers
      have appended : begun.transfers = world.transfers ++ [transfer] := transfers
      simp only [World.frame_scheduleMonitor, World.frame_withSession, World.frame_note, appended]
      exact .append _ _
    · cases connected

theorem proceeds_act (session : Nat) (observation : Reboot.Observation) (world : World) :
    Proceeds world.transfers (act session observation world).2.transfers := by
  simp only [act]
  cases world.node.timings.reboot.decide observation world.node.session.launchFailures with
  | startAttempt recheckAfter => exact proceeds_startAttempt session recheckAfter world
  | recheck after => exact .refl _
  | online => exact (resets_online session world).goesOn.kept
  | retryLaunch after =>
      simp only [retryLaunch, World.frame_scheduleMonitor, World.frame_takeOffline,
        World.frame_note, World.frame_withSession]
      exact .refl _
  | abandon reason => exact proceeds_abandon session reason world

theorem proceeds_begin (session : Nat) (world : World) :
    Proceeds world.transfers (begin session world).world.transfers := by
  simp only [begin]
  split
  · exact .refl _
  split
  · exact proceeds_abandon session .nodeRetired world
  split
  · exact proceeds_abandon session .endpointGone world
  split
  · exact .refl _
  · split
    · exact proceeds_act session .attemptPending world
    · rename_i ended known
      have taken := (frame_takeAttempt ended world).2.2.1
      have acted := proceeds_act session
        (.attemptFinished (takeAttempt ended world).isChannelPresent
          (takeAttempt ended world).offlineCause) (takeAttempt ended world)
      rw [taken] at acted
      exact acted

theorem proceeds_resume (session : Nat) (point : LookPoint) (world : World) :
    Proceeds world.transfers (point.resume session world).world.transfers := by
  cases point with
  | waiting => exact proceeds_begin session world
  | refreshing fetch =>
      have through := fetch.through world
      rcases fetched : fetch.resume world with ⟨later, middle⟩ | ⟨found, middle⟩
      · rw [fetched] at through
        simp only [resume, fetched]
        exact through.goesOn.kept
      · rw [fetched] at through
        simp only [resume, fetched, Stage.andThen_done]
        exact .trans through.goesOn.kept (proceeds_act session _ middle)

end LookPoint

/-- No step of a task loses work on the link. -/
theorem Point.proceeds_resume (point : Point) (world : World) :
    Proceeds world.transfers (point.resume world).world.transfers := by
  cases point with
  | rebooting afterBuild inner => exact (goesOn_rebooting afterBuild inner world).kept
  | looking session inner =>
      have proceeds := inner.proceeds_resume session world
      rcases ran : inner.resume session world with ⟨later, middle⟩ | ⟨result, middle⟩ <;>
      · rw [ran] at proceeds
        simp only [resume, ran]
        exact proceeds
  | _ => exact (through rfl world).goesOn.kept

theorem Execution.Step.proceeds {before after : Execution} {move : Move}
    (step : before.Step move after) :
    Proceeds before.world.transfers after.world.transfers := by
  cases step with
  | idle move => exact .refl _
  | outside move change changes => exact (Move.frame_outside changes before.world).2.2.1.kept
  | started number request fresh => exact .refl _
  | looked number session delay agenda fresh scheduled =>
      rw [(before.world.frame_withAgenda delay agenda).2.2.1]
      exact .refl _
  | lost number session delay agenda scheduled dropped =>
      simp only [withWorld, World.frame_note, World.frame_withAgenda]
      exact .refl _
  | advanced move earlier later task stage split takes =>
      cases takes with
      | resume ready => exact task.point.proceeds_resume before.world
      | notice news => exact (task.point.through_notice before.world).goesOn.kept

/-! ## Teardowns that are waited for -/

namespace DisconnectPoint

variable {point next : DisconnectPoint} {world after : World} {number : Nat}
  {cause : Option OfflineCause}

theorem eq_tearing_of_obstacle (waits : point.obstacle = some (.transfer number)) :
    point = .tearing number := by
  cases point with
  | tearing own =>
      cases waits
      rfl
  | _ => cases waits

theorem isClosing_of_enterTeardown (paused : enterTeardown cause world = .pause next after)
    (waits : next.obstacle = some (.transfer number)) : after.IsClosing number := by
  simp only [enterTeardown, tear] at paused
  split at paused
  · cases paused
    cases waits
    exact World.isClosing_startTeardown cause world
  · cases paused

theorem isClosing_of_entered (paused : enter cause world = .pause next after)
    (waits : next.obstacle = some (.transfer number)) : after.IsClosing number := by
  cases eq_tearing_of_obstacle waits
  exact isClosing_of_enter paused

theorem isClosing_of_resumed
    (closing : point.obstacle = some (.transfer number) → world.IsClosing number)
    (paused : point.resume world = .pause next after)
    (waits : next.obstacle = some (.transfer number)) : after.IsClosing number := by
  cases eq_tearing_of_obstacle waits
  refine isClosing_of_resume ?_ paused
  rintro rfl
  exact closing rfl

end DisconnectPoint

namespace StopPoint

theorem isClosing_of_resume {point next : StopPoint} {world after : World} {number : Nat}
    (closing : point.obstacle = some (.transfer number) → world.IsClosing number)
    (paused : point.resume world = .pause next after)
    (waits : next.obstacle = some (.transfer number)) : after.IsClosing number := by
  cases point with
  | entering =>
      rcases Stage.andThen_eq_pause paused with ⟨later, entered, rfl⟩ | ⟨_, _, _, ended⟩
      · exact DisconnectPoint.isClosing_of_entered entered waits
      · cases ended
        cases waits
  | disconnecting inner =>
      rcases Stage.andThen_eq_pause paused with ⟨later, went, rfl⟩ | ⟨_, _, _, ended⟩
      · exact DisconnectPoint.isClosing_of_resumed closing went waits
      · cases ended
        cases waits
  | binding =>
      simp only [resume] at paused
      split at paused <;> cases paused
      cases waits
  | commanding instanceId =>
      simp only [resume] at paused
      split at paused
      · rcases Stage.pause_of_andThen_done paused with ⟨later, entered, rfl⟩
        exact DisconnectPoint.isClosing_of_enterTeardown entered waits
      · cases paused
        cases waits
  | tearing inner =>
      rcases Stage.pause_of_andThen_done paused with ⟨later, went, rfl⟩
      exact DisconnectPoint.isClosing_of_resumed closing went waits
  | diagnosing instanceId failure inner =>
      rcases Stage.pause_of_andThen_done paused with ⟨later, went, rfl⟩
      cases later <;> cases waits

end StopPoint

namespace TerminatePoint

theorem isClosing_of_resume {point next : TerminatePoint} {world after : World} {number : Nat}
    (closing : point.obstacle = some (.transfer number) → world.IsClosing number)
    (paused : point.resume world = .pause next after)
    (waits : next.obstacle = some (.transfer number)) : after.IsClosing number := by
  cases point with
  | entering =>
      rcases Stage.andThen_eq_pause paused with ⟨later, entered, rfl⟩ | ⟨_, _, _, ended⟩
      · exact DisconnectPoint.isClosing_of_entered entered waits
      · cases ended
        cases waits
  | disconnecting inner =>
      rcases Stage.andThen_eq_pause paused with ⟨later, went, rfl⟩ | ⟨_, _, _, ended⟩
      · exact DisconnectPoint.isClosing_of_resumed closing went waits
      · cases ended
        cases waits
  | binding =>
      simp only [resume] at paused
      split at paused <;> cases paused
      cases waits
  | commanding instanceId =>
      simp only [resume] at paused
      split at paused <;> cases paused

end TerminatePoint

/-! ## What tasks wait for -/

namespace Point

variable {point next : Point} {world after : World} {number : Nat}

theorem isTagging_of_holds_definition (holds : point.holds .definition = true) :
    point.isTagging = true := by
  cases point with
  | synchronizing change tags locked inner => rfl
  | reconfiguring definition inner => rfl
  | looking session inner => cases inner <;> cases holds
  | _ => cases holds

theorem not_transfer_of_isTagging (tagging : point.isTagging = true) :
    point.obstacle ≠ some (.transfer number) := by
  rcases obstacle_of_isTagging tagging with free | ⟨lock, _, waits, _⟩
  · simp [free]
  · simp [waits]

theorem not_transfer_of_isEntrance (entrance : next.isEntrance = true) :
    next.obstacle ≠ some (.transfer number) := by
  intro waits
  cases next with
  | fetching query inner => cases inner <;> cases waits
  | rebooting afterBuild inner =>
      cases inner with
      | entering => cases waits
      | _ => cases afterBuild <;> cases entrance
  | stopping caller inner =>
      cases inner with
      | entering => cases waits
      | _ => cases entrance
  | terminating caller inner =>
      cases inner with
      | entering => cases waits
      | _ => cases entrance
  | consulting consultation => cases waits
  | watching watch => cases waits
  | _ => cases entrance

theorem teardown?_of_rebooting {afterBuild : Bool} {inner : RebootPoint}
    (waits : inner.obstacle = some (.transfer number)) :
    (rebooting afterBuild inner).teardown? = some number := by
  cases inner with
  | disconnecting session point =>
      cases DisconnectPoint.eq_tearing_of_obstacle waits
      rfl
  | diagnosing session instanceId failure point => cases point <;> cases waits
  | _ => cases waits

/-- A task that comes to wait for work on the link waits for a teardown. -/
theorem isClosing_of_paused
    (closing : point.obstacle = some (.transfer number) → world.IsClosing number)
    (paused : point.resume world = .pause next after)
    (waits : next.obstacle = some (.transfer number)) : after.IsClosing number := by
  cases leads_of_resume paused with
  | rebooting afterBuild begun =>
      refine isClosing_of_resume ?_ paused (teardown?_of_rebooting waits)
      intro tears
      exact closing (obstacle_of_teardown? tears)
  | stopping caller begun => exact StopPoint.isClosing_of_resume closing begun waits
  | terminating caller begun => exact TerminatePoint.isClosing_of_resume closing begun waits
  | disconnecting begun => exact DisconnectPoint.isClosing_of_resumed closing begun waits
  | tearingDown cause begun => exact DisconnectPoint.isClosing_of_enterTeardown begun waits
  | elsewhere entrance => exact absurd waits (not_transfer_of_isEntrance entrance)
  | fetching query begun =>
      rename_i inner later
      cases later <;> cases waits
  | lookingUp begun =>
      rename_i inner later
      cases later <;> cases waits
  | looking session begun =>
      rename_i inner later
      cases later with
      | waiting => cases waits
      | refreshing fetch => cases fetch <;> cases waits
  | changingTags change tags later => exact absurd waits (not_transfer_of_isTagging rfl)
  | synchronizing change tags locked inner later =>
      exact absurd waits (not_transfer_of_isTagging rfl)
  | reconfiguring definition inner later => exact absurd waits (not_transfer_of_isTagging rfl)

/-- The place of what a task waits for in the order in which locks are taken. -/
def depth (point : Point) : Nat :=
  match point.obstacle with
  | some (.lock .cache) => 1
  | some (.lock _) => 2
  | _ => 0

/-- Who holds the lock that another one waits for comes later in the order of locks. -/
theorem depth_lt {holder : Point} {lock : Lock} (waits : point.obstacle = some (.lock lock))
    (holds : holder.holds lock = true) : holder.depth < point.depth := by
  cases lock with
  | session =>
      rcases obstacle_of_holds_session holds with ⟨_, free | cache | ⟨number, tears⟩⟩
      · simp [depth, waits, free]
      · simp [depth, waits, cache]
      · simp [depth, waits, obstacle_of_teardown? tears]
  | definition =>
      rcases obstacle_of_isTagging (isTagging_of_holds_definition holds) with
        free | ⟨lock, rfl | rfl, own, outside⟩
      · simp [depth, waits, free]
      · rw [outside] at holds
        cases holds
      · simp [depth, waits, own]
  | cache => simp [depth, waits, (free_of_holds_cache holds).2]

end Point

namespace Execution

variable {before after execution : Execution} {move : Move} {task other : Task}

/-- Every transfer that a task waits for is one that ends by itself. -/
def Teardowns (execution : Execution) : Prop :=
  ∀ task number, task ∈ execution.running → task.point.obstacle = some (.transfer number) →
    execution.world.IsClosing number

theorem transfer_entry (request : Request) (number : Nat) :
    request.entry.obstacle ≠ some (.transfer number) := by
  intro waits
  cases request <;> cases waits

theorem Teardowns.step (teardowns : before.Teardowns) (step : before.Step move after) :
    after.Teardowns := by
  have proceeds := step.proceeds
  have still : ∀ task number, task ∈ before.running →
      task.point.obstacle = some (.transfer number) → after.world.IsClosing number :=
    fun task number running waits => (teardowns task number running waits).proceeds proceeds
  cases step with
  | idle move => exact still
  | outside move change changes => exact still
  | started number request fresh =>
      intro task other running waits
      rw [List.mem_append, List.mem_singleton] at running
      rcases running with old | rfl
      · exact still task other old waits
      · exact absurd waits (transfer_entry request other)
  | looked number session delay agenda fresh scheduled =>
      intro task other running waits
      rw [List.mem_append, List.mem_singleton] at running
      rcases running with old | rfl
      · exact still task other old waits
      · cases waits
  | lost number session delay agenda scheduled dropped => exact still
  | advanced move earlier later task stage split takes =>
      intro other number others waits
      rcases mem_replace.mp others with left | kept
      · rcases mem_remaining left with ⟨next, world, stage_eq, rfl⟩
        generalize stage = own at takes stage_eq
        cases takes with
        | resume ready =>
            simp only [replace, Stage.world, stage_eq]
            have closes := teardowns task number (mem_of_eq_append split)
            exact Point.isClosing_of_paused closes stage_eq waits
        | notice news =>
            rcases Point.eq_or_isEntrance_of_notice stage_eq with rfl | entrance
            · rcases Point.obstacle_of_hasNews news with ⟨deadline, timed⟩
              rw [timed] at waits
              cases waits
            · exact absurd waits (Point.not_transfer_of_isEntrance entrance)
      · exact still other number (mem_of_split split kept) waits

/-- Whether a task waits for a lock that another one holds. -/
def WaitsFor (execution : Execution) (task other : Task) : Prop :=
  task ∈ execution.running ∧ other ∈ execution.running ∧
    ∃ lock, task.point.obstacle = some (.lock lock) ∧ other.point.holds lock = true

theorem WaitsFor.depth_lt (waits : execution.WaitsFor task other) :
    other.point.depth < task.point.depth := by
  rcases waits with ⟨_, _, lock, obstructs, holds⟩
  exact Point.depth_lt obstructs holds

theorem depth_lt_of_transGen (chain : Relation.TransGen execution.WaitsFor task other) :
    other.point.depth < task.point.depth := by
  induction chain with
  | single waits => exact waits.depth_lt
  | tail _ waits further => exact Nat.lt_trans waits.depth_lt further

/-- A task that waits for no lock goes on when time passes. -/
theorem exists_ready (teardowns : execution.Teardowns) (running : task ∈ execution.running)
    (unlocked : ∀ lock, task.point.obstacle ≠ some (.lock lock)) :
    ∃ moves, (∀ move, move ∈ moves → move.isWaiting = true) ∧
      (execution.run moves).running = execution.running ∧
      (execution.run moves).isReady task = true := by
  rcases obstructs : task.point.obstacle with _ | lock | number | deadline
  · refine ⟨[], by simp, rfl, ?_⟩
    rw [isReady, obstructs]
    rfl
  · exact absurd obstructs (unlocked lock)
  · rcases exists_end (teardowns task number running obstructs) with ⟨moves, wait, same, _, ended⟩
    refine ⟨moves, wait, same, ?_⟩
    rw [isReady, obstructs]
    exact ended
  · refine ⟨[.pass deadline], by simp [Move.isWaiting], rfl, ?_⟩
    rw [isReady, obstructs]
    exact decide_eq_true (Nat.le_add_left deadline execution.world.clock)

/-- Whoever is under way waits, in the end, for a task that can go on. -/
theorem exists_chain (teardowns : execution.Teardowns) (running : task ∈ execution.running) :
    ∃ other, other ∈ execution.running ∧ Relation.ReflTransGen execution.WaitsFor task other ∧
      ∃ moves, (∀ move, move ∈ moves → move.isWaiting = true) ∧
        (execution.run moves).running = execution.running ∧
        (execution.run moves).isReady other = true := by
  -- Each task on the way comes later in the order of locks than the one that waits for it.
  induction depth : task.point.depth using Nat.strongRecOn generalizing task with
  | ind depth hypothesis =>
      by_cases blocked : ∃ lock, task.point.obstacle = some (.lock lock) ∧
          execution.isFree lock = false
      · rcases blocked with ⟨lock, obstructs, taken⟩
        rcases exists_holds taken with ⟨holder, among, holds⟩
        have waits : execution.WaitsFor task holder := ⟨running, among, lock, obstructs, holds⟩
        rcases hypothesis _ (depth ▸ waits.depth_lt) among rfl with ⟨other, last, chain, able⟩
        exact ⟨other, last, chain.head waits, able⟩
      · by_cases locked : ∃ lock, task.point.obstacle = some (.lock lock)
        · rcases locked with ⟨lock, obstructs⟩
          refine ⟨task, running, .refl, [], by simp, rfl, ?_⟩
          have free : execution.isFree lock = true := by
            by_contra taken
            exact blocked ⟨lock, obstructs, by simpa using taken⟩
          simp only [run, List.foldl_nil, isReady, obstructs, isClear, free]
        · exact ⟨task, running, .refl,
            exists_ready teardowns running fun lock obstructs => locked ⟨lock, obstructs⟩⟩

end Execution

namespace Outset

theorem teardowns_run (outset : Outset) (moves : List Move) :
    (outset.execution.run moves).Teardowns := by
  refine outset.sound_execution.run_induction (fun _ => True) Execution.Teardowns ?_ ?_ moves
    fun _ _ => trivial
  · intro before after move _ _ step teardowns
    exact teardowns.step step
  · intro task number running
    cases running

/-- **Tasks never block each other for good.** Whatever was asked of a node, and in whatever order
the steps were taken, no task waits for a lock that it holds, and no circle of tasks wait for each
other's locks. Whoever is under way waits, along a chain of locks, for a task that is ready to go on
at once, or as soon as time has passed and the teardowns under way have ended. -/
theorem never_deadlocked (outset : Outset) (moves : List Move) :
    (∀ task lock, task ∈ (outset.execution.run moves).running →
      task.point.obstacle = some (.lock lock) → task.point.holds lock = false) ∧
    (∀ task, ¬Relation.TransGen (outset.execution.run moves).WaitsFor task task) ∧
    ∀ task, task ∈ (outset.execution.run moves).running →
      ∃ other, other ∈ (outset.execution.run moves).running ∧
        Relation.ReflTransGen (outset.execution.run moves).WaitsFor task other ∧
        ∃ rest, (∀ move, move ∈ rest → move.isWaiting = true) ∧
          (outset.execution.run (moves ++ rest)).running =
            (outset.execution.run moves).running ∧
          (outset.execution.run (moves ++ rest)).isReady other = true := by
  refine ⟨?_, ?_, ?_⟩
  · intro task lock running obstructs
    by_contra holds
    have own := Point.depth_lt obstructs (by simpa using holds)
    exact Nat.lt_irrefl _ own
  · intro task circle
    exact Nat.lt_irrefl _ (Execution.depth_lt_of_transGen circle)
  · intro task running
    simp only [Execution.run_append]
    exact Execution.exists_chain (outset.teardowns_run moves) running

/-- Two reboots of a node whose teardowns take a second: the first holds the session lock and waits
for its teardown, the second waits for the first. -/
def queuedReboots : List Move :=
  [.happen (.delayTeardown 1000), .start 0 .reboot, .start 1 .reboot, .resume 0, .resume 0,
    .resume 1]

theorem never_deadlocked_queuedReboots : ∃ first second,
    ((onInstance someInstance).execution.run queuedReboots).WaitsFor second first ∧
      ¬((onInstance someInstance).execution.run queuedReboots).WaitsFor first second := by
  have waits : ((onInstance someInstance).execution.run queuedReboots).WaitsFor
      ⟨1, .reboot, .rebooting false .waiting⟩
      ⟨0, .reboot, .rebooting false (.disconnecting 1 (.tearing 0))⟩ :=
    ⟨.tail _ (.head _), .head _, .session, rfl, rfl⟩
  refine ⟨_, _, waits, ?_⟩
  intro back
  exact ((onInstance someInstance).never_deadlocked queuedReboots).2.1 _
    (.tail (.single waits) back)

end Outset

end BuildAgent
