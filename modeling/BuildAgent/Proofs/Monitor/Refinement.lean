import BuildAgent.Proofs.Cache.Fetches
import BuildAgent.Proofs.Monitor.Outcomes

/-!
# A look follows the documented state machine

A look that nothing interrupts takes one step, or three if it refreshes the cache. To let a task go
on that has ended changes nothing, so three moves carry any look to its end. `LookPoint.Yields` says
what comes of it (`Execution.look_yields`), and that is a step of the machine
(`Execution.run_look`). `Outset.look_follows_machine` states this of every execution that can be
reached.
-/

namespace BuildAgent

namespace FetchPoint

variable {world : World}

/-- A forced fetch that finds no instance ends at once. -/
theorem resume_of_unbound (unbound : world.node.capacity.bound? = none) :
    ∃ middle, (waiting true).resume world = .done middle.node.entry.snapshot middle ∧
      middle.bare = world.refreshed.bare := by
  refine ⟨world.note .fetchSkipped, by simp only [resume, unbound]; rfl, ?_⟩
  rw [World.refreshed, unbound]
  rfl

/-- What comes of a description is what a refresh comes to. -/
theorem resume_of_bound {instanceId : InstanceId} (force : Bool)
    (bound : world.node.capacity.bound? = some instanceId) :
    ∃ middle, (describing force instanceId).resume world = .done middle.node.entry.snapshot middle ∧
      middle.bare = world.refreshed.bare := by
  have bare := world.bare_ask fun provider => provider.describe [instanceId]
  have answered : (world.ask fun provider => provider.describe [instanceId]).1 =
      (world.provider.describe [instanceId]).answer := rfl
  rcases asked : world.ask fun provider => provider.describe [instanceId] with
    ⟨failure | found, after⟩
  · rw [asked] at bare answered
    refine ⟨after.note (.fetchFailed instanceId failure), ?_, ?_⟩
    · simp only [resume, asked, World.frame_note]
    · simp only [World.refreshed, bound, ← answered]
      exact bare
  · rw [asked] at bare answered
    refine ⟨keep force instanceId found.head? after, by simp only [resume, asked]; rfl, ?_⟩
    have kept : (keep force instanceId found.head? after).bare = { after.bare with
        node := { after.bare.node with entry := ⟨found.head?, some after.bare.clock⟩ } } := rfl
    simp only [World.refreshed, bound, ← answered]
    rw [kept, bare]
    rfl

/-- What a forced fetch comes to that nothing interrupts. -/
inductive Yields (world : World) (found : Option Snapshot) (after : World) : Prop
  | skipped (unbound : world.node.capacity.bound? = none)
      (fetched : (waiting true).resume world = .done found after)
  | described {instanceId : InstanceId} (bound : world.node.capacity.bound? = some instanceId)
      (fetched : (describing true instanceId).resume world = .done found after)

theorem Yields.refreshed {found : Option Snapshot} {after : World}
    (yields : Yields world found after) :
    found = after.node.entry.snapshot ∧ after.bare = world.refreshed.bare := by
  cases yields with
  | skipped unbound fetched =>
      rcases resume_of_unbound unbound with ⟨middle, same, refreshed⟩
      cases fetched.symm.trans same
      exact ⟨rfl, refreshed⟩
  | described bound fetched =>
      rcases resume_of_bound true bound with ⟨middle, same, refreshed⟩
      cases fetched.symm.trans same
      exact ⟨rfl, refreshed⟩

end FetchPoint

/-- Whether a look of a session has to refresh the cache before it decides. -/
def World.refreshes (world : World) (session : Nat) : Bool :=
  world.node.session.isCurrent session && !world.node.retired && world.node.attached &&
    world.node.session.attempt.isNone

namespace LookPoint

/-- What a look comes to that nothing interrupts. -/
inductive Yields (session : Nat) (world : World) (outcome : LookOutcome) (after : World) : Prop
  | atOnce (begun : begin session world = .done outcome after)
  | refreshed {found : Option Snapshot} {middle : World}
      (begun : begin session world = .pause (.refreshing (.waiting true)) world)
      (fetched : FetchPoint.Yields world found middle)
      (decided : afterFetch session found middle = .done outcome after)

theorem exists_afterFetch (session : Nat) (found : Option Snapshot) (world : World) :
    ∃ outcome after, afterFetch session found world = .done outcome after :=
  ⟨_, _, rfl⟩

theorem refreshes_of_begin {session : Nat} {world after : World} {next : LookPoint}
    (begun : begin session world = .pause next after) :
    next = .refreshing (.waiting true) ∧ after = world ∧ world.refreshes session = true := by
  rcases begin_eq_pause begun with ⟨looks, same, current, managed, attached, idle⟩
  exact ⟨looks, same, by simp [World.refreshes, current, managed, attached, idle]⟩

end LookPoint

namespace Execution

variable {execution : Execution} {earlier later : List Task} {task : Task}

/-- To let a task go on that has ended changes nothing. -/
theorem run_of_ended {number : Nat} (ended : execution.task? number = none) (count : Nat) :
    execution.run (List.replicate count (.resume number)) = execution := by
  induction count with
  | zero => rfl
  | succ count hypothesis =>
      have stays : execution.apply (.resume number) = execution := by
        simp [apply, resume, ended]
      rw [List.replicate_succ, run, List.foldl_cons, stays]
      exact hypothesis

/-- A task that ends with its first step is carried to that end. -/
theorem run_of_done (orderly : execution.Orderly)
    (split : execution.running = earlier ++ task :: later) (ready : execution.isReady task = true)
    {answer : Answer} {after : World}
    (ends : task.point.resume execution.world = .done answer after) (count : Nat) :
    execution.run (List.replicate (count + 1) (.resume task.number)) =
      execution.replace earlier task later (.done answer after) := by
  have first : execution.apply (.resume task.number) =
      execution.replace earlier task later (.done answer after) := by
    rw [← ends]
    exact resume_eq_replace orderly split ready
  have gone : (execution.replace earlier task later (.done answer after)).task? task.number =
      none := by
    apply List.find?_eq_none.mpr
    intro other others
    rcases mem_replace.mp others with left | still
    · cases left
    · simpa using (orderly.excludes split still).number.symm
  rw [List.replicate_succ, run, List.foldl_cons, first]
  exact run_of_ended gone count

/-- A task that pauses with its first step is carried on from there. -/
theorem run_of_pause (orderly : execution.Orderly)
    (split : execution.running = earlier ++ task :: later) (ready : execution.isReady task = true)
    {next : Point} {after : World} (pauses : task.point.resume execution.world = .pause next after)
    (count : Nat) :
    let paused := execution.replace earlier task later (.pause next after)
    paused.Orderly ∧ execution.run (List.replicate (count + 1) (.resume task.number)) =
      paused.run (List.replicate count (.resume task.number)) := by
  have first : execution.apply (.resume task.number) =
      execution.replace earlier task later (.pause next after) := by
    rw [← pauses]
    exact resume_eq_replace orderly split ready
  refine ⟨pauses ▸ orderly.replace split (.resume ready), ?_⟩
  rw [List.replicate_succ, run, List.foldl_cons, first]
  rfl

/-- A look that waits for the cache lock, and finds it free, decides on what the fetch yields. -/
theorem refreshing_yields {session : Nat} (orderly : execution.Orderly)
    (split : execution.running = earlier ++ task :: later)
    (looks : task.point = .looking session (.refreshing (.waiting true)))
    (free : execution.isFree .cache = true) :
    ∃ found middle outcome after, execution.run (List.replicate 2 (.resume task.number)) =
        execution.replace earlier task later (.done (.looked outcome) after) ∧
      FetchPoint.Yields execution.world found middle ∧
      LookPoint.afterFetch session found middle = .done outcome after := by
  have ready : execution.isReady task = true := by
    rw [isReady, looks]
    exact free
  rcases bound : execution.world.node.capacity.bound? with _ | instanceId
  · rcases FetchPoint.resume_of_unbound bound with ⟨middle, fetched, _⟩
    rcases LookPoint.exists_afterFetch session middle.node.entry.snapshot middle with
      ⟨outcome, after, decided⟩
    have ends : task.point.resume execution.world = .done (.looked outcome) after := by
      rw [looks, Point.resume, LookPoint.resume, fetched, Stage.andThen_done, decided]
      rfl
    exact ⟨_, middle, outcome, after, run_of_done orderly split ready ends 1,
      .skipped bound fetched, decided⟩
  · have asks : execution.world.asks? true = some instanceId := bound
    have pauses : task.point.resume execution.world =
        .pause (.looking session (.refreshing (.describing true instanceId))) execution.world := by
      rw [looks, Point.resume, LookPoint.resume, FetchPoint.resume_of_asks asks]
      rfl
    rcases run_of_pause orderly split ready pauses 1 with ⟨pausedOrderly, goesOn⟩
    rcases FetchPoint.resume_of_bound true bound with ⟨middle, fetched, _⟩
    rcases LookPoint.exists_afterFetch session middle.node.entry.snapshot middle with
      ⟨outcome, after, decided⟩
    have ends : (Point.looking session (.refreshing (.describing true instanceId))).resume
        execution.world = .done (.looked outcome) after := by
      rw [Point.resume, LookPoint.resume, fetched, Stage.andThen_done, decided]
      rfl
    exact ⟨_, middle, outcome, after, goesOn.trans (run_of_done pausedOrderly rfl rfl ends 0),
      .described bound fetched, decided⟩

/-- A look that nothing interrupts ends. -/
theorem look_yields {session : Nat} (orderly : execution.Orderly)
    (split : execution.running = earlier ++ task :: later)
    (looks : task.point = .looking session .waiting) (free : execution.isFree .session = true)
    (cacheFree : execution.world.refreshes session = true → execution.isFree .cache = true) :
    ∃ outcome after, execution.run (List.replicate 3 (.resume task.number)) =
        execution.replace earlier task later (.done (.looked outcome) after) ∧
      LookPoint.Yields session execution.world outcome after := by
  have ready : execution.isReady task = true := by
    rw [isReady, looks]
    exact free
  rcases begun : LookPoint.begin session execution.world with ⟨next, middle⟩ | ⟨outcome, after⟩
  · rcases LookPoint.refreshes_of_begin begun with ⟨rfl, rfl, refreshes⟩
    have pauses : task.point.resume execution.world =
        .pause (.looking session (.refreshing (.waiting true))) execution.world := by
      rw [looks, Point.resume, LookPoint.resume, begun]
      rfl
    rcases run_of_pause orderly split ready pauses 2 with ⟨pausedOrderly, goesOn⟩
    have still : (execution.replace earlier task later
        (.pause (.looking session (.refreshing (.waiting true))) execution.world)).isFree .cache =
          true := by
      have free := cacheFree refreshes
      simp only [isFree, split, List.all_append, List.all_cons, Bool.and_eq_true] at free
      simp only [isFree, replace, Stage.remaining, List.singleton_append, List.all_append,
        List.all_cons, Bool.and_eq_true]
      exact ⟨free.1, rfl, free.2.2⟩
    rcases refreshing_yields pausedOrderly rfl rfl still with
      ⟨found, middle, outcome, after, whole, fetched, decided⟩
    exact ⟨outcome, after, goesOn.trans whole, .refreshed begun fetched decided⟩
  · have ends : task.point.resume execution.world = .done (.looked outcome) after := by
      rw [looks, Point.resume, LookPoint.resume, begun]
      rfl
    exact ⟨outcome, after, run_of_done orderly split ready ends 2, .atOnce begun⟩

/-- A look that nothing interrupts follows the machine. -/
theorem run_look {session : Nat} (orderly : execution.Orderly)
    (split : execution.running = earlier ++ task :: later)
    (looks : task.point = .looking session .waiting)
    (current : execution.world.node.session.isCurrent session = true)
    (managed : execution.world.node.retired = false)
    (attached : execution.world.node.attached = true)
    (free : execution.isFree .session = true)
    (cacheFree : execution.world.node.session.attempt = none → execution.isFree .cache = true) :
    ∃ outcome after, execution.run (List.replicate 3 (.resume task.number)) =
        execution.replace earlier task later (.done (.looked outcome) after) ∧
      execution.world.FollowsMachine session outcome after := by
  have cache : execution.world.refreshes session = true → execution.isFree .cache = true := by
    intro refreshes
    simp only [World.refreshes, Bool.and_eq_true, Option.isNone_iff_eq_none] at refreshes
    exact cacheFree refreshes.2
  rcases look_yields orderly split looks free cache with ⟨outcome, after, whole, yields⟩
  refine ⟨outcome, after, whole, ?_⟩
  cases yields with
  | atOnce begun =>
      rcases held : execution.world.node.session.attempt with _ | attempt
      · cases begun.symm.trans (LookPoint.begin_of_idle current managed attached held)
      · rcases LookPoint.follows_begin current managed attached held with
          ⟨_, _, decided, follows⟩
        cases begun.symm.trans decided
        exact follows
  | refreshed begun fetched decided =>
      rcases LookPoint.begin_eq_pause begun with ⟨_, _, _, _, _, idle⟩
      rcases fetched.refreshed with ⟨rfl, refreshed⟩
      rcases LookPoint.follows_afterFetch (Reboot.Session.active_of_isCurrent current) attached
        idle refreshed with ⟨_, _, same, follows⟩
      cases decided.symm.trans same
      exact follows

end Execution

theorem LookOutcome.provider_carryOut (outcome : LookOutcome) (session : Nat) (world : World) :
    (outcome.carryOut session world).provider = world.provider := by
  cases outcome with
  | attemptStarted => exact world.provider_startConnection false
  | _ => rfl

/-- What a look sees costs one call where there is no attempt but an instance. -/
theorem World.calls_sighted (world : World) : world.sighted.provider.calls = Provider.keepCall?
    (if world.node.session.attempt = none then
      world.node.capacity.bound?.map Provider.Call.describing else none) world.provider.calls := by
  rcases held : world.node.session.attempt with _ | attempt
  · rw [if_pos rfl]
    simp only [sighted, held]
    exact world.calls_refreshed
  · rw [if_neg (Option.some_ne_none attempt)]
    simp only [sighted, held]
    cases world.outcome? attempt <;> rfl

namespace Outset

/-- **A look of the monitor follows the documented state machine.** Take any execution that can be
reached, with any policy, and a look of its live session that has been started, by the scheduler or
on request, on a node that was not retired and has its endpoint. If the locks that the look needs
are free and nothing interrupts it:

* The look ends, and leaves the other tasks as they were.
* It takes a step of the machine, on what it sees: whether the instance is alive by a forced
  refresh, whether the attempt has ended, whether a channel is present, and the offline cause. No
  other outcome is possible.
* But for the journal it does to the world what belongs to its outcome, and nothing else: at most
  one attempt to connect, at most one next look, and nothing scheduled where the session ends. Field
  by field that is what `LookOutcome.Touches` says.
* The provider is called once if the session holds no attempt and there is an instance to describe,
  and not at all otherwise. -/
theorem look_follows_machine (outset : Outset) (moves : List Move) {task : Task} {session : Nat}
    (running : task ∈ (outset.execution.run moves).running)
    (looks : task.point = .looking session .waiting)
    (current : (outset.execution.run moves).world.node.session.isCurrent session = true)
    (managed : (outset.execution.run moves).world.node.retired = false)
    (attached : (outset.execution.run moves).world.node.attached = true)
    (free : (outset.execution.run moves).isFree .session = true)
    (cacheFree : (outset.execution.run moves).world.node.session.attempt = none →
      (outset.execution.run moves).isFree .cache = true) :
    let before := outset.execution.run moves
    let policy := before.world.node.timings.reboot
    ∃ outcome after,
      outset.execution.run (moves ++ List.replicate 3 (.resume task.number)) =
        before.settle task (.done (.looked outcome) after) ∧
      Reboot.Machine.Step policy session before.world.sight before.world.node.session.machine
        outcome after.node.session.machine ∧
      (∀ other last, Reboot.Machine.Step policy session before.world.sight
        before.world.node.session.machine other last → other = outcome) ∧
      after.bare = (outcome.carryOut session before.world.sighted).bare ∧
      after.provider.calls = Provider.keepCall?
        (if before.world.node.session.attempt = none then
          before.world.node.capacity.bound?.map Provider.Call.describing else none)
        before.world.provider.calls ∧
      outcome.Touches session before.world after := by
  intro before policy
  have orderly : before.Orderly := (outset.sound_run moves).orderly
  rcases List.append_of_mem running with ⟨earlier, later, split⟩
  rcases Execution.run_look orderly split looks current managed attached free cacheFree with
    ⟨outcome, after, whole, follows⟩
  refine ⟨outcome, after, ?_, follows.step, fun other last again => follows.step.outcome_eq again,
    follows.carried, ?_, outcome.touches_of_carried follows.carried⟩
  · rw [Execution.run_append, whole]
    exact (Execution.settle_eq orderly split _).symm
  · have provider : after.bare.provider = before.world.sighted.provider := by
      rw [follows.carried]
      exact outcome.provider_carryOut session _
    rw [← before.world.calls_sighted, ← provider]
    rfl

/-- A reboot, up to the first look, which the scheduler has started. -/
def rebootedAndDue : List Move :=
  [.start 0 .reboot, .resume 0, .resume 0, .resume 0, .resume 0, .resume 0, .runMonitor 1]

/-- The first look after a reboot finds the instance alive, describes it once and starts an
attempt. -/
theorem look_follows_machine_rebooted :
    ∃ after, (onInstance someInstance).execution.run
        (rebootedAndDue ++ List.replicate 3 (.resume 1)) =
        ((onInstance someInstance).execution.run rebootedAndDue).settle
          ⟨1, .look 1, .looking 1 .waiting⟩ (.done (.looked .attemptStarted) after) ∧
      after.provider.calls = Provider.keepCall (.describing someInstance)
        ((onInstance someInstance).execution.run rebootedAndDue).world.provider.calls := by
  have running : (⟨1, .look 1, .looking 1 .waiting⟩ : Task) ∈
      ((onInstance someInstance).execution.run rebootedAndDue).running := .head _
  have current : ((onInstance someInstance).execution.run
      rebootedAndDue).world.node.session.isCurrent 1 = true := rfl
  rcases (onInstance someInstance).look_follows_machine rebootedAndDue running rfl current rfl rfl
    rfl (fun _ => rfl) with ⟨outcome, after, whole, _, only, _, calls, _⟩
  have started : Reboot.Machine.Step
      ((onInstance someInstance).execution.run rebootedAndDue).world.node.timings.reboot 1
      ((onInstance someInstance).execution.run rebootedAndDue).world.sight
      ((onInstance someInstance).execution.run rebootedAndDue).world.node.session.machine
      .attemptStarted (.attemptInFlight 0 1) := .started 1 rfl rfl
  obtain rfl := only _ _ started
  exact ⟨after, whole, calls⟩

end Outset

end BuildAgent
