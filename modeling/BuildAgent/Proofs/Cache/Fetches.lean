import BuildAgent.Proofs.Cache.LastAnswer
import BuildAgent.Proofs.Execution.Acting
import BuildAgent.Proofs.Monitor.Finality
import BuildAgent.Proofs.Task.Calls

/-!
# Fetches under way

A fetch waits for the cache lock, and once it has it, it ends at once or asks the provider and ends
with the answer. A query fetches, and so does a look of the monitor; `Point.fetch?` is the fetch of
either, and what a task does at such a point is what its fetch does. While a fetch waits for the
provider it holds the cache lock (`Point.holds_of_describing`).

Which instance a fetch asks for is decided when it gets the lock (`World.asks?`).
-/

namespace BuildAgent

/-- The instance that a fetch asks for when it gets the cache lock, if it asks at all. -/
def World.asks? (world : World) (force : Bool) : Option InstanceId :=
  if force || !world.node.entry.isFresh world.clock world.node.timings.freshness then
    world.node.capacity.bound?
  else none

namespace FetchPoint

variable {world after : World} {force : Bool} {instanceId : InstanceId}

/-- Whether a fetch asks the provider however young the last answer is. -/
def isForced : FetchPoint → Bool
  | waiting force => force
  | describing force _ => force

theorem resume_of_asks (asks : world.asks? force = some instanceId) :
    (waiting force).resume world = .pause (.describing force instanceId) world := by
  simp only [World.asks?] at asks
  split at asks
  · rename_i due
    have young : (!force && world.node.entry.isFresh world.clock world.node.timings.freshness) =
        false := by
      cases force <;> simp_all
    simp only [resume, asks, young]
    rfl
  · cases asks

/-- A fetch that asks nobody ends with what is in the cache. -/
theorem resume_of_not_asks (rests : world.asks? force = none) :
    ∃ after, (waiting force).resume world = .done world.node.entry.snapshot after ∧
      after.node = world.node ∧ after.clock = world.clock := by
  rcases bound : world.node.capacity.bound? with _ | instanceId
  · exact ⟨world.note .fetchSkipped, by simp only [resume, bound], rfl, rfl⟩
  · simp only [World.asks?, bound] at rests
    split at rests
    · cases rests
    · rename_i young
      have kept : (!force && world.node.entry.isFresh world.clock world.node.timings.freshness) =
          true := by
        cases force <;> simp_all
      exact ⟨world, by simp only [resume, bound, kept, if_true], rfl, rfl⟩

/-- A fetch that waits for the provider ends with its next step. -/
theorem resume_describing (force : Bool) (instanceId : InstanceId) (world : World) :
    ∃ after, (describing force instanceId).resume world =
      .done after.node.entry.snapshot after := by
  rcases stage_eq : (describing force instanceId).resume world with ⟨next, after⟩ | ⟨found, after⟩
  · simp only [resume] at stage_eq
    split at stage_eq <;> cases stage_eq
  · rw [found_eq stage_eq]
    exact ⟨after, rfl⟩

/-- A fetch that is answered ends with the answer. -/
theorem resume_of_answers {found : List Snapshot} (force : Bool)
    (answers : (world.ask fun provider => provider.describe [instanceId]).1 = .ok found) :
    ∃ after, (describing force instanceId).resume world = .done found.head? after := by
  rcases asked : world.ask fun provider => provider.describe [instanceId] with ⟨given, after⟩
  rw [asked] at answers
  subst answers
  exact ⟨_, by simp only [resume, asked]; rfl⟩

/-- A fetch goes on only to ask for the instance that it has to ask for. -/
theorem asks_of_resume {point next : FetchPoint} (paused : point.resume world = .pause next after) :
    ∃ force instanceId, point = .waiting force ∧ next = .describing force instanceId ∧
      world.asks? force = some instanceId := by
  cases point with
  | waiting force =>
      rcases asks : world.asks? force with _ | instanceId
      · rcases resume_of_not_asks asks with ⟨last, ended, _⟩
        rw [ended] at paused
        cases paused
      · rw [resume_of_asks asks] at paused
        cases paused
        exact ⟨force, instanceId, rfl, rfl, asks⟩
  | describing force instanceId =>
      rcases resume_describing force instanceId world with ⟨last, ended⟩
      rw [ended] at paused
      cases paused

end FetchPoint

namespace Point

variable {point : Point} {world after : World} {fetch : FetchPoint}

/-- The fetch that a task makes at a point, for a query or for a look of the monitor. -/
def fetch? : Point → Option FetchPoint
  | fetching _ fetch => some fetch
  | looking _ (.refreshing fetch) => some fetch
  | _ => none

theorem cases_of_fetch? (fetches : point.fetch? = some fetch) :
    (∃ query, point = .fetching query fetch) ∨
      ∃ session, point = .looking session (.refreshing fetch) := by
  cases point with
  | fetching query own =>
      cases fetches
      exact .inl ⟨query, rfl⟩
  | looking session inner =>
      cases inner with
      | waiting => cases fetches
      | refreshing own =>
          cases fetches
          exact .inr ⟨session, rfl⟩
  | _ => cases fetches

theorem told_of_fetch? (fetches : point.fetch? = some fetch) (world : World) :
    point.obstacle = fetch.obstacle ∧ point.call? = fetch.call? ∧ point.asked? = fetch.asked? ∧
      point.cacheEvent? world = fetch.answer? world ∧ point.hasNews world = false := by
  rcases cases_of_fetch? fetches with ⟨query, rfl⟩ | ⟨session, rfl⟩
  · exact ⟨rfl, rfl, rfl, rfl, rfl⟩
  · exact ⟨rfl, rfl, rfl, rfl, rfl⟩

/-- A task goes on with its fetch. -/
theorem pause_of_fetch? (fetches : point.fetch? = some fetch) {next : FetchPoint}
    (paused : fetch.resume world = .pause next after) :
    ∃ own, point.resume world = .pause own after ∧ own.fetch? = some next := by
  rcases cases_of_fetch? fetches with ⟨query, rfl⟩ | ⟨session, rfl⟩
  · exact ⟨.fetching query next, by simp only [resume, paused, Stage.andThen_pause], rfl⟩
  · exact ⟨.looking session (.refreshing next),
      by simp only [resume, LookPoint.resume, paused, Stage.andThen_pause], rfl⟩

/-- A task ends with its fetch. -/
theorem done_of_fetch? (fetches : point.fetch? = some fetch) {found : Option Snapshot}
    (fetched : fetch.resume world = .done found after) :
    ∃ answer last, point.resume world = .done answer last ∧ after.SameCache last := by
  rcases cases_of_fetch? fetches with ⟨query, rfl⟩ | ⟨session, rfl⟩
  · exact ⟨_, _, by simp only [resume, fetched, Stage.andThen_done]; rfl, rfl, rfl⟩
  · exact ⟨_, _, by simp only [resume, LookPoint.resume, fetched, Stage.andThen_done]; rfl,
      LookPoint.sameCache_act session after _⟩

theorem holds_of_describing {force : Bool} {instanceId : InstanceId}
    (asks : point.fetch? = some (.describing force instanceId)) : point.holds .cache = true := by
  rcases cases_of_fetch? asks with ⟨query, rfl⟩ | ⟨session, rfl⟩ <;> rfl

/-- A task comes to wait for the provider's answer only from the cache lock. -/
theorem asks_of_resume {next : Point} (paused : point.resume world = .pause next after)
    {force : Bool} {instanceId : InstanceId}
    (asks : next.fetch? = some (.describing force instanceId)) :
    point.fetch? = some (.waiting force) ∧ world.asks? force = some instanceId := by
  cases leads_of_resume paused with
  | fetching query begun =>
      rcases FetchPoint.asks_of_resume begun with ⟨own, id, rfl, rfl, due⟩
      cases asks
      exact ⟨rfl, due⟩
  | looking session begun =>
      rename_i inner later
      cases inner with
      | waiting =>
          rcases LookPoint.begin_eq_pause begun with ⟨rfl, _⟩
          cases asks
      | refreshing fetch =>
          rcases Stage.pause_of_andThen_done begun with ⟨inner, goes, rfl⟩
          rcases FetchPoint.asks_of_resume goes with ⟨own, id, rfl, rfl, due⟩
          cases asks
          exact ⟨rfl, due⟩
  | elsewhere entrance =>
      have nobody := asked?_of_isEntrance entrance
      rw [(told_of_fetch? asks world).2.2.1] at nobody
      cases nobody
  | _ => cases asks

/-- Only a fetch is answered. -/
theorem fetch_of_answered {instanceId : InstanceId} {found : Option Snapshot}
    (answered : point.cacheEvent? world = some (.answered instanceId found)) :
    ∃ force, point.fetch? = some (.describing force instanceId) := by
  have asks : ∀ fetch : FetchPoint, fetch.answer? world = some (.answered instanceId found) →
      ∃ force, fetch = .describing force instanceId := by
    intro fetch own
    cases fetch with
    | waiting force => cases own
    | describing force other =>
        simp only [FetchPoint.answer?] at own
        split at own
        · cases own
          exact ⟨force, rfl⟩
        · cases own
  cases point with
  | fetching query fetch =>
      rcases asks fetch answered with ⟨force, rfl⟩
      exact ⟨force, rfl⟩
  | looking session inner =>
      cases inner with
      | waiting => cases answered
      | refreshing fetch =>
          rcases asks fetch answered with ⟨force, rfl⟩
          exact ⟨force, rfl⟩
  | assigning other announce =>
      simp only [cacheEvent?] at answered
      split at answered <;> cases answered
  | _ => cases answered

end Point

/-! ## The cache while a fetch waits for its answer -/

namespace Execution

variable {execution : Execution} {move : Move} {task : Task}

/-- The event of a move is that of the step that a task takes. -/
theorem cacheEvent?_eq (execution : Execution) (move : Move) : execution.cacheEvent? move =
    (execution.acting? move).bind fun task => task.point.cacheEvent? execution.world := by
  cases move with
  | resume number =>
      simp only [cacheEvent?, acting?]
      rcases execution.task? number with _ | task
      · rfl
      · by_cases ready : execution.isReady task = true <;> simp [Option.filter, ready]
  | _ => rfl

/-- While a fetch holds the cache lock, the steps of others do nothing to the cache. -/
theorem silent_of_holds_cache {own : Task} {earlier later : List Task} (orderly : execution.Orderly)
    (split : execution.running = earlier ++ own :: later) (ready : execution.isReady own = true)
    (still : task ∈ earlier ++ later) (holds : task.point.holds .cache = true) :
    own.point.cacheEvent? execution.world = none := by
  rcases event : own.point.cacheEvent? execution.world with _ | happens
  · rfl
  · rcases Point.answered_or_assigning event with
      ⟨instanceId, _, asked, _⟩ | ⟨instanceId, announce, assigns, _⟩
    · have free := (orderly.excludes split still).lock .cache (Point.holds_of_asked? asked)
      rw [holds] at free
      cases free
    · simp only [isReady, assigns, Point.obstacle, isClear] at ready
      simp [not_holds_of_isFree ready (mem_of_split split still)] at holds

/-- A task that waits for the provider's answer after a move waited for it before, or got the cache
lock with the move. The move does nothing to the cache. -/
theorem describing_of_apply (orderly : execution.Orderly)
    (running : task ∈ (execution.apply move).running) {force : Bool} {instanceId : InstanceId}
    (asks : task.point.fetch? = some (.describing force instanceId)) :
    execution.cacheEvent? move = none ∧
      (task ∈ execution.running ∨ ∃ own, execution.acting? move = some own ∧
        own.point.fetch? = some (.waiting force) ∧
        execution.world.asks? force = some instanceId) := by
  rw [cacheEvent?_eq]
  rcases acts_or_silent orderly move with
    ⟨own, earlier, later, acts, split, _, moved⟩ | ⟨still, silent⟩
  · rw [acts, Option.bind_some]
    rw [moved] at running
    rcases mem_replace.mp running with left | others
    · rcases mem_remaining left with ⟨next, world, paused, rfl⟩
      rcases Point.asks_of_resume paused asks with ⟨waits, due⟩
      have quiet := (Point.told_of_fetch? waits execution.world).2.2.2.1
      exact ⟨quiet, .inr ⟨own, rfl, waits, due⟩⟩
    · have ready := (acting?_eq_some acts).2.1
      exact ⟨silent_of_holds_cache orderly split ready others (Point.holds_of_describing asks),
        .inl (mem_of_split split others)⟩
  · rw [still]
    refine ⟨rfl, ?_⟩
    rcases silent.mem_running running with old | ⟨stands, _⟩ | ⟨_, _, watch, _, _, _, stands⟩
    · exact .inl old
    · have nobody := asked?_entry task.request
      rw [← stands, (Point.told_of_fetch? asks execution.world).2.2.1] at nobody
      cases nobody
    · rw [stands] at asks
      cases asks

/-- The node stays bound to its instance until it is bound to another one. -/
theorem capacity_apply {history : List CacheEvent} (remembers : execution.Remembers history)
    (orderly : execution.Orderly)
    (unbound : ∀ instanceId, execution.cacheEvent? move ≠ some (.bound instanceId)) :
    (execution.apply move).world.node.capacity = execution.world.node.capacity := by
  by_cases resumes : ∃ number, move = .resume number
  · rcases resumes with ⟨number, rfl⟩
    rcases execution.resume_cases number with ⟨stays, _⟩ | ⟨task, running, rfl, ready, same⟩
    · rw [stays]
    · rw [same] at unbound
      rw [(resume_of_mem orderly running ready).1]
      have recalls := task.point.recalls execution.world (remembers.asked task running)
      generalize task.point.cacheEvent? execution.world = event at recalls unbound
      cases recalls with
      | same same => exact same.capacity
      | answered own found bound capacity entry => exact capacity
      | bound own entry => exact absurd rfl (unbound own)
  · exact ((step_apply orderly move).sameCache fun number same => resumes ⟨number, same⟩).capacity

end Execution

/-! ## The calls of one task -/

namespace Execution

variable {execution : Execution} {move : Move} {task : Task} {number : Nat}

/-- The calls that the task with a number makes while moves are made, the earliest first. -/
def callsOf (execution : Execution) (number : Nat) : List Move → List Provider.Call :=
  execution.observed fun task => if task.number = number then task.point.call? else none

theorem callsOf_concat (moves : List Move) (move : Move) :
    execution.callsOf number (moves ++ [move]) = execution.callsOf number moves ++
      (((execution.run moves).acting? move).bind fun task =>
        if task.number = number then task.point.call? else none).toList :=
  observed_concat _ _ _ _

/-- The calls of one task are those that are made under its number. -/
theorem callsOf_eq (execution : Execution) (number : Nat) (moves : List Move) :
    execution.callsOf number moves =
      ((execution.calls moves).filter fun made => made.1 = number).map Prod.snd := by
  induction moves generalizing execution with
  | nil => rfl
  | cons move moves hypothesis =>
      have rest := hypothesis (execution.apply move)
      simp only [callsOf, calls] at rest ⊢
      rw [observed, observed, rest, List.filter_append, List.map_append]
      congr 1
      rcases execution.acting? move with _ | task
      · rfl
      · by_cases own : task.number = number
        · cases made : task.point.call? <;> simp [own, made]
        · cases made : task.point.call? <;> simp [own, made]

/-- Whether a task was started under a number and is no longer under way. -/
def HasEnded (execution : Execution) (number : Nat) : Prop :=
  number < execution.nextNumber ∧ ∀ task, task ∈ execution.running → task.number ≠ number

theorem HasEnded.apply (ended : execution.HasEnded number) (orderly : execution.Orderly)
    (move : Move) : (execution.apply move).HasEnded number := by
  have step := step_apply orderly move
  refine ⟨Nat.lt_of_lt_of_le ended.1 step.nextNumber_le, ?_⟩
  intro task running same
  rcases step.number_of_mem running with ⟨other, old, own⟩ | fresh
  · exact ended.2 other old (own.trans same)
  · exact absurd ended.1 (Nat.not_lt.mpr (same ▸ fresh))

/-- A task that ends with its step is no longer under way. -/
theorem hasEnded_of_done (orderly : execution.Orderly) (acts : execution.acting? move = some task)
    {answer : Answer} {after : World}
    (ends : task.point.resume execution.world = .done answer after) :
    (execution.apply move).HasEnded task.number := by
  rcases apply_of_acting? orderly acts with ⟨earlier, later, split, _, moved⟩
  rw [moved, ends]
  refine ⟨orderly.numbered task (mem_of_eq_append split), ?_⟩
  intro other others
  rcases mem_replace.mp others with left | still
  · cases left
  · exact (orderly.excludes split still).number.symm

theorem reports_of_done (orderly : execution.Orderly) (acts : execution.acting? move = some task)
    {answer : Answer} {after : World}
    (ends : task.point.resume execution.world = .done answer after) :
    (execution.apply move).reports =
      ⟨task.number, task.request, answer⟩ :: execution.reports := by
  rcases apply_of_acting? orderly acts with ⟨earlier, later, split, _, moved⟩
  rw [moved, ends]
  rfl

/-- The steps of others leave a task where it stands, unless it is a watchdog with news. -/
theorem mem_apply_of_other (orderly : execution.Orderly) (running : task ∈ execution.running)
    (quiet : task.point.hasNews execution.world = false)
    (others : execution.acting? move ≠ some task) : task ∈ (execution.apply move).running := by
  have stays : ∀ {own : Task} {earlier later : List Task} {stage : Stage Point Answer},
      execution.running = earlier ++ own :: later → task ≠ own →
      task ∈ (execution.replace earlier own later stage).running := by
    intro own earlier later stage split different
    rw [split, List.mem_append, List.mem_cons] at running
    rcases running with early | rfl | late
    · exact mem_replace.mpr (.inr (List.mem_append_left _ early))
    · exact absurd rfl different
    · exact mem_replace.mpr (.inr (List.mem_append_right _ late))
  rcases acts_or_silent orderly move with
    ⟨own, earlier, later, acts, split, _, moved⟩ | ⟨_, silent⟩
  · rw [moved]
    refine stays split ?_
    rintro rfl
    exact others acts
  · generalize execution.apply move = after at silent
    cases silent with
    | idle move => exact running
    | outside move change changes => exact running
    | started number request fresh held => exact List.mem_append_left _ running
    | looked number session delay agenda fresh scheduled present =>
        exact List.mem_append_left _ running
    | lost number session delay agenda scheduled dropped alone => exact running
    | noticed earlier later own split news =>
        refine stays split ?_
        rintro rfl
        rw [quiet] at news
        cases news

/-- A task that pauses with its step stands at the next point. -/
theorem mem_apply_of_pause (orderly : execution.Orderly) (acts : execution.acting? move = some task)
    {next : Point} {after : World}
    (paused : task.point.resume execution.world = .pause next after) :
    { task with point := next } ∈ (execution.apply move).running := by
  rcases apply_of_acting? orderly acts with ⟨earlier, later, split, _, moved⟩
  rw [moved, paused]
  exact mem_replace.mpr (.inl (List.mem_singleton_self _))

/-- Of the tasks under way, one with the same number is the same. -/
theorem eq_of_number_eq (orderly : execution.Orderly) {other : Task}
    (running : task ∈ execution.running) (others : other ∈ execution.running)
    (same : other.number = task.number) : other = task := by
  have found := task?_of_mem orderly running
  rw [← same, task?_of_mem orderly others] at found
  exact Option.some.inj found

/-- A task that acts is under way. -/
theorem running_of_acting? (acts : execution.acting? move = some task) :
    task ∈ execution.running := by
  rcases acting?_eq_some acts with ⟨_, _, earlier, later, split⟩
  exact mem_of_eq_append split

end Execution

end BuildAgent
