import BuildAgent.Proofs.Cache.Answers
import BuildAgent.Proofs.Tagging.Synchronization

/-!
# The cache is the last good answer

`Execution.cacheLog` is the history of the cache with the time of each event, and
`CacheEntry.recalled` reads an entry off it: the last answer and its time, or nothing if the node
was bound to another instance after it. After every list of moves the entry of the cache is the one
that its log recalls (`Outset.cache_is_last_answer`), and a fetch returns the snapshot of that
entry. No other step touches the entry, whatever it asks the provider.
-/

namespace BuildAgent

/-- The entry that an event leaves. -/
def CacheEvent.entryAt (now : Nat) : CacheEvent → CacheEntry
  | answered _ found => ⟨found, some now⟩
  | bound _ => {}

/-- The entry that a history with times leaves: the last answer, unless something came after it. -/
def CacheEntry.recalled (log : List (Nat × CacheEvent)) : CacheEntry :=
  match log.getLast? with
  | some (now, event) => event.entryAt now
  | none => {}

namespace Execution

/-- What a list of moves does to the cache, with the times at which it does so. -/
def cacheLog (execution : Execution) : List Move → List (Nat × CacheEvent)
  | [] => []
  | move :: moves =>
    ((execution.cacheEvent? move).map (execution.world.clock, ·)).toList ++
      (execution.apply move).cacheLog moves

theorem cacheLog_append (execution : Execution) (earlier later : List Move) :
    execution.cacheLog (earlier ++ later) =
      execution.cacheLog earlier ++ (execution.run earlier).cacheLog later := by
  induction earlier generalizing execution with
  | nil => rfl
  | cons move moves hypothesis =>
      simp only [List.cons_append, cacheLog, hypothesis, List.append_assoc]
      rfl

/-- Without the times, the log is the history. -/
theorem map_cacheLog (execution : Execution) (moves : List Move) :
    (execution.cacheLog moves).map Prod.snd = execution.cacheHistory moves := by
  induction moves generalizing execution with
  | nil => rfl
  | cons move moves hypothesis =>
      simp only [cacheLog, cacheHistory, List.map_append, hypothesis]
      cases execution.cacheEvent? move <;> rfl

end Execution

/-! ## What a step does to the entry -/

namespace FetchPoint

variable {point : FetchPoint} {world : World}

/-- A fetch that is answered ends with the answer in the cache. -/
theorem resume_of_answer {event : CacheEvent} (answered : point.answer? world = some event) :
    ∃ found after, point.resume world = .done found after ∧
      after.node.entry = event.entryAt world.clock := by
  cases point with
  | waiting force => cases answered
  | describing force instanceId =>
      have frame := world.frame_ask fun provider => provider.describe [instanceId]
      rcases asked : (world.ask fun provider => provider.describe [instanceId]) with
        ⟨failure | found, after⟩
      · simp only [answer?, asked] at answered
        cases answered
      · simp only [answer?, asked, Option.some.injEq] at answered
        subst answered
        rw [asked] at frame
        refine ⟨found.head?, keep force instanceId found.head? after, ?_, ?_⟩
        · simp only [resume, asked]
        · show CacheEntry.mk found.head? (some after.clock) = _
          rw [frame.2.2.2.2]
          rfl

/-- An answer shows the instance that was asked for. -/
theorem instanceId_of_answer {instanceId : InstanceId} {snapshot : Snapshot}
    (answered : point.answer? world = some (.answered instanceId (some snapshot))) :
    snapshot.instanceId = instanceId := by
  cases point with
  | waiting force => cases answered
  | describing force own =>
      rcases world.ask_describe own with ⟨failure, after, asked, _⟩ | ⟨after, asked, _⟩
      · simp only [answer?, asked] at answered
        cases answered
      · simp only [answer?, asked, Option.some.injEq, CacheEvent.answered.injEq,
          Option.head?_toList] at answered
        rcases answered with ⟨rfl, found⟩
        exact Provider.instanceId_of_find? found

end FetchPoint

namespace Point

variable {point : Point} {world : World}

/-- An event of the cache leaves its own entry. -/
theorem entry_of_cacheEvent {event : CacheEvent} (happens : point.cacheEvent? world = some event) :
    (point.resume world).world.node.entry = event.entryAt world.clock := by
  cases point with
  | fetching query fetch =>
      rcases FetchPoint.resume_of_answer happens with ⟨found, after, fetched, entry⟩
      simp only [resume, fetched, Stage.andThen_done]
      exact entry
  | looking session inner =>
      cases inner with
      | waiting => cases happens
      | refreshing fetch =>
          rcases FetchPoint.resume_of_answer happens with ⟨found, after, fetched, entry⟩
          have acted : after.SameCache (LookPoint.afterFetch session found after).world :=
            LookPoint.sameCache_act session after _
          simp only [resume, LookPoint.resume, fetched, Stage.andThen_done]
          exact acted.entry.trans entry
  | assigning instanceId announce =>
      simp only [cacheEvent?] at happens
      split at happens
      · cases happens
      · rename_i other
        cases happens
        simp only [resume, assign, Stage.world]
        split <;> simp [Node.bind, other, CacheEvent.entryAt]
  | _ => cases happens

/-- The cache changes when a fetch is answered or when another instance is assigned. -/
theorem answered_or_assigning {event : CacheEvent}
    (happens : point.cacheEvent? world = some event) :
    (∃ instanceId found, point.asked? = some instanceId ∧
      (world.ask fun provider => provider.describe [instanceId]).1 = .ok found) ∨
    ∃ instanceId announce, point = .assigning instanceId announce ∧
      world.node.capacity.bound? ≠ some instanceId := by
  have answers : ∀ fetch : FetchPoint, fetch.answer? world = some event →
      ∃ instanceId found, fetch.asked? = some instanceId ∧
        (world.ask fun provider => provider.describe [instanceId]).1 = .ok found := by
    intro fetch answered
    cases fetch with
    | waiting force => cases answered
    | describing force instanceId =>
        simp only [FetchPoint.answer?] at answered
        split at answered
        · rename_i found asked
          exact ⟨instanceId, found, rfl, asked⟩
        · cases answered
  cases point with
  | fetching query fetch => exact .inl (answers fetch happens)
  | looking session inner =>
      cases inner with
      | waiting => cases happens
      | refreshing fetch => exact .inl (answers fetch happens)
  | assigning instanceId announce =>
      right
      refine ⟨instanceId, announce, rfl, ?_⟩
      intro same
      simp only [cacheEvent?, if_pos same] at happens
      cases happens
  | _ => cases happens

theorem instanceId_of_cacheEvent {instanceId : InstanceId} {snapshot : Snapshot}
    (happens : point.cacheEvent? world = some (.answered instanceId (some snapshot))) :
    snapshot.instanceId = instanceId := by
  cases point with
  | fetching query fetch => exact FetchPoint.instanceId_of_answer happens
  | looking session inner =>
      cases inner with
      | waiting => cases happens
      | refreshing fetch => exact FetchPoint.instanceId_of_answer happens
  | assigning own announce =>
      simp only [cacheEvent?] at happens
      split at happens <;> cases happens
  | _ => cases happens

end Point

namespace Execution

variable {execution before after : Execution} {move : Move} {task : Task}
  {history : List CacheEvent}

/-- Only a task that goes on changes the cache. -/
theorem Step.sameCache (step : before.Step move after) (other : ∀ number, move ≠ .resume number) :
    before.world.SameCache after.world := by
  cases step with
  | idle move => exact ⟨rfl, rfl⟩
  | outside move change changes => exact sameCache_outside changes before.world
  | started number request fresh => exact ⟨rfl, rfl⟩
  | looked number session delay agenda fresh scheduled =>
      exact .of_node (before.world.frame_withAgenda delay agenda).1
  | lost number session delay agenda scheduled dropped =>
      exact .of_node (before.world.frame_withAgenda delay agenda).1
  | advanced move earlier later task stage split takes =>
      cases takes with
      | resume ready => exact absurd rfl (other task.number)
      | notice news =>
          exact .of_through (task.point.through_notice before.world) (fun _ => id) fun _ => id

/-- A task takes a step when it is resumed, or nothing happens. -/
theorem resume_cases (execution : Execution) (number : Nat) :
    execution.apply (.resume number) = execution ∧
        execution.cacheEvent? (.resume number) = none ∨
      ∃ task, task ∈ execution.running ∧ task.number = number ∧ execution.isReady task = true ∧
        execution.cacheEvent? (.resume number) = task.point.cacheEvent? execution.world := by
  rcases found : execution.task? number with _ | task
  · left
    simp [apply, resume, cacheEvent?, found]
  · rcases split_of_task? found with ⟨rfl, earlier, later, split⟩
    by_cases ready : execution.isReady task = true
    · right
      exact ⟨task, mem_of_eq_append split, rfl, ready, by simp [cacheEvent?, found, ready]⟩
    · left
      simp [apply, resume, cacheEvent?, found, ready]

/-- What a move does to the entry of the cache is what its event says. -/
theorem entry_apply (remembers : execution.Remembers history) (orderly : execution.Orderly)
    (move : Move) :
    (execution.apply move).world.node.entry =
      ((execution.cacheEvent? move).map (CacheEvent.entryAt execution.world.clock)).getD
        execution.world.node.entry := by
  by_cases resumes : ∃ number, move = .resume number
  · rcases resumes with ⟨number, rfl⟩
    rcases execution.resume_cases number with ⟨stays, silent⟩ | ⟨task, running, rfl, ready, same⟩
    · rw [stays, silent]
      rfl
    · rw [(resume_of_mem orderly running ready).1, same]
      rcases event : task.point.cacheEvent? execution.world with _ | happens
      · have recalls := task.point.recalls execution.world (remembers.asked task running)
        rw [event] at recalls
        cases recalls with
        | same same => exact same.entry
      · exact Point.entry_of_cacheEvent event
  · have other : ∀ number, move ≠ .resume number := fun number same => resumes ⟨number, same⟩
    have silent : execution.cacheEvent? move = none := by
      cases move with
      | resume number => exact absurd rfl (other number)
      | _ => rfl
    rw [silent]
    exact ((step_apply orderly move).sameCache other).entry

/-- A fetch that ends answers from the entry that its step leaves. -/
theorem reports_of_fetching (orderly : execution.Orderly) (running : task ∈ execution.running)
    {query : Query} {fetch : FetchPoint} (fetches : task.point = .fetching query fetch) :
    (execution.apply (.resume task.number)).reports =
        ⟨task.number, task.request,
          query.answer (execution.apply (.resume task.number)).world.node.entry.snapshot⟩ ::
          execution.reports ∨
      (execution.apply (.resume task.number)).reports = execution.reports ∧
        ∃ force, fetch = .waiting force := by
  by_cases ready : execution.isReady task = true
  · rcases resume_of_mem orderly running ready with ⟨world_eq, reports_eq⟩
    rw [world_eq, reports_eq, fetches]
    rcases fetched : fetch.resume execution.world with ⟨next, after⟩ | ⟨found, after⟩
    · right
      simp only [Point.resume, fetched, Stage.andThen_pause, Stage.reported, List.nil_append,
        true_and]
      cases fetch with
      | waiting force => exact ⟨force, rfl⟩
      | describing force instanceId =>
          simp only [FetchPoint.resume] at fetched
          split at fetched <;> cases fetched
    · left
      have same := FetchPoint.found_eq fetched
      subst same
      simp only [Point.resume, fetched, Stage.andThen_done]
      rfl
  · have stays : execution.apply (.resume task.number) = execution := by
      simp [apply, resume, task?_of_mem orderly running, ready]
    right
    refine ⟨by rw [stays], ?_⟩
    cases fetch with
    | waiting force => exact ⟨force, rfl⟩
    | describing force instanceId =>
        -- A fetch that waits for the provider waits for nothing else.
        exact absurd (by rw [isReady, fetches]; rfl) ready

/-- Every answer in the log shows the instance that was asked for. -/
theorem instanceId_of_mem_cacheLog {moves : List Move} {now : Nat} {instanceId : InstanceId}
    {snapshot : Snapshot}
    (logged : (now, .answered instanceId (some snapshot)) ∈ execution.cacheLog moves) :
    snapshot.instanceId = instanceId := by
  induction moves generalizing execution with
  | nil => cases logged
  | cons move moves hypothesis =>
      simp only [cacheLog, List.mem_append, Option.mem_toList, Option.map_eq_some_iff] at logged
      rcases logged with ⟨event, happens, same⟩ | later
      · cases same
        cases move with
        | resume number =>
            simp only [cacheEvent?] at happens
            split at happens
            · split at happens
              · exact Point.instanceId_of_cacheEvent happens
              · cases happens
            · cases happens
        | _ => cases happens
      · exact hypothesis later

end Execution

namespace Outset

theorem entry_eq_recalled (outset : Outset) (moves : List Move) :
    (outset.execution.run moves).world.node.entry =
      CacheEntry.recalled (outset.execution.cacheLog moves) := by
  induction moves using List.reverseRecOn with
  | nil => rfl
  | append_singleton moves move hypothesis =>
      have remembers := outset.remembers_run moves
      have entry := Execution.entry_apply remembers (outset.sound_run moves).orderly move
      rw [Execution.run_append, Execution.cacheLog_append]
      refine entry.trans ?_
      simp only [Execution.cacheLog, List.append_nil]
      cases (outset.execution.run moves).cacheEvent? move with
      | none => simpa using hypothesis
      | some event => simp [CacheEntry.recalled]

/-- A snapshot in the cache is one of the instance that the node is bound to. -/
theorem bound_of_cached (outset : Outset) (moves : List Move) {snapshot : Snapshot}
    (cached : (outset.execution.run moves).world.node.entry.snapshot = some snapshot) :
    (outset.execution.run moves).world.node.capacity.bound? = some snapshot.instanceId := by
  rw [outset.entry_eq_recalled] at cached
  simp only [CacheEntry.recalled] at cached
  split at cached
  · rename_i now event last
    cases event with
    | bound instanceId => cases cached
    | answered instanceId found =>
        have shown : found = some snapshot := cached
        subst shown
        have logged := List.mem_of_getLast? last
        have named := Execution.instanceId_of_mem_cacheLog logged
        have recalled : (outset.execution.cacheHistory moves).getLast? =
            some (.answered instanceId (some snapshot)) := by
          rw [← Execution.map_cacheLog, List.getLast?_map, last]
          rfl
        rw [named]
        have remembers := outset.remembers_run moves
        exact (remembers.answered instanceId (some snapshot) recalled).1
  · cases cached

/-- **The cache is the last good answer for the current instance.** After any moves:

* The entry holds the last answer that a fetch was given since the node was bound to another
  instance, with the time of that answer, and nothing if there was none.
* A fetch that waits for the provider ends with its next step, and any fetch that ends answers from
  the entry as it is then. So does the fetch of a look.
* Only a fetch that is answered and the assignment of another instance change the entry. In
  particular no fetch that fails does, and no description that another call asks for.
* A snapshot in the cache is one of the instance that the node is bound to. -/
theorem cache_is_last_answer (outset : Outset) (moves : List Move) :
    let now := outset.execution.run moves
    let recalled := fun moves => CacheEntry.recalled (outset.execution.cacheLog moves)
    now.world.node.entry = recalled moves ∧
      (∀ task, task ∈ now.running → ∀ query fetch, task.point = .fetching query fetch →
        (now.apply (.resume task.number)).reports =
            ⟨task.number, task.request,
              query.answer (recalled (moves ++ [.resume task.number])).snapshot⟩ :: now.reports ∨
          (now.apply (.resume task.number)).reports = now.reports ∧
            ∃ force, fetch = .waiting force) ∧
      (∀ task, task ∈ now.running → ∀ session fetch found middle,
        task.point = .looking session (.refreshing fetch) → now.isReady task = true →
        fetch.resume now.world = .done found middle →
        found = (recalled (moves ++ [.resume task.number])).snapshot) ∧
      (∀ move, (now.apply move).world.node.entry ≠ now.world.node.entry →
        ∃ task, task ∈ now.running ∧ move = .resume task.number ∧
          ((∃ instanceId found, task.point.asked? = some instanceId ∧
            (now.world.ask fun provider => provider.describe [instanceId]).1 = .ok found) ∨
          ∃ instanceId announce, task.point = .assigning instanceId announce ∧
            now.world.node.capacity.bound? ≠ some instanceId)) ∧
      ∀ snapshot, now.world.node.entry.snapshot = some snapshot →
        now.world.node.capacity.bound? = some snapshot.instanceId := by
  intro now recalled
  have remembers := outset.remembers_run moves
  have orderly : now.Orderly := (outset.sound_run moves).orderly
  have recalled_after : ∀ move,
      recalled (moves ++ [move]) = (now.apply move).world.node.entry := by
    intro move
    exact (outset.entry_eq_recalled (moves ++ [move])).symm.trans
      (congrArg (fun execution => execution.world.node.entry) (Execution.run_append _ _ _))
  refine ⟨outset.entry_eq_recalled moves, ?_, ?_, ?_, ?_⟩
  · intro task running query fetch fetches
    rw [recalled_after]
    exact Execution.reports_of_fetching orderly running fetches
  · intro task running session fetch found middle looks ready fetched
    rw [recalled_after, (Execution.resume_of_mem orderly running ready).1,
      FetchPoint.found_eq fetched, looks]
    have acted : middle.SameCache (LookPoint.afterFetch session found middle).world :=
      LookPoint.sameCache_act session middle _
    simp only [Point.resume, LookPoint.resume, fetched, Stage.andThen_done]
    exact congrArg CacheEntry.snapshot acted.entry.symm
  · intro move other
    have entry := Execution.entry_apply remembers orderly move
    rcases event_eq : now.cacheEvent? move with _ | event
    · rw [event_eq] at entry
      exact absurd entry other
    · cases move with
      | resume number =>
          rcases now.resume_cases number with ⟨_, silent⟩ | ⟨task, running, rfl, _, same⟩
          · rw [silent] at event_eq
            cases event_eq
          · exact ⟨task, running, rfl, Point.answered_or_assigning (same.symm.trans event_eq)⟩
      | _ => cases event_eq
  · intro snapshot cached
    exact outset.bound_of_cached moves cached

/-- A fetch that waits for the provider when another instance is assigned. The assignment has to
wait, and the answer comes seven milliseconds later. -/
def racedFetch : List Move :=
  [.start 0 (.fetch .snapshot false), .resume 0,
    .start 1 (.assign ⟨['8', '9', 'a', 'b', 'c', 'd', 'e', 'f'], by decide⟩ true), .resume 1,
    .pass 7, .resume 0]

/-- The answer is kept until the other instance is assigned, and never for that one. -/
theorem cache_is_last_answer_raced :
    ((onInstance someInstance).execution.run racedFetch).world.node.entry =
        ⟨some (.running someInstance .epoch), some 7⟩ ∧
      ((onInstance someInstance).execution.run racedFetch).world.node.capacity.bound? =
        some someInstance ∧
      ((onInstance someInstance).execution.run (racedFetch ++ [.resume 1])).world.node.entry =
        {} := by
  rcases (onInstance someInstance).cache_is_last_answer racedFetch with
    ⟨answered, _, _, _, current⟩
  have log : (onInstance someInstance).execution.cacheLog racedFetch =
      [(7, .answered someInstance (some (.running someInstance .epoch)))] := rfl
  have log_after : (onInstance someInstance).execution.cacheLog (racedFetch ++ [.resume 1]) =
      [(7, .answered someInstance (some (.running someInstance .epoch))),
        (7, .bound ⟨['8', '9', 'a', 'b', 'c', 'd', 'e', 'f'], by decide⟩)] := rfl
  have kept := answered.trans (congrArg CacheEntry.recalled log)
  have later := ((onInstance someInstance).cache_is_last_answer (racedFetch ++ [.resume 1])).1
  refine ⟨kept, ?_, later.trans (congrArg CacheEntry.recalled log_after)⟩
  exact current (.running someInstance .epoch) (congrArg CacheEntry.snapshot kept)

end Outset

end BuildAgent
