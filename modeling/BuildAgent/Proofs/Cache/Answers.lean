import BuildAgent.Proofs.Monitor.Effect
import Mathlib.Data.List.Induction

/-!
# What the cache remembers

The cache of a node holds the last answer that the provider gave to a fetch for the instance behind
the node. Two things happen to it (`CacheEvent`): a fetch is answered, or the node is bound to
another instance. `Execution.cacheHistory` is the list of these events along a list of moves, and
`Execution.Remembers` says that the last of them determines what the cache holds.

A fetch holds the cache lock while it waits for its answer, and to bind the node takes that lock, so
an answer is always about the instance behind the node.
-/

namespace BuildAgent

/-- What happens to the cache. -/
inductive CacheEvent where
  | answered (instanceId : InstanceId) (found : Option Snapshot)
  /-- The node was bound to another instance than before. -/
  | bound (instanceId : InstanceId)

/-- The answer that a fetch gets in its next step, if it gets one. -/
def FetchPoint.answer? (point : FetchPoint) (world : World) : Option CacheEvent :=
  match point with
  | waiting _ => none
  | describing _ instanceId =>
    match (world.ask fun provider => provider.describe [instanceId]).1 with
    | .ok found => some (.answered instanceId found.head?)
    | .error _ => none

def FetchPoint.asked? : FetchPoint → Option InstanceId
  | waiting _ => none
  | describing _ instanceId => some instanceId

namespace Point

/-- What the next step of a task does to the cache. -/
def cacheEvent? (point : Point) (world : World) : Option CacheEvent :=
  match point with
  | fetching _ fetch => fetch.answer? world
  | looking _ (.refreshing fetch) => fetch.answer? world
  | assigning instanceId _ =>
    if world.node.capacity.bound? = some instanceId then none else some (.bound instanceId)
  | _ => none

def asked? : Point → Option InstanceId
  | fetching _ fetch => fetch.asked?
  | looking _ (.refreshing fetch) => fetch.asked?
  | _ => none

theorem holds_of_asked? {point : Point} {instanceId : InstanceId}
    (asked : point.asked? = some instanceId) : point.holds .cache = true := by
  cases point with
  | fetching query fetch =>
      cases fetch with
      | waiting force => cases asked
      | describing force own => rfl
  | looking session inner =>
      cases inner with
      | waiting => cases asked
      | refreshing fetch =>
          cases fetch with
          | waiting force => cases asked
          | describing force own => rfl
  | _ => cases asked

end Point

namespace Execution

def cacheEvent? (execution : Execution) : Move → Option CacheEvent
  | .resume number =>
    match execution.task? number with
    | some task =>
      if execution.isReady task then task.point.cacheEvent? execution.world else none
    | none => none
  | _ => none

/-- What a list of moves does to the cache, in order. -/
def cacheHistory (execution : Execution) : List Move → List CacheEvent
  | [] => []
  | move :: moves =>
    (execution.cacheEvent? move).toList ++ (execution.apply move).cacheHistory moves

theorem cacheHistory_append (execution : Execution) (earlier later : List Move) :
    execution.cacheHistory (earlier ++ later) =
      execution.cacheHistory earlier ++ (execution.run earlier).cacheHistory later := by
  induction earlier generalizing execution with
  | nil => rfl
  | cons move moves ih =>
      simp only [List.cons_append, cacheHistory, ih, List.append_assoc]
      rfl

end Execution

/-! ## Steps that leave the cache alone -/

/-- Whether the binding and the entry of the cache are as before. -/
structure World.SameCache (before after : World) : Prop where
  capacity : after.node.capacity = before.node.capacity
  entry : after.node.entry = before.node.entry

namespace World.SameCache

variable {before middle after : World}

theorem trans (earlier : before.SameCache middle) (later : middle.SameCache after) :
    before.SameCache after :=
  ⟨later.capacity.trans earlier.capacity, later.entry.trans earlier.entry⟩

theorem of_node (same : after.node = before.node) : before.SameCache after :=
  ⟨by rw [same], by rw [same]⟩

theorem of_through {permits : Deed → Prop} (through : before.Through permits after)
    (keeps : ∀ entry, ¬permits (.keep entry)) (binds : ∀ instanceId, ¬permits (.bind instanceId)) :
    before.SameCache after := by
  have same : ∀ (deed : Deed) (world : World), permits deed →
      world.SameCache (deed.apply world) := by
    intro deed world permitted
    cases deed with
    | keep entry => exact absurd permitted (keeps entry)
    | bind instanceId => exact absurd permitted (binds instanceId)
    | retire =>
        rcases world.node_retire with kept | kept <;> constructor <;> simp [Deed.apply, kept]
    | _ => constructor <;> simp [Deed.apply]
  constructor
  · exact through.view_eq (fun world => world.node.capacity)
      fun deed world permitted => (same deed world permitted).capacity
  · exact through.view_eq (fun world => world.node.entry)
      fun deed world permitted => (same deed world permitted).entry

theorem andThen {π π' ρ ρ' : Type} {stage : Stage π ρ} {wrap : π → π'}
    {next : ρ → World → Stage π' ρ'} (part : before.SameCache stage.world)
    (rest : ∀ result middle, SameCache middle (next result middle).world) :
    before.SameCache (stage.andThen wrap next).world := by
  cases stage with
  | pause point world => exact part
  | done result world => exact part.trans (rest result world)

theorem of_spares (spares : before.SparesNode after) : before.SameCache after :=
  ⟨spares.view_eq Node.capacity fun _ _ => rfl, spares.view_eq Node.entry fun _ _ => rfl⟩

end World.SameCache

theorem LookPoint.sameCache_act (session : Nat) (world : World) (observation : Reboot.Observation) :
    world.SameCache (act session observation world).2 :=
  .of_spares (spares_act session observation world)

/-! ## What a step does to the cache -/

/-- What an event leaves in the cache. -/
inductive World.Recalls (before after : World) : Option CacheEvent → Prop where
  | same (same : before.SameCache after) : Recalls before after none
  | answered (instanceId : InstanceId) (found : Option Snapshot)
      (asked : before.node.capacity.bound? = some instanceId)
      (capacity : after.node.capacity = before.node.capacity)
      (entry : after.node.entry.snapshot = found) :
      Recalls before after (some (.answered instanceId found))
  | bound (instanceId : InstanceId) (entry : after.node.entry.snapshot = none) :
      Recalls before after (some (.bound instanceId))

theorem World.Recalls.andThen {before : World} {event : Option CacheEvent} {π π' ρ ρ' : Type}
    {stage : Stage π ρ} {wrap : π → π'} {next : ρ → World → Stage π' ρ'}
    (recalls : before.Recalls stage.world event)
    (rest : ∀ result middle, World.SameCache middle (next result middle).world) :
    before.Recalls (stage.andThen wrap next).world event := by
  have same : stage.world.SameCache (stage.andThen wrap next).world :=
    .andThen ⟨rfl, rfl⟩ rest
  cases recalls with
  | same earlier => exact .same (earlier.trans same)
  | answered instanceId found asked capacity entry =>
      exact .answered instanceId found asked (same.capacity.trans capacity)
        (by rw [same.entry, entry])
  | bound instanceId entry => exact .bound instanceId (by rw [same.entry, entry])

namespace FetchPoint

variable {world middle : World}

theorem answer?_ne_bound {point : FetchPoint} {instanceId : InstanceId} :
    point.answer? world ≠ some (.bound instanceId) := by
  intro event
  cases point with
  | waiting force => cases event
  | describing force own =>
      simp only [answer?] at event
      split at event <;> cases event

theorem found_eq {point : FetchPoint} {found : Option Snapshot}
    (fetched : point.resume world = .done found middle) :
    found = middle.node.entry.snapshot := by
  cases point with
  | waiting force =>
      simp only [resume] at fetched
      split at fetched
      · cases fetched
        rfl
      · split at fetched
        · cases fetched
          rfl
        · cases fetched
  | describing force instanceId =>
      simp only [resume] at fetched
      split at fetched
      · cases fetched
        rfl
      · rename_i failure after asked
        have node : after.node = world.node := by
          have frame := (world.frame_ask fun provider => provider.describe [instanceId]).1
          rwa [asked] at frame
        cases fetched
        simp [node]

theorem recalls (point : FetchPoint) (world : World)
    (asked : ∀ instanceId, point.asked? = some instanceId →
      world.node.capacity.bound? = some instanceId) :
    world.Recalls (point.resume world).world (point.answer? world) := by
  cases point with
  | waiting force =>
      simp only [resume]
      split
      · exact .same ⟨rfl, rfl⟩
      · split <;> exact .same ⟨rfl, rfl⟩
  | describing force instanceId =>
      have frame := (world.frame_ask fun provider => provider.describe [instanceId]).1
      rcases answer_eq : (world.ask fun provider => provider.describe [instanceId]) with
        ⟨failure | found, after⟩
      · rw [answer_eq] at frame
        simp only [resume, answer?, answer_eq]
        exact .same (.of_node frame)
      · rw [answer_eq] at frame
        have node : after.node = world.node := frame
        simp only [resume, answer?, answer_eq]
        refine .answered instanceId found.head? (asked instanceId rfl) ?_ rfl
        simp [Stage.world, keep, node]

theorem asked?_of_resume {point next : FetchPoint} {after : World}
    (paused : point.resume world = .pause next after) {instanceId : InstanceId}
    (asked : next.asked? = some instanceId) :
    after.node.capacity.bound? = some instanceId := by
  cases point with
  | waiting force =>
      simp only [resume] at paused
      split at paused
      · cases paused
      · rename_i own bound
        split at paused
        · cases paused
        · cases paused
          cases asked
          exact bound
  | describing force own =>
      simp only [resume] at paused
      split at paused <;> cases paused

end FetchPoint

namespace Point

variable {world after : World}

/-- Only an assignment binds the node. -/
theorem assigning_of_bound {point : Point} {instanceId : InstanceId}
    (event : point.cacheEvent? world = some (.bound instanceId)) :
    ∃ announce, point = .assigning instanceId announce := by
  cases point with
  | assigning own announce =>
      simp only [cacheEvent?] at event
      split at event
      · cases event
      · cases event
        exact ⟨announce, rfl⟩
  | fetching query fetch => exact absurd event FetchPoint.answer?_ne_bound
  | looking session inner =>
      cases inner with
      | waiting => cases event
      | refreshing fetch => exact absurd event FetchPoint.answer?_ne_bound
  | _ => cases event

/-- Every step does to the cache what its event says. -/
theorem recalls (point : Point) (world : World)
    (asked : ∀ instanceId, point.asked? = some instanceId →
      world.node.capacity.bound? = some instanceId) :
    world.Recalls (point.resume world).world (point.cacheEvent? world) := by
  cases point with
  | fetching query fetch => exact (fetch.recalls world asked).andThen fun _ _ => ⟨rfl, rfl⟩
  | looking session inner =>
      cases inner with
      | waiting =>
          have begun := World.SameCache.of_spares (LookPoint.spares_begin session world)
          exact .same (.andThen begun fun _ _ => ⟨rfl, rfl⟩)
      | refreshing fetch =>
          refine World.Recalls.andThen ?_ fun _ _ => ⟨rfl, rfl⟩
          exact (fetch.recalls world asked).andThen fun _ middle =>
            LookPoint.sameCache_act session middle _
  | assigning instanceId announce =>
      simp only [resume, assign, cacheEvent?]
      by_cases same : world.node.capacity.bound? = some instanceId
      · simp only [same, if_true]
        refine .same ?_
        constructor <;> simp [Stage.world, Node.bind, same]
      · simp only [same, if_false]
        refine .bound instanceId ?_
        simp only [Stage.world]
        split <;> simp [Node.bind, same]
  | rebooting afterBuild inner => exact .same (.of_spares (spares_rebooting afterBuild inner world))
  | _ =>
      refine .same (.of_through (Point.through rfl world) ?_ ?_)
      all_goals
        intro what permitted
        simp [permits, Deed.IsNote, Deed.IsLookup, Deed.IsSync, StopPoint.permits,
          TerminatePoint.permits, DisconnectPoint.permits] at permitted

theorem asked?_of_isEntrance {next : Point} (entrance : next.isEntrance = true) :
    next.asked? = none := by
  cases next with
  | fetching query inner =>
      cases inner with
      | waiting force => rfl
      | describing force instanceId => cases entrance
  | looking session inner => cases entrance
  | _ => rfl

theorem asked?_of_resume {point next : Point} (paused : point.resume world = .pause next after)
    {instanceId : InstanceId} (asked : next.asked? = some instanceId) :
    after.node.capacity.bound? = some instanceId := by
  cases leads_of_resume paused with
  | fetching query begun => exact FetchPoint.asked?_of_resume begun asked
  | looking session begun =>
      rename_i inner later
      cases inner with
      | waiting =>
          rcases LookPoint.begin_eq_pause begun with ⟨rfl, _⟩
          cases asked
      | refreshing fetch =>
          rcases Stage.pause_of_andThen_done begun with ⟨inner, asks, rfl⟩
          exact fetch.asked?_of_resume asks asked
  | elsewhere entrance =>
      rw [asked?_of_isEntrance entrance] at asked
      cases asked
  | _ => cases asked

theorem asked?_of_notice {point next : Point} (news : point.hasNews world = true)
    (paused : point.notice world = .pause next after) : next.asked? = none := by
  rcases eq_or_isEntrance_of_notice paused with rfl | entrance
  · cases next with
    | watching watch => rfl
    | _ => cases news
  · exact asked?_of_isEntrance entrance

end Point

/-! ## The history determines the cache -/

namespace Execution

/-- Whether a fetch that waits for its answer asks for the instance behind the node, and the last
event of a history is what the cache holds. -/
structure Remembers (execution : Execution) (history : List CacheEvent) : Prop where
  asked : ∀ task, task ∈ execution.running → ∀ instanceId, task.point.asked? = some instanceId →
    execution.world.node.capacity.bound? = some instanceId
  answered : ∀ instanceId found, history.getLast? = some (.answered instanceId found) →
    execution.world.node.capacity.bound? = some instanceId ∧
      execution.world.node.entry.snapshot = found
  unanswered : (∀ instanceId found, history.getLast? ≠ some (.answered instanceId found)) →
    execution.world.node.entry.snapshot = none

variable {before after : Execution} {move : Move} {history : List CacheEvent}

theorem Remembers.recalls (remembers : before.Remembers history) {world : World}
    {event : Option CacheEvent} (recalls : before.world.Recalls world event) {running : List Task}
    (asked : ∀ task, task ∈ running → ∀ instanceId, task.point.asked? = some instanceId →
      world.node.capacity.bound? = some instanceId) (reports : List Report) (nextNumber : Nat) :
    Remembers ⟨world, running, reports, nextNumber⟩ (history ++ event.toList) := by
  cases recalls with
  | same same =>
      rw [Option.toList_none, List.append_nil]
      refine ⟨asked, ?_, ?_⟩
      · intro instanceId found last
        dsimp only
        rw [same.capacity, same.entry]
        exact remembers.answered instanceId found last
      · intro never
        dsimp only
        rw [same.entry]
        exact remembers.unanswered never
  | answered own found bound capacity entry =>
      refine ⟨asked, ?_, ?_⟩
      · intro instanceId other last
        simp only [Option.toList_some, List.getLast?_append, List.getLast?_singleton,
          Option.some_or, Option.some.injEq, CacheEvent.answered.injEq] at last
        rcases last with ⟨rfl, rfl⟩
        exact ⟨by rw [capacity, bound], entry⟩
      · intro never
        exact absurd (by simp) (never own found)
  | bound own entry =>
      refine ⟨asked, ?_, ?_⟩
      · intro instanceId other last
        simp at last
      · intro _
        exact entry

theorem asked?_entry (request : Request) : request.entry.asked? = none := by
  cases request <;> rfl

theorem Remembers.started (remembers : before.Remembers history) {world : World}
    (same : before.world.SameCache world) {number : Nat} {request : Request} :
    Remembers { before with
      world
      running := before.running ++ [⟨number, request, request.entry⟩]
      nextNumber := number + 1 } (history ++ Option.toList none) := by
  refine remembers.recalls (.same same) ?_ _ _
  intro task running instanceId asked
  rw [List.mem_append, List.mem_singleton] at running
  rcases running with old | rfl
  · rw [same.capacity]
    exact remembers.asked task old instanceId asked
  · rw [asked?_entry] at asked
    cases asked

theorem sameCache_outside {change : World → World} (changes : move.outside? = some change)
    (world : World) : world.SameCache (change world) := by
  cases Move.outside_of_outside? changes with
  | bringOn transfer => exact .of_node (world.node_bringOn transfer).1
  | retire =>
      rcases world.node_retire with kept | kept
      · exact ⟨by rw [kept], by rw [kept]⟩
      · exact ⟨by rw [kept], by rw [kept]⟩
  | happen happening => exact .of_node (happening.frame_apply world).1
  | aside _ _ aside => exact ⟨(aside world).capacity, (aside world).entry⟩

/-- Other tasks still ask for the instance behind the node: to bind it takes the cache lock. -/
theorem Remembers.asked_advanced (remembers : before.Remembers history)
    {earlier later : List Task} {task : Task} (split : before.running = earlier ++ task :: later)
    (ready : before.isReady task = true) :
    ∀ other, other ∈ (before.replace earlier task later (task.point.resume before.world)).running →
      ∀ instanceId, other.point.asked? = some instanceId →
        (task.point.resume before.world).world.node.capacity.bound? = some instanceId := by
  intro other others instanceId asked
  rcases mem_replace.mp others with left | still
  · rcases mem_remaining left with ⟨next, world, stage_eq, rfl⟩
    rw [stage_eq]
    exact Point.asked?_of_resume stage_eq asked
  · have running := mem_of_split split still
    have bound := remembers.asked other running instanceId asked
    have recalls := task.point.recalls before.world
      (remembers.asked task (mem_of_eq_append split))
    generalize event_eq : task.point.cacheEvent? before.world = event at recalls
    cases recalls with
    | same same => rw [same.capacity, bound]
    | answered own found asks capacity entry => rw [capacity, bound]
    | bound own entry =>
        -- To bind the node takes the cache lock, and the other task holds it while it asks.
        rcases Point.assigning_of_bound event_eq with ⟨announce, assigns⟩
        simp only [isReady, assigns, Point.obstacle, isClear] at ready
        have holds := Point.holds_of_asked? asked
        simp [not_holds_of_isFree ready running] at holds

theorem Remembers.same (remembers : before.Remembers history) {world : World}
    (same : before.world.SameCache world) :
    Remembers { before with world } (history ++ Option.toList none) := by
  refine remembers.recalls (.same same) ?_ _ _
  intro task running instanceId asked
  rw [same.capacity]
  exact remembers.asked task running instanceId asked

theorem Remembers.resume (remembers : before.Remembers history) (orderly : before.Orderly)
    (number : Nat) :
    (before.resume number).Remembers
      (history ++ (before.cacheEvent? (.resume number)).toList) := by
  rcases found : before.task? number with _ | task
  · have stays : before.resume number = before := by simp [Execution.resume, found]
    have quiet : before.cacheEvent? (.resume number) = none := by simp [cacheEvent?, found]
    rw [stays, quiet]
    exact remembers.same ⟨rfl, rfl⟩
  · rcases split_of_task? found with ⟨rfl, earlier, later, split⟩
    by_cases ready : before.isReady task = true
    · have resumed : before.resume task.number =
          before.replace earlier task later (task.point.resume before.world) := by
        simp [Execution.resume, found, ready, settle_eq orderly split]
      have event : before.cacheEvent? (.resume task.number) =
          task.point.cacheEvent? before.world := by
        simp [cacheEvent?, found, ready]
      rw [resumed, event]
      refine remembers.recalls ?_ (remembers.asked_advanced split ready) _ _
      exact task.point.recalls before.world (remembers.asked task (mem_of_eq_append split))
    · have stays : before.resume task.number = before := by
        simp [Execution.resume, found, ready]
      have quiet : before.cacheEvent? (.resume task.number) = none := by
        simp [cacheEvent?, found, ready]
      rw [stays, quiet]
      exact remembers.same ⟨rfl, rfl⟩

theorem Remembers.notice (remembers : before.Remembers history) (orderly : before.Orderly)
    (number : Nat) : (before.notice number).Remembers (history ++ Option.toList none) := by
  simp only [Execution.notice]
  split
  · rename_i task found
    rcases split_of_task? found with ⟨rfl, earlier, later, split⟩
    split
    · rename_i news
      rw [settle_eq orderly split]
      have same : before.world.SameCache (task.point.notice before.world).world :=
        .of_through (task.point.through_notice before.world) (fun _ => id) fun _ => id
      refine remembers.recalls (.same same) ?_ _ _
      intro other others instanceId asked
      have taken : other ∈ (before.replace earlier task later
          (task.point.notice before.world)).running := others
      rw [same.capacity]
      rcases mem_replace.mp taken with left | still
      · rcases mem_remaining left with ⟨next, world, paused, rfl⟩
        rw [Point.asked?_of_notice news paused] at asked
        cases asked
      · exact remembers.asked other (mem_of_split split still) instanceId asked
    · exact remembers.same ⟨rfl, rfl⟩
  · exact remembers.same ⟨rfl, rfl⟩

theorem Remembers.apply (remembers : before.Remembers history) (orderly : before.Orderly)
    (move : Move) :
    (before.apply move).Remembers (history ++ (before.cacheEvent? move).toList) := by
  have quiet : ∀ {after : Execution}, before.Step move after →
      before.cacheEvent? move = none → (∀ number, move ≠ .notice number) →
      (∀ number, move ≠ .resume number) →
      after.Remembers (history ++ (before.cacheEvent? move).toList) := by
    intro after step none_event unnoticed unresumed
    rw [none_event]
    cases step with
    | idle move => exact remembers.same ⟨rfl, rfl⟩
    | outside move change changes => exact remembers.same (sameCache_outside changes before.world)
    | started number request fresh => exact remembers.started ⟨rfl, rfl⟩
    | looked number session delay agenda fresh scheduled =>
        exact remembers.started (.of_node (before.world.frame_withAgenda delay agenda).1)
    | lost number session delay agenda scheduled dropped =>
        exact remembers.same (.of_node (before.world.frame_withAgenda delay agenda).1)
    | advanced move earlier later task stage split takes =>
        cases takes with
        | resume ready => exact absurd rfl (unresumed task.number)
        | notice news => exact absurd rfl (unnoticed task.number)
  cases move with
  | resume number => exact remembers.resume orderly number
  | notice number => exact remembers.notice orderly number
  | _ => exact quiet (step_apply orderly _) rfl nofun nofun

end Execution

/-- After every list of moves the cache holds the answer that was given last, unless the node was
bound to another instance since. -/
theorem Outset.remembers_run (outset : Outset) (moves : List Move) :
    (outset.execution.run moves).Remembers (outset.execution.cacheHistory moves) := by
  induction moves using List.reverseRecOn with
  | nil =>
      refine ⟨?_, ?_, ?_⟩
      · intro task running
        cases running
      · intro instanceId found last
        cases last
      · intro _
        rfl
  | append_singleton moves move ih =>
      have remembers := ih.apply (outset.sound_run moves).orderly move
      rw [Execution.run_append, Execution.cacheHistory_append]
      simpa [Execution.cacheHistory, Execution.run] using remembers

end BuildAgent
