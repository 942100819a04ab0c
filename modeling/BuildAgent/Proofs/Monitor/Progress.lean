import BuildAgent.Proofs.Monitor.Openings
import Mathlib.Algebra.GroupWithZero.Nat

/-!
# Every reboot returns

A reboot waits for locks and for the end of a teardown. Whoever holds a lock that it waits for can
go on or waits for a teardown himself, and a teardown comes to its end when time passes: so whatever
is under way, the work can be carried on until no reboot is left (`Outset.reboots_return`).

The measure is `Execution.load`: the steps that the reboots, and the tasks that hold a lock, have
still to take. While a reboot is under way, one of these tasks can take a step
(`Execution.exists_step`), and every such step makes the load smaller.
-/

namespace BuildAgent

/-! ## Teardowns come to their end -/

namespace World

/-- Whether a transfer is work that ends by itself. -/
def IsClosing (world : World) (number : Nat) : Prop :=
  ∃ transfer, world.transfers[number]? = some transfer ∧ transfer.isConnecting = false

variable {before after : World} {number : Nat}

theorem IsClosing.goesOn (closing : before.IsClosing number)
    (goesOn : GoesOn before.transfers after.transfers) : after.IsClosing number := by
  rcases closing with ⟨transfer, found, resting⟩
  rcases goesOn.kept number transfer found with ⟨later, foundLater, advances⟩
  refine ⟨later, foundLater, ?_⟩
  by_contra connecting
  simp [advances.connecting (by simpa using connecting)] at resting

theorem outcome?_bringOn {world : World} {outcome : Link.Outcome} {due : Nat}
    (found : world.transfers[number]? = some (.closing outcome due)) (passed : due ≤ world.clock) :
    (world.bringOn number).outcome? number = some outcome := by
  have inside := (List.getElem?_eq_some_iff.mp found).1
  simp only [bringOn, found, if_pos passed, setTransfer, outcome?, List.getElem?_set_self inside]
  rfl

theorem isClosing_startTeardown (cause : Option OfflineCause) (world : World) :
    (world.startTeardown cause).2.IsClosing (world.startTeardown cause).1 := by
  simp only [startTeardown]
  split
  · exact ⟨.finished (world.endpoint.teardown cause).1, by simp [addTransfer], rfl⟩
  · rename_i delay rest _
    exact ⟨.closing (world.endpoint.teardown cause).1 (world.clock + delay), by simp [addTransfer],
      rfl⟩

end World

namespace DisconnectPoint

variable {point : DisconnectPoint} {world after : World} {number : Nat}

theorem isClosing_of_enter {cause : Option OfflineCause}
    (paused : enter cause world = .pause (.tearing number) after) : after.IsClosing number := by
  simp only [enter, tear] at paused
  split at paused
  · split at paused
    · cases paused
    · cases paused
      exact World.isClosing_startTeardown cause world
  · cases paused

theorem isClosing_of_resume (closing : point = .tearing number → world.IsClosing number)
    (paused : point.resume world = .pause (.tearing number) after) : after.IsClosing number := by
  cases point with
  | entering cause => exact isClosing_of_enter paused
  | requesting cause =>
      cases paused
      exact World.isClosing_startTeardown cause _
  | tearing own =>
      simp only [resume] at paused
      split at paused
      · cases paused
      · cases paused
        exact closing rfl

end DisconnectPoint

namespace Point

/-- The teardown that a reboot waits for. -/
def teardown? : Point → Option Nat
  | rebooting _ (.disconnecting _ (.tearing number)) => some number
  | _ => none

variable {point next : Point} {world after : World} {number : Nat}

theorem reboots_of_teardown? (waits : point.teardown? = some number) :
    ∃ afterBuild session,
      point = .rebooting afterBuild (.disconnecting session (.tearing number)) := by
  simp only [teardown?] at waits
  split at waits
  · cases waits
    exact ⟨_, _, rfl⟩
  · cases waits

theorem teardown?_of_isEntrance (entrance : next.isEntrance = true) : next.teardown? = none := by
  cases next with
  | rebooting afterBuild inner =>
      cases inner with
      | entering => rfl
      | _ => cases afterBuild <;> cases entrance
  | _ => rfl

theorem isClosing_of_resume (closing : point.teardown? = some number → world.IsClosing number)
    (paused : point.resume world = .pause next after) (waits : next.teardown? = some number) :
    after.IsClosing number := by
  cases leads_of_resume paused with
  | rebooting afterBuild begun =>
      rcases reboots_of_teardown? waits with ⟨_, session, same⟩
      cases same
      rename_i inner
      cases inner with
      | entering =>
          simp only [RebootPoint.resume] at begun
          split at begun <;> cases begun
      | waiting =>
          rcases RebootPoint.begin_eq_enter world with ⟨prepared, opened, _⟩
          rw [RebootPoint.resume, opened] at begun
          rcases Stage.andThen_eq_pause begun with ⟨later, entered, same⟩ | ⟨_, _, _, ended⟩
          · cases same
            exact DisconnectPoint.isClosing_of_enter entered
          · cases ended
      | disconnecting own inner =>
          rcases Stage.andThen_eq_pause begun with ⟨later, went, same⟩ | ⟨_, _, _, ended⟩
          · cases same
            refine DisconnectPoint.isClosing_of_resume ?_ went
            rintro rfl
            exact closing rfl
          · cases ended
      | binding own =>
          simp only [RebootPoint.resume] at begun
          split at begun <;> cases begun
      | commanding own instanceId =>
          simp only [RebootPoint.resume] at begun
          split at begun <;> cases begun
      | diagnosing own instanceId failure inner =>
          rcases Stage.andThen_eq_pause begun with ⟨later, went, same⟩ | ⟨_, _, _, ended⟩
          · cases same
          · cases ended
  | elsewhere entrance =>
      rw [teardown?_of_isEntrance entrance] at waits
      cases waits
  | _ => cases waits

end Point

namespace Execution

variable {start before after execution : Execution} {move : Move} {task : Task} {number : Nat}

/-- The teardowns that reboots wait for end by themselves. -/
def Tears (execution : Execution) : Prop :=
  ∀ task number, task ∈ execution.running → task.point.teardown? = some number →
    execution.world.IsClosing number

theorem teardown?_entry (request : Request) : request.entry.teardown? = none := by
  cases request <;> rfl

/-- A step of another task starts no attempt while a reboot holds the session lock. -/
theorem Takes.goesOn {stage : Stage Point Answer} (takes : before.Takes task move stage)
    (sound : before.Sound) {earlier later : List Task}
    (split : before.running = earlier ++ task :: later) {other : Task}
    (others : other ∈ earlier ++ later) (holds : other.point.holds .session = true) :
    GoesOn before.world.transfers stage.world.transfers := by
  have same := takes.session_eq sound.orderly sound.guarded split others holds
  cases (takes.effect sound.guarded (mem_of_eq_append split)).turn with
  | same session goesOn => exact goesOn
  | reset clears resets => exact resets.goesOn
  | attempted current idle attempts =>
      rw [attempts.record] at same
      have none_held := congrArg Reboot.Session.attempt same
      rw [idle] at none_held
      cases none_held
  | retried busy ended retries =>
      rw [retries.transfers]
      exact .refl _

theorem Tears.step (tears : before.Tears) (sound : before.Sound) (step : before.Step move after) :
    after.Tears := by
  cases step with
  | idle move => exact tears
  | outside move change changes =>
      intro task number running waits
      exact (tears task number running waits).goesOn (Move.frame_outside changes before.world).2.2.1
  | started number request fresh =>
      intro task other running waits
      rw [List.mem_append, List.mem_singleton] at running
      rcases running with old | rfl
      · exact tears task other old waits
      · rw [teardown?_entry] at waits
        cases waits
  | looked number session delay agenda fresh scheduled =>
      intro task other running waits
      rw [List.mem_append, List.mem_singleton] at running
      rcases running with old | rfl
      · simpa [World.IsClosing] using tears task other old waits
      · cases waits
  | lost number session delay agenda scheduled dropped =>
      intro task other running waits
      simpa [withWorld, World.IsClosing] using tears task other running waits
  | advanced move earlier later task stage split takes =>
      intro other number others waits
      rcases mem_replace.mp others with left | still
      · rcases mem_remaining left with ⟨next, world, stage_eq, rfl⟩
        generalize stage = own at takes stage_eq
        cases takes with
        | resume ready =>
            simp only [replace, Stage.world, stage_eq]
            exact Point.isClosing_of_resume (tears task number (mem_of_eq_append split)) stage_eq
              waits
        | notice news =>
            rcases Point.eq_or_isEntrance_of_notice stage_eq with same | entrance
            · rcases Point.obstacle_of_hasNews news with ⟨deadline, timed⟩
              rcases Point.reboots_of_teardown? (same ▸ waits) with ⟨afterBuild, session, stands⟩
              rw [stands] at timed
              cases timed
            · rw [Point.teardown?_of_isEntrance entrance] at waits
              cases waits
      · have holds : other.point.holds .session = true := by
          rcases Point.reboots_of_teardown? waits with ⟨afterBuild, session, stands⟩
          rw [stands]
          rfl
        exact (tears other number (mem_of_split split still) waits).goesOn
          (takes.goesOn sound split still holds)

end Execution

/-! ## How much work is left -/

/-- The steps that a fetch has still to take under the cache lock. -/
def FetchPoint.load : FetchPoint → Nat
  | waiting _ => 0
  | describing .. => 1

/-- The steps that a look has still to take under the session lock. -/
def LookPoint.load : LookPoint → Nat
  | waiting => 0
  | refreshing (.waiting _) => 2
  | refreshing (.describing ..) => 1

def DisconnectPoint.load : DisconnectPoint → Nat
  | entering _ => 3
  | requesting _ => 2
  | tearing _ => 1

/-- The steps that a reboot has still to take. -/
def RebootPoint.load : RebootPoint → Nat
  | entering => 9
  | waiting => 8
  | disconnecting _ point => point.load + 4
  | binding _ => 4
  | commanding .. => 3
  | diagnosing _ _ _ .waiting => 2
  | diagnosing _ _ _ (.describing _) => 1

namespace Point

/-- The steps that a reboot has still to take, or a task that holds a lock. -/
def load : Point → Nat
  | fetching _ point => point.load
  | rebooting _ point => point.load
  | looking _ point => point.load
  | _ => 0

end Point

namespace DisconnectPoint

variable {point next : DisconnectPoint} {world after : World}

theorem load_of_enter {cause : Option OfflineCause}
    (paused : enter cause world = .pause next after) : next.load ≤ 2 := by
  simp only [enter, tear] at paused
  split at paused
  · split at paused <;> cases paused <;> simp [load]
  · cases paused

theorem load_of_resume (known : ∀ number, point = .tearing number →
    (world.outcome? number).isSome = true) (paused : point.resume world = .pause next after) :
    next.load < point.load := by
  cases point with
  | entering cause => exact Nat.lt_succ_of_le (load_of_enter paused)
  | requesting cause =>
      cases paused
      exact Nat.one_lt_two
  | tearing number =>
      rcases Option.isSome_iff_exists.mp (known number rfl) with ⟨outcome, ended⟩
      simp [resume, ended] at paused

end DisconnectPoint

theorem RebootPoint.load_of_resume {point next : RebootPoint} {world after : World}
    (known : ∀ session number, point = .disconnecting session (.tearing number) →
      (world.outcome? number).isSome = true)
    (paused : point.resume world = .pause next after) : next.load < point.load := by
  cases point with
  | entering =>
      simp only [resume] at paused
      split at paused <;> cases paused
      simp [load]
  | waiting =>
      rcases begin_eq_enter world with ⟨prepared, begun, _⟩
      rw [resume, begun] at paused
      rcases Stage.andThen_eq_pause paused with ⟨later, entered, rfl⟩ | ⟨_, middle, _, ended⟩
      · have small := DisconnectPoint.load_of_enter entered
        simp only [load]
        omega
      · cases ended
        simp [load]
  | disconnecting session inner =>
      rcases Stage.andThen_eq_pause paused with ⟨later, went, rfl⟩ | ⟨_, middle, _, ended⟩
      · have less := DisconnectPoint.load_of_resume (fun number same => known session number
          (by rw [same])) went
        simp only [load]
        omega
      · cases ended
        cases inner <;> simp [load, DisconnectPoint.load]
  | binding session =>
      simp only [resume] at paused
      split at paused <;> cases paused
      simp [load]
  | commanding session instanceId =>
      simp only [resume] at paused
      split at paused <;> cases paused
      simp [load]
  | diagnosing session instanceId failure inner =>
      rcases Stage.andThen_eq_pause paused with ⟨later, went, rfl⟩ | ⟨_, middle, _, ended⟩
      · cases inner with
        | waiting =>
            simp only [LookupPoint.resume] at went
            split at went <;> cases went
            simp [load]
        | describing own =>
            simp only [LookupPoint.resume] at went
            split at went <;> cases went
      · cases ended

theorem FetchPoint.load_of_resume {point next : FetchPoint} {world after : World}
    (paused : point.resume world = .pause next after) :
    (∃ force, point = .waiting force) ∧ next.load = 1 := by
  cases point with
  | waiting force =>
      simp only [resume] at paused
      split at paused
      · cases paused
      · split at paused <;> cases paused
        exact ⟨⟨force, rfl⟩, rfl⟩
  | describing force instanceId =>
      simp only [resume] at paused
      split at paused <;> cases paused

/-- A step of a task that has work left to do brings it closer to its end. -/
theorem Point.load_of_resume {point next : Point} {world after : World} (busy : 0 < point.load)
    (known : ∀ number, point.teardown? = some number → (world.outcome? number).isSome = true)
    (paused : point.resume world = .pause next after) : next.load < point.load := by
  cases point with
  | rebooting afterBuild inner =>
      rcases Stage.andThen_eq_pause paused with ⟨later, begun, rfl⟩ | ⟨_, middle, _, ended⟩
      · refine RebootPoint.load_of_resume ?_ begun
        rintro session number rfl
        exact known number rfl
      · exact absurd ended afterReboot_ne_pause
  | looking session inner =>
      rcases Stage.pause_of_andThen_done paused with ⟨later, begun, rfl⟩
      cases inner with
      | waiting => cases busy
      | refreshing fetch =>
          rcases Stage.pause_of_andThen_done begun with ⟨last, fetched, rfl⟩
          rcases FetchPoint.load_of_resume fetched with ⟨⟨force, rfl⟩, one⟩
          cases last with
          | waiting force => cases one
          | describing force instanceId => simp [load, LookPoint.load]
  | fetching query fetch =>
      rcases Stage.pause_of_andThen_done paused with ⟨later, fetched, rfl⟩
      rcases FetchPoint.load_of_resume fetched with ⟨⟨force, rfl⟩, _⟩
      cases busy
  | _ => cases busy

/-! ## Somebody can always go on -/

namespace Point

/-- Whether a task reboots the node. -/
def isRebooting : Point → Bool
  | rebooting .. => true
  | _ => false

variable {point : Point}

theorem free_of_holds_cache (holds : point.holds .cache = true) :
    0 < point.load ∧ point.obstacle = none := by
  cases point with
  | fetching query fetch =>
      cases fetch with
      | waiting force => cases holds
      | describing force instanceId => exact ⟨Nat.one_pos, rfl⟩
  | looking session inner =>
      cases inner with
      | waiting => cases holds
      | refreshing fetch =>
          cases fetch with
          | waiting force => cases holds
          | describing force instanceId => exact ⟨Nat.one_pos, rfl⟩
  | rebooting afterBuild inner => cases holds
  | _ => cases holds

/-- What a reboot can wait for. -/
theorem obstacle_of_isRebooting (reboots : point.isRebooting = true) :
    0 < point.load ∧ (point.obstacle = none ∨ point.obstacle = some (.lock .cache) ∨
      (∃ number, point.teardown? = some number) ∨
      point.obstacle = some (.lock .session) ∧ point.holds .session = false) := by
  cases point with
  | rebooting afterBuild inner =>
      cases inner with
      | entering => exact ⟨by simp [load, RebootPoint.load], .inl rfl⟩
      | waiting => exact ⟨by simp [load, RebootPoint.load], .inr (.inr (.inr ⟨rfl, rfl⟩))⟩
      | disconnecting session inner =>
          refine ⟨Nat.lt_of_lt_of_le (by omega) (Nat.le_add_left 4 _), ?_⟩
          cases inner with
          | tearing number => exact .inr (.inr (.inl ⟨number, rfl⟩))
          | _ => exact .inl rfl
      | binding session => exact ⟨by simp [load, RebootPoint.load], .inr (.inl rfl)⟩
      | commanding session instanceId => exact ⟨by simp [load, RebootPoint.load], .inl rfl⟩
      | diagnosing session instanceId failure inner =>
          cases inner with
          | waiting => exact ⟨by simp [load, RebootPoint.load], .inr (.inl rfl)⟩
          | describing own => exact ⟨by simp [load, RebootPoint.load], .inl rfl⟩
  | _ => cases reboots

/-- What a task that holds the session lock can wait for. -/
theorem obstacle_of_holds_session (holds : point.holds .session = true) :
    0 < point.load ∧ (point.obstacle = none ∨ point.obstacle = some (.lock .cache) ∨
      ∃ number, point.teardown? = some number) := by
  cases point with
  | rebooting afterBuild inner =>
      have reboots : (rebooting afterBuild inner).isRebooting = true := rfl
      rcases obstacle_of_isRebooting reboots with ⟨busy, waits⟩
      refine ⟨busy, ?_⟩
      rcases waits with free | cache | tears | ⟨_, outside⟩
      · exact .inl free
      · exact .inr (.inl cache)
      · exact .inr (.inr tears)
      · rw [outside] at holds
        cases holds
  | looking session inner =>
      cases inner with
      | waiting => cases holds
      | refreshing fetch =>
          cases fetch with
          | waiting force => exact ⟨Nat.two_pos, .inr (.inl rfl)⟩
          | describing force instanceId => exact ⟨Nat.one_pos, .inl rfl⟩
  | _ => cases holds

/-- A task that has work left to do does not retire the node. -/
theorem retired_of_load (busy : 0 < point.load) (world : World) :
    (point.resume world).world.node.retired = world.node.retired := by
  cases point with
  | rebooting afterBuild inner =>
      exact (spares_rebooting afterBuild inner world).view_eq Node.retired fun _ _ => rfl
  | looking session inner =>
      cases inner with
      | waiting => cases busy
      | refreshing fetch =>
          have fetched := (World.Quiet.of_through id (fetch.through world)).standing
          simp only [resume, LookPoint.resume]
          generalize fetch.resume world = stage at fetched ⊢
          cases stage with
          | pause later middle => exact congrArg (fun standing => standing.1) fetched
          | done found middle =>
              have acted := (LookPoint.spares_act session
                (.idle (found.any Snapshot.isAlive)
                  (middle.offlineCause.any fun cause => cause.isRebootFor session)) middle).view_eq
                Node.retired fun _ _ => rfl
              exact acted.trans (congrArg (fun standing => standing.1) fetched)
  | fetching query fetch =>
      have through : world.Through (fetching query fetch).permits _ := Point.through rfl world
      exact congrArg (fun standing => standing.1) (World.Quiet.of_through id through).standing
  | _ => cases busy

end Point

namespace Execution

variable {execution : Execution} {task : Task} {number : Nat}

theorem exists_holds {lock : Lock} (taken : execution.isFree lock = false) :
    ∃ task, task ∈ execution.running ∧ task.point.holds lock = true := by
  simpa [isFree] using taken

/-- While a reboot is under way, somebody who has work left to do can go on, or waits for a teardown
alone. -/
theorem exists_able (running : task ∈ execution.running)
    (reboots : task.point.isRebooting = true) : ∃ other, other ∈ execution.running ∧
      0 < other.point.load ∧ (execution.isReady other = true ∨
        ∃ number, other.point.teardown? = some number) := by
  have able : ∀ {other : Task}, other.point.obstacle = none → execution.isReady other = true := by
    intro other free
    rw [isReady, free]
    rfl
  rcases cache : execution.isFree .cache with _ | _
  · rcases exists_holds cache with ⟨other, among, holds⟩
    have free := Point.free_of_holds_cache holds
    exact ⟨other, among, free.1, .inl (able free.2)⟩
  have given : ∀ {other : Task}, other.point.obstacle = some (.lock .cache) →
      execution.isReady other = true := by
    intro other waits
    rw [isReady, waits]
    exact cache
  rcases session : execution.isFree .session with _ | _
  · rcases exists_holds session with ⟨other, among, holds⟩
    rcases Point.obstacle_of_holds_session holds with ⟨busy, free | waits | tears⟩
    · exact ⟨other, among, busy, .inl (able free)⟩
    · exact ⟨other, among, busy, .inl (given waits)⟩
    · exact ⟨other, among, busy, .inr tears⟩
  · rcases Point.obstacle_of_isRebooting reboots with ⟨busy, free | waits | tears | ⟨waits, _⟩⟩
    · exact ⟨task, running, busy, .inl (able free)⟩
    · exact ⟨task, running, busy, .inl (given waits)⟩
    · exact ⟨task, running, busy, .inr tears⟩
    · refine ⟨task, running, busy, .inl ?_⟩
      rw [isReady, waits]
      exact session

/-! ## Every step makes the load smaller -/

/-- The steps that are left to the reboots and to the tasks that hold a lock. -/
def load (execution : Execution) : Nat :=
  (execution.running.map fun task => task.point.load).sum

theorem load_replace {earlier later : List Task} {stage : Stage Point Answer}
    (split : execution.running = earlier ++ task :: later) (busy : 0 < task.point.load)
    (less : ∀ next world, stage = .pause next world → next.load < task.point.load) :
    (execution.replace earlier task later stage).load < execution.load := by
  cases stage with
  | pause next world =>
      have closer := less next world rfl
      simp only [load, replace, Stage.remaining, split, List.map_append, List.map_cons,
        List.map_nil, List.sum_append, List.sum_cons, List.sum_nil]
      omega
  | done answer world =>
      simp only [load, replace, Stage.remaining, split, List.map_append, List.map_cons,
        List.map_nil, List.sum_append, List.sum_cons, List.sum_nil]
      omega

end Execution

/-- Whether a move only carries on what is under way. -/
def Move.isWork : Move → Bool
  | resume _ => true
  | bringOn _ => true
  | pass _ => true
  | _ => false

/-- Whether a move only lets time pass, or lets work on the link go on. -/
def Move.isWaiting : Move → Bool
  | bringOn _ => true
  | pass _ => true
  | _ => false

/-- Whether a move only lets time pass, or lets one piece of work on the link go on. -/
def Move.waitsFor (number : Nat) : Move → Bool
  | bringOn other => other = number
  | pass _ => true
  | _ => false

theorem Move.isWaiting_of_waitsFor {number : Nat} {move : Move}
    (waits : move.waitsFor number = true) : move.isWaiting = true := by
  cases move <;> first | rfl | cases waits

theorem Move.isWork_of_isWaiting {move : Move} (waits : move.isWaiting = true) :
    move.isWork = true := by
  cases move <;> first | rfl | cases waits

theorem Point.obstacle_of_teardown? {point : Point} {number : Nat}
    (waits : point.teardown? = some number) : point.obstacle = some (.transfer number) := by
  rcases reboots_of_teardown? waits with ⟨afterBuild, session, rfl⟩
  rfl

namespace Execution

variable {execution : Execution} {task : Task} {number : Nat}

/-- Time brings a teardown to its end, and no other work has to go on for that. -/
theorem exists_wait (closing : execution.world.IsClosing number) :
    ∃ moves, (∀ move, move ∈ moves → move.waitsFor number = true) ∧
      (execution.run moves).running = execution.running ∧
      (execution.run moves).world.node = execution.world.node ∧
      ((execution.run moves).world.outcome? number).isSome = true := by
  rcases closing with ⟨transfer, found, resting⟩
  cases transfer with
  | dialing explicit due => cases resting
  | hanging => cases resting
  | finished outcome =>
      refine ⟨[], by simp, rfl, rfl, ?_⟩
      simp [run, World.outcome?, found, Transfer.outcome?]
  | aborted =>
      refine ⟨[], by simp, rfl, rfl, ?_⟩
      simp [run, World.outcome?, found, Transfer.outcome?]
  | closing outcome due =>
      refine ⟨[.pass due, .bringOn number], by simp [Move.waitsFor], rfl, ?_, ?_⟩
      · exact (World.node_bringOn _ number).1
      · exact Option.isSome_of_eq_some (World.outcome?_bringOn found (Nat.le_add_left due _))

/-- Time brings a teardown to its end, and leaves the tasks and the node alone. -/
theorem exists_end (closing : execution.world.IsClosing number) :
    ∃ moves, (∀ move, move ∈ moves → move.isWaiting = true) ∧
      (execution.run moves).running = execution.running ∧
      (execution.run moves).world.node = execution.world.node ∧
      ((execution.run moves).world.outcome? number).isSome = true := by
  rcases exists_wait closing with ⟨moves, waits, same, node, ended⟩
  exact ⟨moves, fun move made => Move.isWaiting_of_waitsFor (waits move made), same, node, ended⟩

/-- While a reboot is under way, the work left can be made less. -/
theorem exists_step (sound : execution.Sound) (tears : execution.Tears)
    (managed : execution.world.node.retired = false) (running : task ∈ execution.running)
    (reboots : task.point.isRebooting = true) :
    ∃ moves, (∀ move, move ∈ moves → move.isWork = true) ∧
      (execution.run moves).load < execution.load ∧
      (execution.run moves).world.node.retired = false := by
  rcases exists_able running reboots with ⟨other, among, busy, able⟩
  -- Whoever waits for a teardown is ready once it has come to its end.
  have waited : ∃ moves, (∀ move, move ∈ moves → move.isWork = true) ∧
      (execution.run moves).running = execution.running ∧
      (execution.run moves).world.node = execution.world.node ∧
      (execution.run moves).isReady other = true := by
    rcases able with ready | ⟨number, waits⟩
    · exact ⟨[], by simp, rfl, rfl, ready⟩
    · rcases exists_end (tears other number among waits) with ⟨moves, wait, same, node, ended⟩
      refine ⟨moves, fun move made => Move.isWork_of_isWaiting (wait move made), same, node, ?_⟩
      rw [isReady, Point.obstacle_of_teardown? waits]
      exact ended
  rcases waited with ⟨moves, work, same, node, ready⟩
  have soundly := sound.run moves
  rw [← same] at among
  rcases apply_of_acting? soundly.orderly (acting?_of_ready soundly.orderly among ready) with
    ⟨earlier, later, split, _, moved⟩
  have known : ∀ number, other.point.teardown? = some number →
      ((execution.run moves).world.outcome? number).isSome = true := by
    intro number waits
    rw [isReady, Point.obstacle_of_teardown? waits] at ready
    exact ready
  refine ⟨moves ++ [.resume other.number], ?_, ?_, ?_⟩
  · intro move made
    rw [List.mem_append, List.mem_singleton] at made
    rcases made with early | rfl
    · exact work move early
    · rfl
  · have less := load_replace split busy fun next world paused =>
      Point.load_of_resume busy known paused
    rw [run_append]
    simp only [run, List.foldl_cons, List.foldl_nil] at moved less ⊢
    rw [moved]
    exact Nat.lt_of_lt_of_eq less (by simp only [load, run] at same ⊢; rw [same])
  · rw [run_append]
    simp only [run, List.foldl_cons, List.foldl_nil] at moved node ⊢
    rw [moved]
    exact (Point.retired_of_load busy _).trans (by rw [node]; exact managed)

/-! ## What was asked for is not forgotten -/

/-- A task is under way, or there is a report on it. -/
def Pursues (execution : Execution) (number : Nat) (request : Request) : Prop :=
  (∃ task, task ∈ execution.running ∧ task.number = number ∧ task.request = request) ∨
    ∃ answer, ⟨number, request, answer⟩ ∈ execution.reports

variable {before after : Execution} {move : Move} {request : Request}

theorem Pursues.step (pursues : before.Pursues number request) (step : before.Step move after) :
    after.Pursues number request := by
  cases step with
  | idle move => exact pursues
  | outside move change changes => exact pursues
  | started other asked fresh =>
      refine pursues.imp_left ?_
      rintro ⟨task, running, same⟩
      exact ⟨task, List.mem_append_left _ running, same⟩
  | looked other session delay agenda fresh scheduled =>
      refine pursues.imp_left ?_
      rintro ⟨task, running, same⟩
      exact ⟨task, List.mem_append_left _ running, same⟩
  | lost other session delay agenda scheduled dropped => exact pursues
  | advanced move earlier later task stage split takes =>
      rcases pursues with ⟨own, running, rfl, rfl⟩ | ⟨answer, reported⟩
      · rw [split, List.mem_append, List.mem_cons] at running
        rcases running with early | rfl | late
        · exact .inl ⟨own, mem_replace.mpr (.inr (List.mem_append_left _ early)), rfl, rfl⟩
        · cases stage with
          | pause next world =>
              exact .inl ⟨_, mem_replace.mpr (.inl (List.mem_singleton_self _)), rfl, rfl⟩
          | done answer world => exact .inr ⟨answer, List.mem_cons_self⟩
        · exact .inl ⟨own, mem_replace.mpr (.inr (List.mem_append_right _ late)), rfl, rfl⟩
      · exact .inr ⟨answer, List.mem_append_right _ reported⟩

end Execution

namespace Outset

theorem tears_run (outset : Outset) (moves : List Move) :
    (outset.execution.run moves).Tears := by
  refine outset.sound_execution.run_induction (fun _ => True) Execution.Tears ?_ ?_ moves
    fun _ _ => trivial
  · intro before after move sound _ step tears
    exact tears.step sound step
  · intro task number running
    cases running

theorem pursues_run (outset : Outset) (earlier later : List Move) {number : Nat} {request : Request}
    (pursues : (outset.execution.run earlier).Pursues number request) :
    (outset.execution.run (earlier ++ later)).Pursues number request := by
  rw [Execution.run_append]
  refine (outset.sound_run earlier).run_induction (fun _ => True)
    (fun execution => execution.Pursues number request) ?_ pursues later fun _ _ => trivial
  intro before after move _ _ step pursues
  exact pursues.step step

/-- The work can be carried on until no reboot is under way. -/
theorem reboots_end (outset : Outset) (moves : List Move)
    (managed : (outset.execution.run moves).world.node.retired = false) :
    ∃ rest, (∀ move, move ∈ rest → move.isWork = true) ∧
      (outset.execution.run (moves ++ rest)).world.node.retired = false ∧
      ∀ task, task ∈ (outset.execution.run (moves ++ rest)).running →
        task.point.isRebooting = false := by
  -- The induction is on the steps that are left.
  induction left : (outset.execution.run moves).load using Nat.strongRecOn
    generalizing moves with
  | ind left hypothesis =>
      by_cases quiet : ∀ task, task ∈ (outset.execution.run moves).running →
          task.point.isRebooting = false
      · exact ⟨[], by simp, by simpa using managed, by simpa using quiet⟩
      · push Not at quiet
        rcases quiet with ⟨task, running, reboots⟩
        rcases Execution.exists_step (outset.sound_run moves) (outset.tears_run moves) managed
          running (by simpa using reboots) with ⟨first, work, less, still⟩
        rw [← Execution.run_append] at less still
        rcases hypothesis _ (left ▸ less) (moves ++ first) still rfl with ⟨rest, works, kept, quiet⟩
        rw [List.append_assoc] at kept quiet
        refine ⟨first ++ rest, ?_, kept, quiet⟩
        intro move made
        exact (List.mem_append.mp made).elim (work move) (works move)

/-- Whatever is under way, the work can be carried on until every reboot that was asked for has
returned. -/
theorem reboots_return (outset : Outset) (moves : List Move)
    (managed : (outset.execution.run moves).world.node.retired = false) :
    ∃ rest, (∀ move, move ∈ rest → move.isWork = true) ∧
      (outset.execution.run (moves ++ rest)).world.node.retired = false ∧
      ∀ task, task ∈ (outset.execution.run moves).running → task.request = .reboot →
        ∃ answer, ⟨task.number, .reboot, answer⟩ ∈
          (outset.execution.run (moves ++ rest)).reports := by
  rcases outset.reboots_end moves managed with ⟨rest, work, still, quiet⟩
  refine ⟨rest, work, still, ?_⟩
  intro task running asked
  rcases outset.pursues_run moves rest (.inl ⟨task, running, rfl, asked⟩) with
    ⟨other, among, _, reboots⟩ | returned
  · rcases (outset.faithful_run (moves ++ rest)).rebooting among reboots with ⟨inner, stands⟩
    have ended := quiet other among
    rw [stands] at ended
    cases ended
  · exact returned

end Outset

end BuildAgent
