import BuildAgent.Proofs.Task.Requests
import BuildAgent.Proofs.Watchdog.Phases

/-!
# The turns of a watchdog

The loop of a watchdog takes a turn when its interval is over and when the shutdown channel wakes it
up. At one instant it takes as many turns as it is late, one for each value that is sent, and one to
end (`Watch.turnsLeft`), as long as somebody can still send or the last value ends the watch. A
channel that is closed on any other value wakes the watchdog up again and again
(`WatchTurn.spun`), and nothing changes with such a turn, so it can be followed by any number of
others. The main theorem, `Outset.turns_at_one_instant`, says both.

The memory of a watchdog is that of its last look wherever its task stands (`Point.watch?`), and a
step changes it when the interval is over and then only (`Point.watch?_of_resume`). So the turns
that are left are a measure that no step of any task enlarges, and that each turn but one without
news makes smaller (`Execution.turnsLeft_apply`).
-/

namespace BuildAgent

/-- Why the loop of a watchdog takes a turn. -/
inductive WatchTurn where
  /-- The interval is over. -/
  | ticked
  /-- There is a value that was not seen before, or the channel was closed on one that ends the
  watch. -/
  | told
  /-- The channel is closed, and there is nothing new in it. -/
  | spun
  deriving DecidableEq, Repr

/-- Whether the sending end is gone, without having told the watchdogs to end. -/
def ShutdownSignal.IsAbandoned (signal : ShutdownSignal) : Prop :=
  signal.isOpen = false ∧ signal.value = false

namespace Watch

/-- The turn that the shutdown channel makes a resting watchdog take. -/
def heeds? (watch : Watch) (signal : ShutdownSignal) : Option WatchTurn :=
  if watch.seen ≠ signal.count then some .told
  else if signal.isOpen then none
  else if signal.value then some .told
  else some .spun

/-- A watchdog spins if it knows all that an abandoned channel holds. -/
theorem heeds?_eq_spun_iff {watch : Watch} {signal : ShutdownSignal} :
    watch.heeds? signal = some .spun ↔ watch.seen = signal.count ∧ signal.IsAbandoned := by
  by_cases known : watch.seen = signal.count
  · cases signal.isOpen <;> cases signal.value <;>
      simp_all [heeds?, ShutdownSignal.IsAbandoned]
  · simp [heeds?, known]

/-- The turns that a watchdog can take while time stands still and nothing is sent: the looks that
are due, at most one for each millisecond, one for what was sent, and one to end. -/
def turnsLeft (watch : Watch) (world : World) : Nat :=
  (world.clock + 1 - watch.deadline) + (if watch.seen = world.signal.count then 0 else 1) + 1

/-- The memory after the interval was over. -/
def wind (watch : Watch) : Watch :=
  { watch with deadline := watch.deadline + watch.interval }

theorem turnsLeft_wind {watch : Watch} {world : World} (positive : 0 < watch.interval)
    (due : watch.deadline ≤ world.clock) :
    watch.wind.turnsLeft world + 1 ≤ watch.turnsLeft world := by
  have sooner : world.clock + 1 - (watch.deadline + watch.interval) + 1 ≤
      world.clock + 1 - watch.deadline := by omega
  by_cases known : watch.seen = world.signal.count
  · simpa [turnsLeft, wind, known] using sooner
  · simpa [turnsLeft, wind, known] using sooner

theorem turnsLeft_congr {watch : Watch} {world after : World} (same : after.given = world.given) :
    watch.turnsLeft after = watch.turnsLeft world := by
  rcases Prod.mk.inj same with ⟨clock, signal⟩
  simp only [turnsLeft, clock, signal]

end Watch

/-! ## The memory of a watchdog -/

def Caller.watch? : Caller → Option Watch
  | watchdog watch => some watch
  | _ => none

def Consultation.watch? : Consultation → Option Watch
  | idleLimit watch => some watch
  | idleAction caller => caller.watch?
  | _ => none

namespace Point

/-- The memory of the watchdog that stands at a point. One that is about to start has the memory
that it will start with. -/
def watch? (point : Point) (world : World) : Option Watch :=
  match point with
  | startingWatch interval => some ⟨interval, world.clock, 0⟩
  | watching watch => some watch
  | consulting consultation => consultation.watch?
  | stopping caller _ => caller.watch?
  | terminating caller _ => caller.watch?
  | _ => none

/-- The interval of the watchdog that stands at a point. -/
def pace? (point : Point) (world : World) : Option Nat :=
  (point.watch? world).map Watch.interval

/-- The turns that are left to the watchdog that stands at a point. -/
def turnsLeft (point : Point) (world : World) : Nat :=
  ((point.watch? world).map fun watch => watch.turnsLeft world).getD 0

/-- Whether the step at a point is a turn. -/
def isTurn : Point → Bool
  | watching _ => true
  | _ => false

/-- The turn that a task takes when it takes notice of the shutdown channel. -/
def heeds? (point : Point) (world : World) : Option WatchTurn :=
  match point with
  | watching watch => watch.heeds? world.signal
  | _ => none

variable {point next : Point} {world after : World}

theorem turnsLeft_congr (same : after.given = world.given) :
    point.turnsLeft after = point.turnsLeft world := by
  rcases Prod.mk.inj same with ⟨clock, signal⟩
  simp only [turnsLeft, watch?, Watch.turnsLeft, clock, signal]

/-- A watchdog has the same interval in every world. -/
theorem pace?_eq (point : Point) (world other : World) : point.pace? world = point.pace? other := by
  cases point <;> rfl

theorem watch?_of_watchPhase? (other : point.watchPhase? = none) : point.watch? world = none := by
  cases point with
  | consulting consultation =>
      cases consultation with
      | idleLimit watch => cases other
      | idleAction caller => cases caller <;> first | rfl | cases other
      | _ => rfl
  | stopping caller inner => cases caller <;> first | rfl | cases other
  | terminating caller inner => cases caller <;> first | rfl | cases other
  | startingWatch interval => cases other
  | watching watch => cases other
  | _ => rfl

theorem watch?_of_afterAction {watch : Watch} {action : IdleAction}
    (paused : afterAction (.watchdog watch) action world = .pause next after) :
    next.watch? after = some watch := by
  simp only [afterAction] at paused
  split at paused
  · cases paused
  · cases paused
    rfl

theorem watch?_of_idleLimit {watch : Watch}
    (paused : consult (.idleLimit watch) world = .pause next after) :
    next.watch? after = some watch := by
  simp only [consult] at paused
  split at paused
  · cases paused
    rfl
  · split at paused
    · cases paused
      rfl
    · cases paused
      rfl

/-- A step leaves the memory of a watchdog alone, but for the step with which it begins to look. -/
theorem watch?_of_resume (paused : point.resume world = .pause next after) :
    next.watch? after =
      if point.isTurn then (point.watch? world).map Watch.wind else point.watch? world := by
  have watches := point.watches world
  generalize point.watchDeed? world = deed at watches
  rcases phase : point.watchPhase? with _ | _
  · rw [phase, paused] at watches
    cases watches with
    | outside other =>
        rw [watch?_of_watchPhase? other, watch?_of_watchPhase? phase]
        simp
  · cases point with
    | consulting consultation =>
        cases consultation with
        | idleLimit watch => exact watch?_of_idleLimit paused
        | idleAction caller =>
            simp only [resume, consult] at paused
            split at paused <;> cases paused <;> rfl
        | _ => cases phase
    | stopping caller inner =>
        rcases Stage.andThen_eq_pause paused with ⟨later, _, rfl⟩ | ⟨accepted, middle, _, ended⟩
        · rfl
        · cases caller with
          | watchdog watch =>
              have acted : afterAction (.watchdog watch) (.stopped accepted) middle =
                  .pause next after := ended
              exact watch?_of_afterAction acted
          | _ => cases phase
    | terminating caller inner =>
        rcases Stage.andThen_eq_pause paused with ⟨later, _, rfl⟩ | ⟨accepted, middle, _, ended⟩
        · rfl
        · cases caller with
          | watchdog watch =>
              have acted : afterAction (.watchdog watch) (.terminated accepted)
                  (if accepted then middle.retire else middle) = .pause next after := ended
              exact watch?_of_afterAction acted
          | _ => cases phase
    | startingWatch interval =>
        cases paused
        rfl
    | watching watch =>
        simp only [resume, watchLook] at paused
        split at paused
        · cases paused
        · cases paused
          rfl
    | _ => cases phase

theorem pace?_of_resume (paused : point.resume world = .pause next after) :
    next.pace? = point.pace? := by
  funext other
  rw [pace?_eq next other after, pace?_eq point other world, pace?, pace?,
    watch?_of_resume paused]
  split
  · rw [Option.map_map]
    rfl
  · rfl

theorem pace?_of_notice (paused : point.notice world = .pause next after) :
    next.pace? = point.pace? := by
  cases point with
  | watching watch =>
      simp only [notice] at paused
      split at paused
      · cases paused
      · cases paused
        rfl
  | _ =>
      cases paused
      rfl

end Point

/-! ## The turns that are left -/

def Move.isSend : Move → Bool
  | send _ => true
  | _ => false

def Stage.turnsLeft : Stage Point Answer → Nat
  | pause point world => point.turnsLeft world
  | done _ _ => 0

namespace Point

variable {point : Point} {world : World}

theorem turnsLeft_resume (due : ∀ watch, point = .watching watch → watch.deadline ≤ world.clock)
    (positive : ∀ interval, point.pace? world = some interval → 0 < interval) :
    (point.resume world).turnsLeft + (if point.isTurn then 1 else 0) ≤ point.turnsLeft world := by
  have given := point.given_resume world
  rcases stage_eq : point.resume world with ⟨next, after⟩ | ⟨answer, after⟩
  · rw [stage_eq] at given
    have same (watch : Watch) : watch.turnsLeft after = watch.turnsLeft world :=
      Watch.turnsLeft_congr given
    simp only [Stage.turnsLeft, turnsLeft, watch?_of_resume stage_eq, same]
    cases point with
    | watching watch => exact Watch.turnsLeft_wind (positive _ rfl) (due watch rfl)
    | _ => exact Nat.le_refl _
  · cases point with
    | watching watch =>
        have last : 0 + 1 ≤ watch.turnsLeft world := by simp [Watch.turnsLeft]
        exact last
    | _ => exact Nat.zero_le _

theorem heeds?_of_quiet (quiet : point.hasNews world = false) : point.heeds? world = none := by
  cases point with
  | watching watch =>
      simp only [hasNews, Bool.or_eq_false_iff, decide_eq_false_iff_not] at quiet
      have isOpen : world.signal.isOpen = true := by simpa using quiet.2
      simp [heeds?, Watch.heeds?, quiet.1, isOpen]
  | _ => rfl

/-- Only an abandoned channel makes a watchdog spin. -/
theorem abandoned_of_heeds? (heeds : point.heeds? world = some .spun) :
    world.signal.IsAbandoned := by
  cases point with
  | watching watch => exact (Watch.heeds?_eq_spun_iff.mp heeds).2
  | _ => cases heeds

theorem turnsLeft_notice (news : point.hasNews world = true) :
    (point.notice world).turnsLeft + (point.heeds? world).toList.countP (· ≠ .spun) ≤
      point.turnsLeft world := by
  rcases watching_of_hasNews news with ⟨watch, rfl⟩
  have one (turn? : Option WatchTurn) : turn?.toList.countP (· ≠ .spun) ≤ 1 := by
    cases turn? with
    | none => exact Nat.zero_le 1
    | some turn => exact List.countP_le_length
  have left : (watching watch).turnsLeft world = watch.turnsLeft world := rfl
  simp only [notice, left]
  split
  · have last := one ((watching watch).heeds? world)
    simp only [Stage.turnsLeft, Watch.turnsLeft]
    omega
  · rename_i goesOn
    -- A new value is seen once, and a watchdog that wakes up without one spins.
    by_cases known : watch.seen = world.signal.count
    · have spins : ((watching watch).heeds? world).toList.countP (· ≠ .spun) = 0 := by
        simp only [heeds?, Watch.heeds?, known, ne_eq, not_true_eq_false, goesOn, if_false]
        cases world.signal.isOpen <;> rfl
      rw [spins]
      simp [Stage.turnsLeft, turnsLeft, watch?, Watch.turnsLeft, known]
    · have told := one ((watching watch).heeds? world)
      simp only [Stage.turnsLeft, turnsLeft, watch?, Watch.turnsLeft, known, Option.map_some,
        Option.getD_some, if_true, if_false]
      omega

theorem turnsLeft_send (point : Point) (value : Bool) (world : World) :
    point.turnsLeft
        { world with signal := { world.signal with value, count := world.signal.count + 1 } } ≤
      point.turnsLeft world + 1 := by
  have kept (memory : Option Watch) :
      (memory.map fun watch => watch.turnsLeft
        { world with
          signal := { world.signal with value, count := world.signal.count + 1 } }).getD 0 ≤
      (memory.map fun watch => watch.turnsLeft world).getD 0 + 1 := by
    cases memory with
    | none => exact Nat.zero_le _
    | some watch =>
        simp only [Option.map_some, Option.getD_some, Watch.turnsLeft]
        split <;> split <;> omega
  exact kept (point.watch? world)

/-- Whatever happens outside, a watchdog gets one more turn at most, for a value that is sent. -/
theorem turnsLeft_outside {move : Move} {change : World → World}
    (changes : move.outside? = some change) (still : (change world).clock = world.clock) :
    point.turnsLeft (change world) ≤ point.turnsLeft world + [move].countP Move.isSend := by
  have same (given : (change world).given = world.given) :
      point.turnsLeft (change world) ≤ point.turnsLeft world + [move].countP Move.isSend := by
    rw [turnsLeft_congr given]
    exact Nat.le_add_right _ _
  cases move with
  | bringOn transfer =>
      cases changes
      exact same (world.given_bringOn transfer)
  | pass duration =>
      cases changes
      have none : duration = 0 := Nat.add_eq_left.mp still
      subst none
      exact same rfl
  | retire =>
      cases changes
      exact same world.given_retire
  | recordActivity =>
      cases changes
      exact same rfl
  | release =>
      cases changes
      exact same rfl
  | send value =>
      cases changes
      exact point.turnsLeft_send value world
  | closeSignal =>
      cases changes
      exact Nat.le_refl _
  | happen happening =>
      cases changes
      exact same (happening.given_apply world)
  | _ => cases changes

end Point

namespace Execution

/-- The turn that the watchdog with a number takes with a move. -/
def watchTurn? (number : Nat) (execution : Execution) : Move → Option WatchTurn
  | .resume own =>
    if own = number ∧ (execution.acting? (.resume own)).any fun task => task.point.isTurn then
      some .ticked
    else none
  | .notice own =>
    if own = number then
      (execution.task? own).bind fun task => task.point.heeds? execution.world
    else none
  | _ => none

/-- The turns that the watchdog with a number takes while moves are made, the earliest first. -/
def turns (execution : Execution) (number : Nat) (moves : List Move) : List WatchTurn :=
  execution.history (watchTurn? number) moves

/-- The turns that are left to the watchdog with a number, while it is under way. -/
def turnsLeft (execution : Execution) (number : Nat) : Nat :=
  ((execution.task? number).map fun task => task.point.turnsLeft execution.world).getD 0

/-- That the watchdog with a number, while it is under way, has an interval. -/
def Paces (execution : Execution) (number interval : Nat) : Prop :=
  ∀ task, execution.task? number = some task → task.point.pace? = fun _ => some interval

variable {execution before after : Execution} {number interval : Nat} {move : Move} {task : Task}
  {earlier later : List Task}

theorem turnsLeft_of_mem (orderly : execution.Orderly) (running : task ∈ execution.running) :
    execution.turnsLeft task.number = task.point.turnsLeft execution.world := by
  simp [turnsLeft, task?_of_mem orderly running]

theorem turnsLeft_replace (orderly : execution.Orderly)
    (split : execution.running = earlier ++ task :: later) (stage : Stage Point Answer) :
    (execution.replace earlier task later stage).turnsLeft task.number = stage.turnsLeft := by
  rw [turnsLeft, task?_replace orderly split]
  cases stage <;> rfl

theorem turnsLeft_eq (found : after.task? number = before.task? number)
    (given : after.world.given = before.world.given) :
    after.turnsLeft number = before.turnsLeft number := by
  simp only [turnsLeft, found, Point.turnsLeft_congr given]

theorem turnsLeft_of_notice (orderly : execution.Orderly) (number own : Nat) :
    (execution.notice own).turnsLeft number +
        (execution.watchTurn? number (.notice own)).toList.countP (· ≠ .spun) ≤
      execution.turnsLeft number := by
  simp only [notice, watchTurn?]
  rcases found : execution.task? own with _ | task
  · simp
  · rcases split_of_task? found with ⟨rfl, earlier, later, split⟩
    by_cases same : task.number = number
    · subst same
      rw [turnsLeft_of_mem orderly (mem_of_eq_append split)]
      simp only [if_true, Option.bind_some]
      rcases news : task.point.hasNews execution.world with _ | _
      · rw [task.point.heeds?_of_quiet news]
        simp [turnsLeft_of_mem orderly (mem_of_eq_append split)]
      · simp only [if_true]
        rw [settle_eq orderly split, turnsLeft_replace orderly split]
        exact Point.turnsLeft_notice news
    · simp only [same, if_false]
      split
      · rw [settle_eq orderly split, turnsLeft_eq (task?_replace_other split _ same)
          (task.point.through_notice execution.world).given_eq]
        exact Nat.le_refl _
      · exact Nat.le_refl _

theorem Silent.turnsLeft_le (silent : before.Silent move after) (given : number < before.nextNumber)
    (other : ∀ own, move ≠ .notice own) (still : after.world.clock = before.world.clock) :
    after.turnsLeft number ≤ before.turnsLeft number + [move].countP Move.isSend := by
  have kept (found : after.task? number = before.task? number)
      (given : after.world.given = before.world.given) :
      after.turnsLeft number ≤ before.turnsLeft number + [move].countP Move.isSend := by
    rw [turnsLeft_eq found given]
    exact Nat.le_add_right _ _
  cases silent with
  | idle move => exact Nat.le_add_right _ _
  | outside move change changes =>
      have found : (before.withWorld change).task? number = before.task? number := rfl
      simp only [turnsLeft, found]
      cases before.task? number with
      | none => exact Nat.zero_le _
      | some task => exact Point.turnsLeft_outside changes still
  | started fresh request free held =>
      exact kept (task?_started before fresh request _ (by omega)) rfl
  | looked fresh session delay agenda free scheduled present =>
      exact kept (task?_started before fresh (.look session) _ (by omega))
        (World.given_withAgenda ..)
  | lost fresh session delay agenda scheduled dropped alone =>
      exact kept rfl (World.given_withAgenda ..)
  | noticed earlier later task split news => exact absurd rfl (other _)

/-- **No move leaves a watchdog more turns**, unless something is sent, and every turn but one
without news leaves it fewer. -/
theorem turnsLeft_apply (orderly : execution.Orderly) (given : number < execution.nextNumber)
    (paces : execution.Paces number interval) (positive : 0 < interval) (move : Move)
    (still : (execution.apply move).world.clock = execution.world.clock) :
    (execution.apply move).turnsLeft number +
        (execution.watchTurn? number move).toList.countP (· ≠ .spun) ≤
      execution.turnsLeft number + [move].countP Move.isSend := by
  rcases acts_or_silent orderly move with
    ⟨task, earlier, later, acts, split, takes, moved⟩ | ⟨nobody, silent⟩
  · rcases acting?_eq_some acts with ⟨rfl, ready, _⟩
    rw [moved]
    by_cases own : task.number = number
    · subst own
      have running := mem_of_eq_append split
      have turn :
          (execution.watchTurn? task.number (.resume task.number)).toList.countP (· ≠ .spun) =
            if task.point.isTurn then 1 else 0 := by
        simp only [watchTurn?, acts, true_and, Option.any_some]
        cases task.point.isTurn <;> rfl
      rw [turnsLeft_replace orderly split, turnsLeft_of_mem orderly running, turn]
      refine task.point.turnsLeft_resume ?_ ?_
      · intro watch rests
        simpa [isReady, rests, Point.obstacle, isClear] using ready
      · intro own same
        rw [paces task (task?_of_mem orderly running), Option.some.injEq] at same
        exact same ▸ positive
    · have turn : execution.watchTurn? number (.resume task.number) = none := by
        simp [watchTurn?, own]
      rw [turn, turnsLeft_eq (task?_replace_other split _ own) (task.point.given_resume _)]
      exact Nat.le_refl _
  · by_cases notices : ∃ own, move = .notice own
    · rcases notices with ⟨own, rfl⟩
      exact Nat.le_add_right_of_le (turnsLeft_of_notice orderly number own)
    · have other (own : Nat) : move ≠ .notice own := fun same => notices ⟨own, same⟩
      have turn : execution.watchTurn? number move = none := by
        cases move with
        | resume own => simp [watchTurn?, nobody]
        | notice own => exact absurd rfl (other own)
        | _ => rfl
      rw [turn]
      exact silent.turnsLeft_le given other still

/-! ## The interval of a watchdog -/

theorem Takes.pace? {next : Point} {world : World}
    (takes : execution.Takes task move (.pause next world)) : next.pace? = task.point.pace? := by
  generalize stage_eq : Stage.pause next world = stage at takes
  cases takes with
  | resume ready => exact Point.pace?_of_resume stage_eq.symm
  | notice news => exact Point.pace?_of_notice stage_eq.symm

theorem Paces.step (paces : before.Paces number interval) (orderly : before.Orderly)
    (given : number < before.nextNumber) (step : before.Step move after) :
    after.Paces number interval := by
  cases step with
  | idle move => exact paces
  | outside move change changes => exact paces
  | started fresh request free =>
      intro task found
      exact paces task ((task?_started before fresh request _ (by omega)).symm.trans found)
  | looked fresh session delay agenda free scheduled =>
      intro task found
      exact paces task
        ((task?_started before fresh (.look session) _ (by omega)).symm.trans found)
  | lost fresh session delay agenda scheduled dropped => exact paces
  | advanced move earlier later own stage split takes =>
      intro task found
      by_cases same : own.number = number
      · subst same
        rw [task?_replace orderly split] at found
        cases stage with
        | pause next world =>
            cases found
            exact takes.pace?.trans (paces own (task?_of_mem orderly (mem_of_eq_append split)))
        | done answer world => cases found
      · rw [task?_replace_other split stage same] at found
        exact paces task found

/-! ## Runs -/

theorem turnsLeft_run (orderly : execution.Orderly) (given : number < execution.nextNumber)
    (paces : execution.Paces number interval) (positive : 0 < interval) (moves : List Move)
    (still : (execution.run moves).world.clock = execution.world.clock) :
    (execution.run moves).turnsLeft number +
        (execution.turns number moves).countP (· ≠ .spun) ≤
      execution.turnsLeft number + moves.countP Move.isSend := by
  induction moves generalizing execution with
  | nil => exact Nat.le_refl _
  | cons move moves hypothesis =>
      have step := step_apply orderly move
      have orderly_then := orderly.step step
      -- The clock never goes back, so it stands still in the first move and in the others.
      have onward := clock_le_run orderly_then moves
      have now : (execution.apply move).world.clock = execution.world.clock :=
        Nat.le_antisymm (Nat.le_trans onward (Nat.le_of_eq still)) step.clock_le
      have first := turnsLeft_apply orderly given paces positive move now
      have rest := hypothesis orderly_then (Nat.lt_of_lt_of_le given step.nextNumber_le)
        (paces.step orderly given step) (Eq.trans still now.symm)
      have counted : (execution.turns number (move :: moves)).countP (· ≠ .spun) =
          (execution.watchTurn? number move).toList.countP (· ≠ .spun) +
            ((execution.apply move).turns number moves).countP (· ≠ .spun) :=
        List.countP_append
      have sent : (move :: moves).countP Move.isSend =
          [move].countP Move.isSend + moves.countP Move.isSend := by
        rw [← List.countP_append, List.singleton_append]
      have ended : (execution.run (move :: moves)).turnsLeft number =
          ((execution.apply move).run moves).turnsLeft number := rfl
      omega

/-! ## A channel that was abandoned -/

theorem abandoned_of_watchTurn? (turn : execution.watchTurn? number move = some .spun) :
    execution.world.signal.IsAbandoned := by
  cases move with
  | resume own =>
      simp only [watchTurn?] at turn
      split at turn <;> cases turn
  | notice own =>
      simp only [watchTurn?] at turn
      split at turn
      · rcases Option.bind_eq_some_iff.mp turn with ⟨task, _, heeds⟩
        exact task.point.abandoned_of_heeds? heeds
      · cases turn
  | _ => cases turn

/-- A watchdog that rests takes notice of an abandoned channel, and rests on. -/
theorem notice_of_abandoned (orderly : execution.Orderly) {watch : Watch}
    (split : execution.running = earlier ++ task :: later) (rests : task.point = .watching watch)
    (abandoned : execution.world.signal.IsAbandoned) :
    execution.notice task.number = execution.replace earlier task later
      (.pause (.watching { watch with seen := execution.world.signal.count }) execution.world) := by
  have news : task.point.hasNews execution.world = true := by
    simp [rests, Point.hasNews, abandoned.1]
  have stage : task.point.notice execution.world =
      .pause (.watching { watch with seen := execution.world.signal.count }) execution.world := by
    simp [rests, Point.notice, abandoned.2]
  simp only [notice, task?_of_mem orderly (mem_of_eq_append split), news, if_true]
  rw [settle_eq orderly split, stage]

/-- A watchdog that knows all that an abandoned channel holds can spin any number of times, and
nothing changes. -/
theorem spins (orderly : execution.Orderly) (running : task ∈ execution.running) {watch : Watch}
    (rests : task.point = .watching watch) (known : watch.seen = execution.world.signal.count)
    (abandoned : execution.world.signal.IsAbandoned) (turns : Nat) :
    execution.run (List.replicate turns (.notice task.number)) = execution ∧
      execution.turns task.number (List.replicate turns (.notice task.number)) =
        List.replicate turns .spun := by
  have still : execution.apply (.notice task.number) = execution := by
    rcases List.append_of_mem running with ⟨earlier, later, split⟩
    have same : (⟨task.number, task.request,
        .watching { watch with seen := execution.world.signal.count }⟩ : Task) = task := by
      rw [← known, ← rests]
    simp only [apply]
    rw [notice_of_abandoned orderly split rests abandoned]
    simp only [replace, Stage.remaining, Stage.reported, Stage.world, same]
    rw [List.singleton_append, ← split, List.nil_append]
  have turn : execution.watchTurn? task.number (.notice task.number) = some .spun := by
    have heeds := Watch.heeds?_eq_spun_iff.mpr ⟨known, abandoned⟩
    simp [watchTurn?, task?_of_mem orderly running, rests, Point.heeds?, heeds]
  induction turns with
  | zero => exact ⟨rfl, rfl⟩
  | succ turns hypothesis =>
      constructor
      · have after := hypothesis.1
        rw [← still] at after
        rw [List.replicate_succ]
        exact after.trans still
      · rw [List.replicate_succ, List.replicate_succ, ← hypothesis.2]
        simp only [Execution.turns, history, turn, still]
        rfl

/-- Once a watchdog rests on an abandoned channel, it spins. -/
theorem spins_of_abandoned (orderly : execution.Orderly) (running : task ∈ execution.running)
    {watch : Watch} (rests : task.point = .watching watch)
    (abandoned : execution.world.signal.IsAbandoned) :
    let woken := execution.apply (.notice task.number)
    woken.world = execution.world ∧ (woken.task? task.number).isSome ∧
      ∀ turns, woken.run (List.replicate turns (.notice task.number)) = woken ∧
        woken.turns task.number (List.replicate turns (.notice task.number)) =
          List.replicate turns .spun := by
  intro woken
  rcases List.append_of_mem running with ⟨earlier, later, split⟩
  let memory : Watch := { watch with seen := execution.world.signal.count }
  have moved : woken = execution.replace earlier task later
      (.pause (.watching memory) execution.world) :=
    notice_of_abandoned orderly split rests abandoned
  have orderly_now : woken.Orderly :=
    orderly.step (step_apply orderly (.notice task.number))
  have among : { task with point := .watching memory } ∈ woken.running := by
    rw [moved]
    exact mem_replace.mpr (.inl (List.mem_singleton.mpr rfl))
  have same : woken.world = execution.world := by
    rw [moved]
    rfl
  have known : memory.seen = woken.world.signal.count := by rw [same]
  have abandoned_still : woken.world.signal.IsAbandoned := by rwa [same]
  have found := task?_of_mem orderly_now among
  have spinning (turns : Nat) := spins orderly_now among rfl known abandoned_still turns
  exact ⟨same, Option.isSome_of_eq_some found, spinning⟩

end Execution

namespace Outset

/-- A watchdog has the interval that was asked for. -/
theorem paces_run (outset : Outset) (moves : List Move) {task : Task} {interval : Nat}
    (running : task ∈ (outset.execution.run moves).running)
    (asked : task.request = .watch interval) :
    (outset.execution.run moves).Paces task.number interval := by
  have told : ∀ own ∈ (outset.execution.run moves).running,
      own.point.pace? = own.request.entry.pace? := by
    refine outset.sound_execution.run_induction (fun _ => True)
      (fun execution => ∀ own ∈ execution.running, own.point.pace? = own.request.entry.pace?)
      ?_ ?_ moves fun _ _ => trivial
    · intro before after move sound _ step told
      exact step.view_entry Execution.Takes.pace? told
    · intro own among
      cases among
  intro own found
  rw [Execution.task?_of_mem (outset.sound_run moves).orderly running, Option.some.injEq] at found
  rw [← found, told task running, asked]
  rfl

/-- **What a watchdog does at one instant.** Let its interval be positive. As long as the shutdown
channel is not abandoned, the loop takes a bounded number of turns at one instant, however many
moves are made: no more than were left, and one for each value that is sent. Whatever becomes of the
channel, the bound holds of the turns that are taken for a reason. But once a watchdog rests on an
abandoned channel, it may take any number of further turns: after the first of them none changes
anything, time included, and the watchdog never ends by them. -/
theorem turns_at_one_instant (outset : Outset) (moves : List Move) (task : Task) (interval : Nat)
    (positive : 0 < interval) (running : task ∈ (outset.execution.run moves).running)
    (asked : task.request = .watch interval) :
    let start := outset.execution.run moves
    (∀ rest, (start.run rest).world.clock = start.world.clock →
      (∀ earlier later, rest = earlier ++ later →
        ¬(start.run earlier).world.signal.IsAbandoned) →
      (start.turns task.number rest).length ≤
        start.turnsLeft task.number + rest.countP Move.isSend) ∧
    (∀ rest, (start.run rest).world.clock = start.world.clock →
      (start.turns task.number rest).countP (· ≠ .spun) ≤
        start.turnsLeft task.number + rest.countP Move.isSend) ∧
    ∀ rest watch, (start.run rest).task? task.number = some { task with point := .watching watch } →
      (start.run rest).world.signal.IsAbandoned →
      let woken := (start.run rest).apply (.notice task.number)
      woken.world = (start.run rest).world ∧ (woken.task? task.number).isSome ∧
        ∀ turns, woken.run (List.replicate turns (.notice task.number)) = woken ∧
          woken.turns task.number (List.replicate turns (.notice task.number)) =
            List.replicate turns .spun := by
  intro start
  have orderly : start.Orderly := (outset.sound_run moves).orderly
  have bounded (rest : List Move) (still : (start.run rest).world.clock = start.world.clock) :
      (start.turns task.number rest).countP (· ≠ .spun) ≤
        start.turnsLeft task.number + rest.countP Move.isSend := by
    have counted := Execution.turnsLeft_run orderly (orderly.numbered task running)
      (outset.paces_run moves running asked) positive rest still
    exact Nat.le_trans (Nat.le_add_left _ _) counted
  refine ⟨?_, bounded, ?_⟩
  · intro rest still kept
    have told : ∀ turn ∈ start.turns task.number rest, decide (turn ≠ .spun) = true := by
      rintro turn member
      apply decide_eq_true
      rintro rfl
      rcases List.append_of_mem member with ⟨before, after, split⟩
      rcases Execution.history_eq_append split with ⟨earlier, move, later, rfl, _, seen, _⟩
      exact kept earlier (move :: later) rfl (Execution.abandoned_of_watchTurn? seen)
    rw [← List.countP_eq_length.mpr told]
    exact bounded rest still
  · intro rest watch found abandoned
    have orderly_then : (start.run rest).Orderly := orderly.run rest
    rcases Execution.split_of_task? found with ⟨_, _, _, split⟩
    have spinning := Execution.spins_of_abandoned orderly_then (Execution.mem_of_eq_append split)
      rfl abandoned
    exact spinning

/-- A watchdog that was started and has looked at the node once. -/
def watched : List Move :=
  [.start 0 (.watch 60000), .resume 0, .resume 0, .resume 0]

/-- A value that goes on costs the watchdog one turn. When the sender is dropped it spins on, a
minute before it has anything to do. -/
theorem turns_at_one_instant_watched :
    let start := plain.execution.run watched
    let woken := (start.run [.closeSignal]).apply (.notice 0)
    (start.turns 0 [.send false, .notice 0]).length ≤ start.turnsLeft 0 + 1 ∧
      (start.turns 0 [.closeSignal, .notice 0]).countP (· ≠ .spun) ≤ start.turnsLeft 0 + 0 ∧
      start.turns 0 [.send false, .notice 0] = [.told] ∧ start.turnsLeft 0 = 1 ∧
      woken.world = (start.run [.closeSignal]).world ∧ (woken.task? 0).isSome ∧
      ∀ turns, woken.run (List.replicate turns (.notice 0)) = woken ∧
        woken.turns 0 (List.replicate turns (.notice 0)) = List.replicate turns .spun := by
  intro start woken
  have all := plain.turns_at_one_instant watched
    ⟨0, .watch 60000, .watching ⟨60000, 60000, 0⟩⟩ 60000 (by decide) (.head _) rfl
  rcases all with ⟨bounded, counted, spins⟩
  have goesOn : ∀ earlier later, [.send false, .notice 0] = earlier ++ later →
      ¬(start.run earlier).world.signal.IsAbandoned := by
    rintro earlier later split ⟨closed, _⟩
    rcases earlier with _ | ⟨first, _ | ⟨second, others⟩⟩
    · cases closed
    · cases split
      cases closed
    · simp only [List.cons_append, List.cons.injEq, List.nil_eq_append_iff] at split
      rcases split with ⟨rfl, rfl, rfl, _⟩
      cases closed
  have told : start.turns 0 [.send false, .notice 0] = [.told] := by decide +kernel
  have left : start.turnsLeft 0 = 1 := by decide +kernel
  exact ⟨bounded [.send false, .notice 0] rfl goesOn, counted [.closeSignal, .notice 0] rfl, told,
    left, spins [.closeSignal] ⟨60000, 60000, 0⟩ rfl ⟨rfl, rfl⟩⟩

end Outset

end BuildAgent
