import BuildAgent.Proofs.Watchdog.Phases

/-!
# Recorded activity

A node remembers when it last did something useful. Three things count: a build that is over, a
note from outside, and a watchdog's action that leaves the instance there, so that the idle time
begins anew. No other step and no other move touches the memory (`Execution.lastActivity_apply`). So
it is the last of the times at which activity was recorded (`Execution.lastActivity_run`), it never
lies ahead of the clock (`Execution.ActivityPast`), and it never goes back.
-/

namespace BuildAgent

/-! ## What leaves the memory as it is -/

theorem Deed.lastActivity_apply (deed : Deed) (world : World) (other : deed ≠ .recordActivity) :
    (deed.apply world).node.lastActivity = world.node.lastActivity := by
  cases deed with
  | recordActivity => exact absurd rfl other
  | bind instanceId =>
      simp only [apply, World.withNode, Node.bind]
      split <;> rfl
  | retire => rcases world.node_retire with kept | kept <;> simp [apply, kept]
  | _ => simp [apply]

theorem World.Through.lastActivity_eq {permits : Deed → Prop} {before after : World}
    (through : before.Through permits after) (spared : ¬permits .recordActivity) :
    after.node.lastActivity = before.node.lastActivity := by
  apply through.view_eq fun world => world.node.lastActivity
  intro deed world permitted
  apply deed.lastActivity_apply world
  rintro rfl
  exact spared permitted

theorem World.SparesNode.lastActivity_eq {before after : World} (spares : before.SparesNode after) :
    after.node.lastActivity = before.node.lastActivity :=
  spares.view_eq Node.lastActivity fun _ _ => rfl

/-! ## The steps of tasks -/

/-- Whether the idle time begins anew with what a watchdog does. -/
def WatchDeed.beginsAnew : WatchDeed → Bool
  | finished action => action ≠ .terminated true
  | _ => false

namespace Point

/-- Whether a task records activity with its next step. -/
def recordsActivity (point : Point) (world : World) : Bool :=
  match point with
  | completingBuild => true
  | _ => (point.watchDeed? world).any WatchDeed.beginsAnew

/-- That the memory of the last activity comes out of a step as `recordsActivity` says. -/
def Remembers (point : Point) (world : World) : Prop :=
  (point.resume world).world.node.lastActivity =
    bif point.recordsActivity world then world.clock else world.node.lastActivity

theorem remembers_looking (session : Nat) (inner : LookPoint) (world : World) :
    (looking session inner).Remembers world := by
  have same : ((looking session inner).resume world).world =
      (inner.resume session world).world := by
    simp only [resume]
    cases inner.resume session world <;> rfl
  rw [Remembers, same]
  cases inner with
  | waiting => exact (LookPoint.spares_begin session world).lastActivity_eq
  | refreshing fetch =>
      have fetched := (fetch.through world).lastActivity_eq fun permitted => permitted
      simp only [LookPoint.resume]
      generalize fetch.resume world = stage at fetched
      cases stage with
      | pause later middle => exact fetched
      | done found middle =>
          exact (LookPoint.spares_act session _ middle).lastActivity_eq.trans fetched

theorem remembers_stopping (caller : Caller) (inner : StopPoint) (world : World) :
    (stopping caller inner).Remembers world := by
  have through := inner.through world
  have clock := through.clock_eq
  have memory := through.lastActivity_eq (by cases inner <;> simp [StopPoint.permits])
  cases caller with
  | watchdog watch =>
      simp only [Remembers, recordsActivity, watchDeed?, resume]
      generalize inner.resume world = stage at clock memory
      cases stage with
      | pause later middle => exact memory
      | done accepted middle => exact clock
  | _ =>
      simp only [Remembers, resume]
      generalize inner.resume world = stage at memory
      cases stage <;> exact memory

theorem remembers_terminating (caller : Caller) (inner : TerminatePoint) (world : World) :
    (terminating caller inner).Remembers world := by
  have through := inner.through world
  have clock := through.clock_eq
  have memory := through.lastActivity_eq (by cases inner <;> simp [TerminatePoint.permits])
  have retired : ∀ middle : World, middle.retire.node.lastActivity = middle.node.lastActivity :=
    fun middle => Deed.retire.lastActivity_apply middle (by simp)
  cases caller with
  | watchdog watch =>
      simp only [Remembers, recordsActivity, watchDeed?, resume]
      generalize inner.resume world = stage at clock memory
      rcases stage with ⟨later, middle⟩ | ⟨_ | _, middle⟩
      · exact memory
      · exact clock
      · exact (retired middle).trans memory
  | instanceCommand =>
      simp only [Remembers, resume]
      generalize inner.resume world = stage at memory
      cases stage <;> exact memory
  | _ =>
      simp only [Remembers, resume]
      generalize inner.resume world = stage at memory
      rcases stage with ⟨later, middle⟩ | ⟨_ | _, middle⟩
      · exact memory
      · exact memory
      · exact (retired middle).trans memory

/-- **What a step of a task does to the memory**: it notes the time, or leaves the memory alone. -/
theorem remembers (point : Point) (world : World) : point.Remembers world := by
  cases point with
  | stopping caller inner => exact remembers_stopping caller inner world
  | terminating caller inner => exact remembers_terminating caller inner world
  | looking session inner => exact remembers_looking session inner world
  | rebooting afterBuild inner => exact (spares_rebooting afterBuild inner world).lastActivity_eq
  | completingBuild => rfl
  | consulting consultation =>
      have noting := @Point.through (consulting consultation) rfl world
      have memory := noting.lastActivity_eq (by simp [permits, Deed.IsNote])
      have silent : (consulting consultation).recordsActivity world = false := by
        cases consultation with
        | idleLimit watch =>
            simp only [recordsActivity, watchDeed?]
            split <;> rfl
        | _ => rfl
      rw [Remembers, silent]
      exact memory
  | _ =>
      refine (Point.through rfl world).lastActivity_eq ?_
      simp [permits, Deed.IsNote, Deed.IsLookup, Deed.IsFetch, Deed.IsSync,
        DisconnectPoint.permits]

theorem lastActivity_notice (point : Point) (world : World) :
    (point.notice world).world.node.lastActivity = world.node.lastActivity :=
  (point.through_notice world).lastActivity_eq fun permitted => permitted

end Point

/-! ## Moves -/

namespace Execution

def recordsActivity (execution : Execution) : Move → Bool
  | .recordActivity => execution.world.node.held
  | move => (execution.acting? move).any fun task => task.point.recordsActivity execution.world

/-- The time of the activity that a move records, if it records any. -/
def activity? (execution : Execution) (move : Move) : Option Nat :=
  if execution.recordsActivity move then some execution.world.clock else none

/-- The times at which activity is recorded while moves are made, the earliest first. -/
def activities (execution : Execution) (moves : List Move) : List Nat :=
  execution.history activity? moves

variable {execution before after : Execution} {move : Move} {moves : List Move}

theorem lastActivity_outside {change : World → World} (changes : move.outside? = some change)
    (other : move ≠ .recordActivity) (world : World) :
    (change world).node.lastActivity = world.node.lastActivity := by
  cases move with
  | recordActivity => exact absurd rfl other
  | bringOn transfer =>
      cases changes
      exact congrArg Node.lastActivity (world.node_bringOn transfer).1
  | retire =>
      cases changes
      exact Deed.retire.lastActivity_apply world nofun
  | happen happening =>
      cases changes
      exact congrArg Node.lastActivity (happening.frame_apply world).1
  | start number request => cases changes
  | resume number => cases changes
  | notice number => cases changes
  | runMonitor number => cases changes
  | _ =>
      cases changes
      rfl

theorem Silent.lastActivity_eq (silent : before.Silent move after)
    (other : move ≠ .recordActivity) :
    after.world.node.lastActivity = before.world.node.lastActivity := by
  cases silent with
  | idle move => rfl
  | outside move change changes => exact lastActivity_outside changes other before.world
  | started number request fresh held => rfl
  | looked number session delay agenda fresh scheduled present =>
      exact congrArg Node.lastActivity (before.world.frame_withAgenda delay agenda).1
  | lost number session delay agenda scheduled dropped alone =>
      exact congrArg Node.lastActivity (before.world.frame_withAgenda delay agenda).1
  | noticed earlier later task split news => exact task.point.lastActivity_notice before.world

/-- A move that records activity notes the time, and any other leaves the memory alone. -/
theorem lastActivity_apply (orderly : execution.Orderly) (move : Move) :
    (execution.apply move).world.node.lastActivity =
      (execution.activity? move).getD execution.world.node.lastActivity := by
  by_cases outside : move = .recordActivity
  · subst outside
    simp only [apply, byHolder, activity?, recordsActivity]
    by_cases held : execution.world.node.held = true
    · simp only [held, if_true]
      rfl
    · simp only [held]
      rfl
  · have records : execution.recordsActivity move =
        (execution.acting? move).any fun task => task.point.recordsActivity execution.world := by
      cases move with
      | recordActivity => exact absurd rfl outside
      | _ => rfl
    rcases acts_or_silent orderly move with
      ⟨task, earlier, later, acts, split, takes, moved⟩ | ⟨nobody, silent⟩
    · have remembers := task.point.remembers execution.world
      rw [moved, activity?, records, acts, Option.any_some]
      refine remembers.trans ?_
      cases task.point.recordsActivity execution.world <;> rfl
    · rw [silent.lastActivity_eq outside, activity?, records, nobody]
      rfl

/-- The memory is the time at which activity was recorded last. -/
theorem lastActivity_run (orderly : execution.Orderly) (moves : List Move) :
    (execution.run moves).world.node.lastActivity =
      (execution.activities moves).getLastD execution.world.node.lastActivity := by
  induction moves generalizing execution with
  | nil => rfl
  | cons move moves hypothesis =>
      have later := hypothesis (orderly.step (step_apply orderly move))
      rw [lastActivity_apply orderly move] at later
      refine later.trans ?_
      simp only [activities, history]
      cases execution.activity? move with
      | none => rfl
      | some time => exact (List.getLastD_cons ..).symm

/-! ## The clock -/

/-- That the last activity does not lie ahead of the clock. -/
def ActivityPast (execution : Execution) : Prop :=
  execution.world.node.lastActivity ≤ execution.world.clock

theorem lastActivity_le_apply (orderly : execution.Orderly) (past : execution.ActivityPast)
    (move : Move) :
    execution.world.node.lastActivity ≤ (execution.apply move).world.node.lastActivity := by
  rw [lastActivity_apply orderly move, activity?]
  split
  · exact past
  · exact Nat.le_refl _

theorem ActivityPast.apply (past : execution.ActivityPast) (orderly : execution.Orderly)
    (move : Move) : (execution.apply move).ActivityPast := by
  have forward := (step_apply orderly move).clock_le
  rw [ActivityPast, lastActivity_apply orderly move, activity?]
  split
  · exact forward
  · exact Nat.le_trans past forward

theorem ActivityPast.run (past : execution.ActivityPast) (orderly : execution.Orderly)
    (moves : List Move) :
    (execution.run moves).ActivityPast ∧
      execution.world.node.lastActivity ≤ (execution.run moves).world.node.lastActivity := by
  induction moves generalizing execution with
  | nil => exact ⟨past, Nat.le_refl _⟩
  | cons move moves hypothesis =>
      rcases hypothesis (past.apply orderly move) (orderly.step (step_apply orderly move)) with
        ⟨later, forward⟩
      exact ⟨later, Nat.le_trans (lastActivity_le_apply orderly past move) forward⟩

end Execution

theorem Outset.activityPast_run (outset : Outset) (moves : List Move) :
    (outset.execution.run moves).ActivityPast := by
  have past : outset.execution.ActivityPast := Nat.zero_le _
  exact (past.run outset.orderly_execution moves).1

end BuildAgent
