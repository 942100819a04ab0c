import BuildAgent.Proofs.Watchdog.Activity

/-!
# Once for each idle period

A watchdog acts on a node that has been idle for as long as its definition allows, and it does so
once before the idle time begins anew (`Outset.acts_once_per_idle_period`). What it does is listed
with the times in its `Execution.vigil`. Each action in the list comes right after a look at a node
that was not retired. Between two actions there is the end of the first, which counts as activity,
so the second comes at least the limit later. Nothing comes after a termination that was accepted.

The phase of the watchdog carries the argument. It tells what was listed last
(`WatchPhase.Follows`) and what can be listed next (`Execution.vigil_of_acting`,
`Execution.vigil_of_gone`).
-/

namespace BuildAgent

/-- What a watchdog did, and when. -/
structure WatchEntry where
  time : Nat
  deed : WatchDeed
  deriving DecidableEq, Repr

/-- That the last entry of a list is one that leads a watchdog to its phase. -/
def WatchPhase.Follows (entries : List WatchEntry) : WatchPhase → Prop
  | resting => True
  | looking => ∃ earlier time, entries = earlier ++ [⟨time, .ticked false⟩]
  | acting => ∃ earlier time limit, entries = earlier ++ [⟨time, .began limit⟩]

namespace Execution

/-- What the watchdog with a number does with a move, and when. -/
def watchDoing? (number : Nat) (execution : Execution) (move : Move) : Option WatchEntry :=
  (execution.watchDeed? number move).map fun deed => ⟨execution.world.clock, deed⟩

/-- What the watchdog with a number does while moves are made, the earliest first. -/
def vigil (execution : Execution) (number : Nat) (moves : List Move) : List WatchEntry :=
  execution.history (watchDoing? number) moves

variable {execution before after : Execution} {number : Nat} {move : Move} {moves : List Move}

theorem move_of_watchDeed? {deed : WatchDeed}
    (does : execution.watchDeed? number move = some deed) : move = .resume number := by
  simp only [watchDeed?] at does
  split at does
  · rename_i task acts
    split at does
    · rename_i own
      rw [(acting?_eq_some acts).1, own]
    · cases does
  · cases does

/-! ## What a watchdog can do next -/

/-- A watchdog that has ended does nothing any more. -/
theorem vigil_of_gone (orderly : execution.Orderly) (given : number < execution.nextNumber)
    (gone : execution.watchPhase? number = none) (moves : List Move) :
    execution.vigil number moves = [] := by
  induction moves generalizing execution with
  | nil => rfl
  | cons move moves hypothesis =>
      have step := step_apply orderly move
      have given_after := Nat.lt_of_lt_of_le given step.nextNumber_le
      have watches := watchStep_apply orderly number move
      generalize now : (execution.apply move).watchPhase? number = phase at watches
      generalize does : execution.watchDeed? number move = deed at watches
      rw [gone] at watches
      cases watches with
      | still =>
          have rest := hypothesis (orderly.step step) given_after now
          simp only [vigil, history, watchDoing?, does] at rest ⊢
          exact rest
      | started fresh => exact absurd given (Nat.not_lt_of_le fresh)

/-- Whoever acts on the instance does nothing else until the action has come to its end. If that was
a termination that was accepted, it is the last thing the watchdog does. -/
theorem vigil_of_acting (orderly : execution.Orderly)
    (acts : execution.watchPhase? number = some .acting) {first : WatchEntry}
    {others : List WatchEntry} (listed : execution.vigil number moves = first :: others) :
    (first.deed = .finished (.terminated true) ∧ others = []) ∨
      ∃ earlier later action, moves = earlier ++ .resume number :: later ∧
        action ≠ .terminated true ∧
        first = ⟨(execution.run earlier).world.clock, .finished action⟩ ∧
        ((execution.run earlier).apply (.resume number)).world.node.lastActivity = first.time ∧
        ((execution.run earlier).apply (.resume number)).vigil number later = others := by
  induction moves generalizing execution with
  | nil => cases listed
  | cons move moves hypothesis =>
      have step := step_apply orderly move
      have watches := watchStep_apply orderly number move
      generalize now : (execution.apply move).watchPhase? number = phase at watches
      generalize does : execution.watchDeed? number move = deed at watches
      rw [acts] at watches
      simp only [vigil, history, watchDoing?, does] at listed
      cases watches with
      | still =>
          rcases hypothesis (orderly.step step) now listed with
            last | ⟨earlier, later, action, rfl, other, found, recorded, rest⟩
          · exact .inl last
          · exact .inr ⟨move :: earlier, later, action, rfl, other, found, recorded, rest⟩
      | finished action other recorded =>
          right
          cases move_of_watchDeed? does
          cases listed
          exact ⟨[], moves, action, rfl, other, rfl, recorded, rfl⟩
      | terminated =>
          left
          cases listed
          have given := number_lt_of_watchPhase? orderly acts
          exact ⟨rfl, vigil_of_gone (orderly.step step)
            (Nat.lt_of_lt_of_le given step.nextNumber_le) now moves⟩

/-- The phase of a watchdog tells what it did last. -/
theorem follows_run (orderly : execution.Orderly) (unborn : execution.watchPhase? number = none)
    (moves : List Move) {phase : WatchPhase}
    (watches : (execution.run moves).watchPhase? number = some phase) :
    phase.Follows (execution.vigil number moves) := by
  induction moves using List.reverseRecOn generalizing phase with
  | nil => cases unborn.symm.trans watches
  | append_singleton moves move hypothesis =>
      have orderly_then : (execution.run moves).Orderly := orderly.run moves
      have watchStep := watchStep_apply orderly_then number move
      rw [run_concat] at watches
      rw [watches] at watchStep
      generalize past : (execution.run moves).watchPhase? number = old at watchStep hypothesis
      generalize does : (execution.run moves).watchDeed? number move = deed at watchStep
      simp only [vigil, history_concat, watchDoing?, does] at hypothesis ⊢
      cases watchStep with
      | still =>
          have same := hypothesis rfl
          simpa using same
      | ticked managed => exact ⟨_, _, rfl⟩
      | began seconds limited idle => exact ⟨_, _, _, rfl⟩
      | _ => trivial

/-! ## When a watchdog acts -/

/-- When an action begins, the node has been idle for as long as its definition allows. -/
theorem overdue_of_began (orderly : execution.Orderly) (past : execution.ActivityPast)
    {earlier later : List WatchEntry} {time : Nat} {limit : Option Nat}
    (split : execution.vigil number moves = earlier ++ ⟨time, .began limit⟩ :: later) :
    ∃ before after seconds, moves = before ++ .resume number :: after ∧
      execution.vigil number before = earlier ∧
      ((execution.run before).apply (.resume number)).vigil number after = later ∧
      (execution.run before).world.clock = time ∧ limit = some seconds ∧
      (execution.run before).world.node.definition.idleTermination? = some seconds ∧
      (execution.run before).world.node.lastActivity + seconds * 1000 ≤ time ∧
      (execution.run before).watchPhase? number = some .looking ∧
      ((execution.run before).apply (.resume number)).watchPhase? number = some .acting := by
  rcases history_eq_append split with ⟨before, move, after, rfl, same, seen, rest⟩
  rcases Option.map_eq_some_iff.mp seen with ⟨deed, does, listed⟩
  cases listed
  cases move_of_watchDeed? does
  have watches := watchStep_apply (orderly.run before) number (.resume number)
  generalize past_phase : (execution.run before).watchPhase? number = old at watches
  generalize now : ((execution.run before).apply (.resume number)).watchPhase? number = new
    at watches
  rw [does] at watches
  cases watches with
  | began seconds limited idle =>
      have dated := (past.run orderly before).1
      refine ⟨before, after, seconds, rfl, same, rest, rfl, rfl, limited, ?_, past_phase, now⟩
      simp only [ActivityPast] at dated
      simp only [World.idleFor] at idle
      omega

/-- Between two actions the first comes to its end, which counts as activity, so the node has to be
idle anew for as long as its definition allows. -/
theorem rests_between (orderly : execution.Orderly) (past : execution.ActivityPast)
    {earlier between later : List WatchEntry} {begun time seconds : Nat} {limit : Option Nat}
    (split : execution.vigil number moves =
      earlier ++ ⟨begun, .began limit⟩ :: (between ++ ⟨time, .began (some seconds)⟩ :: later)) :
    ∃ finish action others, between = ⟨finish, .finished action⟩ :: others ∧
      action ≠ .terminated true ∧ finish + seconds * 1000 ≤ time := by
  rcases overdue_of_began orderly past split with
    ⟨before, after, _, rfl, _, rest, _, _, _, _, _, acts⟩
  have orderly_then := (orderly.run before).step (step_apply (orderly.run before) (.resume number))
  have past_then := (past.run orderly before).1.apply (orderly.run before) (.resume number)
  generalize (execution.run before).apply (.resume number) = busy
    at rest acts orderly_then past_then
  cases between with
  | nil =>
      rcases vigil_of_acting orderly_then acts rest with
        ⟨finished, _⟩ | ⟨_, _, _, _, _, finished, _⟩
      · cases finished
      · cases finished
  | cons entry others =>
      rcases vigil_of_acting orderly_then acts rest with
        ⟨_, nothing⟩ | ⟨before, after, action, rfl, other, rfl, recorded, rest⟩
      · simp at nothing
      · refine ⟨_, action, others, rfl, other, ?_⟩
        have orderly_next := orderly_then.run before
        have orderly_now := orderly_next.step (step_apply orderly_next (.resume number))
        have past_now := (past_then.run orderly_then before).1.apply orderly_next (.resume number)
        rcases overdue_of_began orderly_now past_now rest with
          ⟨idle, _, _, rfl, _, _, _, same, _, overdue, _⟩
        cases same
        have forward := (past_now.run orderly_now idle).2
        rw [recorded] at forward
        exact Nat.le_trans (Nat.add_le_add_right forward _) overdue

/-- A termination that was accepted is the last thing a watchdog does. -/
theorem last_of_terminated (orderly : execution.Orderly) {earlier later : List WatchEntry}
    {time : Nat}
    (split : execution.vigil number moves =
      earlier ++ ⟨time, .finished (.terminated true)⟩ :: later) : later = [] := by
  rcases history_eq_append split with ⟨before, move, after, rfl, _, seen, rest⟩
  rcases Option.map_eq_some_iff.mp seen with ⟨deed, does, listed⟩
  cases listed
  have orderly_then := orderly.run before
  have step := step_apply orderly_then move
  have watches := watchStep_apply orderly_then number move
  generalize old : (execution.run before).watchPhase? number = phase at watches
  generalize now : ((execution.run before).apply move).watchPhase? number = next at watches
  rw [does] at watches
  cases watches with
  | finished _ other _ => exact absurd rfl other
  | terminated =>
      have given := number_lt_of_watchPhase? orderly_then old
      rw [← rest]
      exact vigil_of_gone (orderly_then.step step)
        (Nat.lt_of_lt_of_le given step.nextNumber_le) now after

/-! ## How a watchdog ends -/

/-- A watchdog that ends finds the node retired, or has been told to shut down. -/
theorem Step.ended (step : before.Step move after) {request : Request} {exit : WatchExit}
    (reported : ⟨number, request, .watchEnded exit⟩ ∈ after.reports) :
    ⟨number, request, .watchEnded exit⟩ ∈ before.reports ∨
      (exit = .retired ∧ after.world.node.retired = true) ∨
      (exit = .shutdown ∧ move = .notice number ∧ before.world.signal.value = true) := by
  cases step with
  | advanced move earlier later task stage split takes =>
      rcases List.mem_append.mp reported with new | old
      · right
        cases takes with
        | resume ready =>
            left
            have watches := task.point.watches before.world
            generalize task.point.resume before.world = stage at watches new ⊢
            cases stage with
            | pause next world => cases new
            | done answer world =>
                cases List.mem_singleton.mp new
                generalize task.point.watchPhase? = phase at watches
                generalize task.point.watchDeed? before.world = deed at watches
                cases watches with
                | answered other => exact absurd rfl (other exit)
                | retired retired still => exact ⟨rfl, still⟩
                | terminated retired => exact ⟨rfl, retired⟩
        | notice news =>
            right
            rcases Point.watching_of_hasNews news with ⟨watch, rests⟩
            simp only [rests, Point.notice] at new
            split at new
            · rename_i told
              cases List.mem_singleton.mp new
              exact ⟨rfl, rfl, told⟩
            · cases new
      · exact .inl old
  | _ => exact .inl reported

end Execution

namespace Outset

theorem ended_run (outset : Outset) (moves : List Move) {number : Nat} {request : Request}
    {exit : WatchExit}
    (reported : ⟨number, request, .watchEnded exit⟩ ∈ (outset.execution.run moves).reports) :
    (exit = .retired ∧ (outset.execution.run moves).world.node.retired = true) ∨
      (exit = .shutdown ∧ ∃ earlier later, moves = earlier ++ .notice number :: later ∧
        (outset.execution.run earlier).world.signal.value = true) := by
  induction moves using List.reverseRecOn with
  | nil => cases reported
  | append_singleton moves move hypothesis =>
      have sound := outset.sound_run moves
      have step := Execution.step_apply sound.orderly move
      rw [Execution.run_concat] at reported ⊢
      rcases step.ended reported with old | now | ⟨rfl, rfl, told⟩
      · rcases hypothesis old with ⟨rfl, retired⟩ | ⟨rfl, earlier, later, rfl, told⟩
        · exact .inl ⟨rfl, step.retired sound retired⟩
        · exact .inr ⟨rfl, earlier, later ++ [move], by simp, told⟩
      · exact .inl now
      · exact .inr ⟨rfl, moves, [], rfl, told⟩

/-- **A watchdog acts on a node that is really idle, and once for each idle period.** No action is
under way but one that was listed when it began. It begins at a time when the definition in force
limits the idle time and the last activity lies at least the limit back, right after a look at a
node that was not retired. Between two actions the first comes to its end, not as a termination that
was accepted, and the second begins at least its limit later. After a termination that was accepted
nothing more is done. A watchdog ends because the node is retired, or because the shutdown channel
told it to. -/
theorem acts_once_per_idle_period (outset : Outset) (number : Nat) (moves : List Move) :
    let start := outset.execution
    ((start.run moves).watchPhase? number = some .acting →
      ∃ before time limit, start.vigil number moves = before ++ [⟨time, .began limit⟩]) ∧
    (∀ before time limit after,
      start.vigil number moves = before ++ ⟨time, .began limit⟩ :: after →
      ∃ earlier later seconds, moves = earlier ++ .resume number :: later ∧
        (start.run earlier).world.clock = time ∧ limit = some seconds ∧
        (start.run earlier).world.node.definition.idleTermination? = some seconds ∧
        (start.activities earlier).getLastD 0 + seconds * 1000 ≤ time ∧
        ∃ past tick, before = past ++ [⟨tick, .ticked false⟩]) ∧
    (∀ before begun limit between time seconds after,
      start.vigil number moves =
        before ++ ⟨begun, .began limit⟩ :: (between ++ ⟨time, .began (some seconds)⟩ :: after) →
      ∃ finish action others, between = ⟨finish, .finished action⟩ :: others ∧
        action ≠ .terminated true ∧ finish + seconds * 1000 ≤ time) ∧
    (∀ before time after,
      start.vigil number moves = before ++ ⟨time, .finished (.terminated true)⟩ :: after →
      after = []) ∧
    ∀ request exit, ⟨number, request, .watchEnded exit⟩ ∈ (start.run moves).reports →
      (exit = .retired ∧ (start.run moves).world.node.retired = true) ∨
        (exit = .shutdown ∧ ∃ earlier later, moves = earlier ++ .notice number :: later ∧
          (start.run earlier).world.signal.value = true) := by
  intro start
  have orderly := outset.orderly_execution
  have past : start.ActivityPast := outset.activityPast_run []
  refine ⟨Execution.follows_run orderly rfl moves, ?_, ?_, ?_, ?_⟩
  · intro before time limit after split
    rcases Execution.overdue_of_began orderly past split with
      ⟨earlier, later, seconds, rfl, same, _, clock, limited, inForce, overdue, looks, _⟩
    rw [Execution.lastActivity_run orderly] at overdue
    have lookedLast := Execution.follows_run orderly rfl earlier looks
    rw [same] at lookedLast
    exact ⟨earlier, later, seconds, rfl, clock, limited, inForce, overdue, lookedLast⟩
  · intro before begun limit between time seconds after split
    exact Execution.rests_between orderly past split
  · intro before time after split
    exact Execution.last_of_terminated orderly split
  · intro request exit reported
    exact outset.ended_run moves reported

/-- A running instance that is to be stopped after a minute without activity. -/
def idling : Outset :=
  { onInstance someInstance with
    definition := { Definition.onDemand "node" someInstance with
      idleMinutes := some (.minutes 1)
      stopOnTerminate := true } }

/-- A watchdog that stops the instance, which takes two seconds, looks again at once, since it is
late, stops the instance again a minute later, and is told to shut down meanwhile. -/
def stoppedTwice : List Move :=
  [.start 0 (.watch 10000), .resume 0, .pass 60000, .resume 0, .resume 0, .resume 0, .resume 0,
    .resume 0, .pass 2000, .resume 0, .resume 0, .resume 0, .resume 0, .resume 0, .pass 60000,
    .resume 0, .resume 0, .send true, .resume 0, .resume 0, .resume 0, .resume 0, .resume 0,
    .resume 0, .notice 0]

/-- The second stop begins exactly a minute after the first one was over, and that is as soon as it
may. -/
theorem acts_once_per_idle_period_stoppedTwice :
    idling.execution.vigil 0 stoppedTwice =
        [⟨60000, .ticked false⟩, ⟨60000, .began (some 60)⟩, ⟨62000, .finished (.stopped true)⟩,
          ⟨62000, .ticked false⟩, ⟨122000, .ticked false⟩, ⟨122000, .began (some 60)⟩,
          ⟨122000, .finished (.stopped true)⟩] ∧
      62000 + 60 * 1000 ≤ 122000 ∧
      ∃ earlier later, stoppedTwice = earlier ++ .notice 0 :: later ∧
        (idling.execution.run earlier).world.signal.value = true := by
  have listed : idling.execution.vigil 0 stoppedTwice =
      [⟨60000, .ticked false⟩, ⟨60000, .began (some 60)⟩, ⟨62000, .finished (.stopped true)⟩,
        ⟨62000, .ticked false⟩, ⟨122000, .ticked false⟩, ⟨122000, .began (some 60)⟩,
        ⟨122000, .finished (.stopped true)⟩] := by
    decide +kernel
  have watches := idling.acts_once_per_idle_period 0 stoppedTwice
  refine ⟨listed, ?_, ?_⟩
  · rcases watches.2.2.1 [⟨60000, .ticked false⟩] 60000 (some 60)
      [⟨62000, .finished (.stopped true)⟩, ⟨62000, .ticked false⟩, ⟨122000, .ticked false⟩]
      122000 60 _ listed with ⟨finish, action, others, first, _, bound⟩
    cases first
    exact bound
  · have reported : ⟨0, .watch 10000, .watchEnded .shutdown⟩ ∈
        (idling.execution.run stoppedTwice).reports := .head _
    rcases watches.2.2.2.2 _ _ reported with ⟨retired, _⟩ | ⟨_, told⟩
    · cases retired
    · exact told

end Outset

end BuildAgent
