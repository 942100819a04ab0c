import BuildAgent.Proofs.Monitor.Effect
import BuildAgent.Proofs.Schedule.Agenda

/-!
# No live session is stranded

A session that waits for its node to come back waits for a look of the monitor. The look is either
scheduled or under way, and then it schedules the next one before it ends, unless it ends the
session. `Execution.looks` counts both kinds together, so a step that turns one into the other
leaves the count alone.

`Execution.Attended` is the invariant: the live session of a node that exists has a look.
`Execution.WatchedOnce` is the one that holds where nobody asks for looks out of turn: no session
has two.
-/

namespace BuildAgent

/-- The sessions of the looks that are scheduled and of those that are under way. -/
def Execution.looks (execution : Execution) : List Nat :=
  execution.world.agenda.jobs ++ execution.running.filterMap fun task => task.point.tick?

/-- What a step of a task can do to the looks: the look that depends on the task before the step,
and the one that depends on it afterwards. -/
inductive World.Passes (before after : World) : Option Nat → Option Nat → Prop where
  | same (tick : Option Nat) (session : after.node.session = before.node.session)
      (agenda : after.agenda = before.agenda) : Passes before after tick tick
  | opened (session : after.node.session = before.node.session.start)
      (agenda : after.agenda = before.agenda) :
      Passes before after none (some (before.node.session.generation + 1))
  | dropped (session : Nat) (agenda : after.agenda = before.agenda)
      (generation : after.node.session.generation = before.node.session.generation)
      (active : after.node.session.active = true → before.node.session.active = true)
      (dead : after.node.session.isCurrent session = false) :
      Passes before after (some session) none
  | scheduled (session : Nat) (current : before.node.session.isCurrent session = true)
      (jobs : after.agenda.jobs = before.agenda.jobs ++ [session])
      (generation : after.node.session.generation = before.node.session.generation)
      (active : after.node.session.active = before.node.session.active) :
      Passes before after (some session) none

theorem World.Attempts.jobs {session attempt : Nat} {before after : World}
    (attempts : before.Attempts session attempt after) :
    after.agenda.jobs = before.agenda.jobs ++ [session] := by
  rcases attempts.agenda with ⟨now, delay, scheduled⟩
  rw [scheduled, Schedule.Agenda.jobs_schedule]

theorem World.Retries.jobs {session : Nat} {before after : World}
    (retries : before.Retries session after) :
    after.agenda.jobs = before.agenda.jobs ++ [session] := by
  rcases retries.agenda with ⟨now, delay, scheduled⟩
  rw [scheduled, Schedule.Agenda.jobs_schedule]

theorem World.jobs_scheduleMonitor (world : World) (session delay : Nat) :
    (world.scheduleMonitor session delay).agenda.jobs = world.agenda.jobs ++ [session] := by
  simp [Schedule.Agenda.jobs_schedule]

/-- A look that decides hands its session on to the next look, or closes it. -/
theorem LookPoint.Effect.passes {session : Nat} {before after : World} {outcome : LookOutcome}
    (effect : LookPoint.Effect session before after outcome)
    (current : before.node.session.isCurrent session = true) :
    before.Passes after (some session) none := by
  cases effect with
  | closed outcome resets =>
      have closed : after.node.session.active = false := by
        rw [resets.session]
        rfl
      refine .dropped session resets.agenda ?_ ?_ ?_
      · rw [resets.session]
        rfl
      · simp [closed]
      · simp [Reboot.Session.isCurrent, closed]
  | started attempt idle attempts =>
      have record := attempts.record
      exact .scheduled session current attempts.jobs (by rw [record]) (by rw [record])
  | rechecked attempt delay busy underWay scheduled =>
      subst scheduled
      exact .scheduled session current (World.jobs_scheduleMonitor _ _ _) rfl rfl
  | retried attempt busy ended retries =>
      exact .scheduled session current retries.jobs retries.generation retries.active

theorem Point.Effect.passes {point : Point} {next : Option Point} {before after : World}
    (effect : point.Effect before next after)
    (live : ∀ session, point.session? = some session →
      before.node.session.isCurrent session = true) :
    before.Passes after point.tick? (next.bind Point.tick?) := by
  cases effect with
  | kept through tick works =>
      rw [tick]
      exact .same _ through.session_eq through.agenda_eq
  | engaged looks current managed attached idle =>
      subst looks
      exact .same _ rfl rfl
  | superseded looks stale =>
      subst looks
      exact .dropped _ rfl rfl id stale
  | opened reboots works resets causes marked =>
      rename_i afterBuild inner
      subst reboots
      have tick : (some (Point.rebooting afterBuild inner)).bind Point.tick? =
          some (before.node.session.generation + 1) := works
      rw [tick]
      exact .opened resets.session resets.agenda
  | concluded reboots works through scheduled =>
      subst reboots scheduled
      have current := live _ works
      have session := through.session_eq
      simp only [Point.tick?, works]
      refine .scheduled _ current ?_ (congrArg Reboot.Session.generation session)
        (congrArg Reboot.Session.active session)
      rw [World.jobs_scheduleMonitor, through.agenda_eq]
  | decided tick current effect =>
      rw [tick]
      exact effect.passes current

namespace Execution

variable {execution before after : Execution} {earlier later : List Task} {task : Task}
  {move : Move} {stage : Stage Point Answer}

theorem count_looks (execution : Execution) (session : Nat) :
    execution.looks.count session = execution.world.agenda.jobs.count session +
      (execution.running.filterMap fun task => task.point.tick?).count session :=
  List.count_append

theorem count_looks_of_split (split : execution.running = earlier ++ task :: later)
    (session : Nat) :
    execution.looks.count session = execution.world.agenda.jobs.count session +
      task.point.tick?.toList.count session +
      ((earlier ++ later).filterMap fun task => task.point.tick?).count session := by
  rw [count_looks, split]
  rcases tick_eq : task.point.tick? with _ | own
  · simp [tick_eq]
  · simp [tick_eq, List.count_cons]
    omega

theorem count_looks_replace (session : Nat) :
    (execution.replace earlier task later stage).looks.count session =
      stage.world.agenda.jobs.count session +
        (stage.point?.bind Point.tick?).toList.count session +
        ((earlier ++ later).filterMap fun task => task.point.tick?).count session := by
  rw [count_looks]
  cases stage with
  | pause next world =>
      rcases tick_eq : next.tick? with _ | own
      · simp [replace, Stage.remaining, Stage.point?, Stage.world, tick_eq]
      · simp [replace, Stage.remaining, Stage.point?, Stage.world, tick_eq, List.count_cons]
        omega
  | done answer world => simp [replace, Stage.remaining, Stage.point?, Stage.world]

/-- What a move can do to the looks, taken together. -/
inductive Tally (before after : Execution) : Move → Prop where
  | balanced (move : Move)
      (count : ∀ session, after.looks.count session = before.looks.count session)
      (generation : after.world.node.session.generation = before.world.node.session.generation)
      (active : after.world.node.session.active = before.world.node.session.active) :
      Tally before after move
  | asked (number session : Nat)
      (count : ∀ other, after.looks.count other = before.looks.count other + [session].count other)
      (same : after.world.node.session = before.world.node.session) :
      Tally before after (.start number (.look session))
  | opened (move : Move)
      (count : ∀ session, after.looks.count session = before.looks.count session +
        [before.world.node.session.generation + 1].count session)
      (session : after.world.node.session = before.world.node.session.start) :
      Tally before after move
  | dropped (move : Move) (session : Nat)
      (count : ∀ other, before.looks.count other = after.looks.count other + [session].count other)
      (generation : after.world.node.session.generation = before.world.node.session.generation)
      (active : after.world.node.session.active = true →
        before.world.node.session.active = true)
      (dead : after.world.node.session.isCurrent session = false) : Tally before after move
  | lost (move : Move)
      (count : ∀ session, after.looks.count session ≤ before.looks.count session)
      (same : after.world.node.session = before.world.node.session)
      (gone : after.hasNode = false) : Tally before after move

theorem tick?_entry (request : Request) :
    (∃ session, request = .look session ∧ request.entry.tick? = some session) ∨
      request.entry.tick? = none := by
  cases request with
  | look session => exact .inl ⟨session, rfl, rfl⟩
  | _ => exact .inr rfl

theorem tally_started (number : Nat) (request : Request) :
    before.Tally { before with
      running := before.running ++ [⟨number, request, request.entry⟩]
      nextNumber := number + 1 } (.start number request) := by
  rcases tick?_entry request with ⟨session, rfl, tick⟩ | tick
  · refine .asked number session ?_ rfl
    intro other
    simp [looks, tick, Nat.add_assoc]
  · refine .balanced _ ?_ rfl rfl
    intro other
    simp [looks, tick]

theorem tally_advanced (passes : before.world.Passes stage.world task.point.tick?
      (stage.point?.bind Point.tick?)) (split : before.running = earlier ++ task :: later) :
    before.Tally (before.replace earlier task later stage) move := by
  have old := count_looks_of_split split
  have new : ∀ session, (before.replace earlier task later stage).looks.count session = _ :=
    count_looks_replace
  generalize tick_eq : task.point.tick? = tick at passes old
  generalize next_eq : stage.point?.bind Point.tick? = next at passes new
  cases passes with
  | same _ session agenda =>
      refine .balanced move ?_ (congrArg Reboot.Session.generation session)
        (congrArg Reboot.Session.active session)
      intro other
      rw [old, new, agenda]
  | opened session agenda =>
      refine .opened move ?_ session
      intro other
      rw [old, new, agenda]
      simp only [Option.toList_none, Option.toList_some, List.count_nil]
      omega
  | dropped session agenda generation active dead =>
      refine .dropped move session ?_ generation active dead
      intro other
      rw [old, new, agenda]
      simp only [Option.toList_none, Option.toList_some, List.count_nil]
      omega
  | scheduled session current jobs generation active =>
      refine .balanced move ?_ generation active
      intro other
      rw [old, new, jobs, List.count_append]
      simp only [Option.toList_none, Option.toList_some, List.count_nil]
      omega

theorem Step.tally (sound : before.Sound) (step : before.Step move after) :
    before.Tally after move := by
  cases step with
  | idle move => exact .balanced move (fun _ => rfl) rfl rfl
  | outside move change changes =>
      rcases Move.frame_outside changes before.world with ⟨session, agenda, _, _⟩
      refine .balanced move ?_ (congrArg Reboot.Session.generation session)
        (congrArg Reboot.Session.active session)
      intro other
      simp [looks, withWorld, agenda]
  | started number request fresh => exact tally_started number request
  | looked number session delay agenda fresh scheduled =>
      refine .balanced _ ?_ (by simp) (by simp)
      intro other
      have taken := (World.perm_of_scheduled? scheduled).count_eq other
      simp only [List.count_cons] at taken
      simp only [looks, List.filterMap_append, List.count_append, List.filterMap_cons, Point.tick?,
        List.filterMap_nil, List.count_cons, List.count_nil, World.frame_withAgenda, taken]
      omega
  | lost number session delay agenda scheduled dropped alone =>
      refine .lost _ ?_ (by simp [withWorld]) (by simp [hasNode, withWorld, dropped, alone])
      intro other
      have taken := (World.perm_of_scheduled? scheduled).count_eq other
      simp only [List.count_cons] at taken
      simp only [looks, withWorld, World.frame_note, World.frame_withAgenda, List.count_append,
        taken]
      omega
  | advanced move earlier later task stage split takes =>
      have running := mem_of_eq_append split
      have effect := takes.effect sound.guarded running
      exact tally_advanced (effect.passes fun session works =>
        (sound.guarded task running session works).1) split

theorem hasNode_of_held {execution : Execution} (held : execution.world.node.held = true) :
    execution.hasNode = true := by
  simp [hasNode, held]

/-- A node that is gone does not come back. -/
theorem Step.hasNode_of_hasNode (step : before.Step move after)
    (present : after.hasNode = true) : before.hasNode = true := by
  cases step with
  | idle move => exact present
  | outside move change changes =>
      have held := (Move.frame_outside changes before.world).2.2.2
      simp only [hasNode, withWorld, Bool.or_eq_true] at present ⊢
      exact present.imp_left held
  | started number request fresh held => exact hasNode_of_held held
  | looked number session delay agenda fresh scheduled here => exact here
  | lost number session delay agenda scheduled dropped alone =>
      simp [hasNode, withWorld, dropped, alone] at present
  | advanced move earlier later task stage split takes => simp [hasNode, split]

/-- Only a live session has its next look scheduled. -/
theorem Step.mem_jobs (sound : before.Sound) (step : before.Step move after) {session : Nat}
    (waits : session ∈ after.world.agenda.jobs) : session ∈ before.world.agenda.jobs ∨
      before.world.node.session.isCurrent session = true := by
  cases step with
  | idle move => exact .inl waits
  | outside move change changes =>
      have agenda := (Move.frame_outside changes before.world).2.1
      exact .inl (by simpa [withWorld, agenda] using waits)
  | started number request fresh => exact .inl waits
  | looked number own delay agenda fresh scheduled =>
      refine .inl ((World.perm_of_scheduled? scheduled).mem_iff.mpr ?_)
      exact List.mem_cons_of_mem own (by simpa using waits)
  | lost number own delay agenda scheduled dropped =>
      refine .inl ((World.perm_of_scheduled? scheduled).mem_iff.mpr ?_)
      exact List.mem_cons_of_mem own (by simpa [withWorld] using waits)
  | advanced move earlier later task stage split takes =>
      have running := mem_of_eq_append split
      have passes := (takes.effect sound.guarded running).passes fun session works =>
        (sound.guarded task running session works).1
      simp only [replace] at waits
      generalize tick_eq : task.point.tick? = tick at passes
      generalize next_eq : stage.point?.bind Point.tick? = next at passes
      cases passes with
      | same _ _ agenda => exact .inl (agenda ▸ waits)
      | opened _ agenda => exact .inl (agenda ▸ waits)
      | dropped _ agenda _ _ _ => exact .inl (agenda ▸ waits)
      | scheduled own current jobs _ _ =>
          rw [jobs, List.mem_append, List.mem_singleton] at waits
          rcases waits with old | rfl
          · exact .inl old
          · exact .inr current

/-! ## The invariants -/

end Execution

def Move.asksForLook : Move → Bool
  | .start _ (.look _) => true
  | _ => false

/-- Whether a session was live once and never will be again. -/
def Reboot.Session.IsOver (record : Reboot.Session) (session : Nat) : Prop :=
  session < record.generation ∨ session = record.generation ∧ record.active = false

theorem Reboot.Session.IsOver.not_current {record : Reboot.Session} {session : Nat}
    (past : record.IsOver session) : record.isCurrent session = false := by
  rcases past with below | ⟨_, inactive⟩
  · have different : record.generation ≠ session := by omega
    simp [isCurrent, different]
  · simp [isCurrent, inactive]

namespace Execution

variable {before after execution : Execution} {move : Move}

/-- The number of the newest session never goes down, and a session that was closed stays so. -/
theorem Tally.isOver (tally : before.Tally after move) {session : Nat}
    (past : before.world.node.session.IsOver session) :
    after.world.node.session.IsOver session := by
  simp only [Reboot.Session.IsOver] at *
  cases tally with
  | balanced move count generation active => rwa [generation, active]
  | asked number own count same => rwa [same]
  | opened move count started =>
      left
      rw [started]
      simp only [Reboot.Session.start]
      omega
  | dropped move own count generation active dead =>
      rw [generation]
      apply past.imp_right
      intro closed
      refine ⟨closed.1, ?_⟩
      by_contra now
      have reopened := active (by simpa using now)
      simp [reopened] at closed
  | lost move count same gone => rwa [same]

/-- Scheduled looks are of sessions that were opened. -/
def Dated (execution : Execution) : Prop :=
  ∀ session, session ∈ execution.world.agenda.jobs →
    session ≤ execution.world.node.session.generation

/-- The live session of a node that exists has a look. -/
def Attended (execution : Execution) : Prop :=
  execution.hasNode = true → ∀ session,
    execution.world.node.session.isCurrent session = true → 0 < execution.looks.count session

/-- The live session of a node that is held has a look. -/
def Watched (execution : Execution) : Prop :=
  execution.world.node.held = true → ∀ session,
    execution.world.node.session.isCurrent session = true → 0 < execution.looks.count session

/-- No session has two looks, and one that was not opened has none. -/
structure WatchedOnce (execution : Execution) : Prop where
  atMost : ∀ session, execution.looks.count session ≤ 1
  future : ∀ session, execution.world.node.session.generation < session →
    execution.looks.count session = 0

theorem Tally.generation_le (tally : before.Tally after move) :
    before.world.node.session.generation ≤ after.world.node.session.generation := by
  cases tally with
  | balanced move count generation active => exact Nat.le_of_eq generation.symm
  | asked number own count same => exact Nat.le_of_eq (by rw [same])
  | opened move count started =>
      rw [started]
      exact Nat.le_succ _
  | dropped move own count generation active dead => exact Nat.le_of_eq generation.symm
  | lost move count same gone => exact Nat.le_of_eq (by rw [same])

/-- The numbers of sessions only grow. -/
theorem Sound.generation_le_run (sound : execution.Sound) (moves : List Move) :
    execution.world.node.session.generation ≤
      (execution.run moves).world.node.session.generation := by
  refine sound.run_induction (fun _ => True) (fun later =>
    execution.world.node.session.generation ≤ later.world.node.session.generation) ?_
    (Nat.le_refl _) moves fun _ _ => trivial
  intro before after move sound _ step earlier
  exact Nat.le_trans earlier (step.tally sound).generation_le

theorem Dated.step (dated : before.Dated) (sound : before.Sound) (step : before.Step move after) :
    after.Dated := by
  intro session waits
  have grows := (step.tally sound).generation_le
  rcases step.mem_jobs sound waits with old | current
  · exact Nat.le_trans (dated session old) grows
  · simp only [Reboot.Session.isCurrent, Bool.and_eq_true, decide_eq_true_eq] at current
    omega

theorem Attended.step (attended : before.Attended) (sound : before.Sound)
    (step : before.Step move after) : after.Attended := by
  intro present session current
  have earlier := attended (step.hasNode_of_hasNode present)
  cases step.tally sound with
  | balanced _ count generation active =>
      rw [count]
      refine earlier session ?_
      simpa only [Reboot.Session.isCurrent, generation, active] using current
  | asked number own count same =>
      rw [count]
      have one := earlier session (same ▸ current)
      omega
  | opened _ count started =>
      simp only [started, Reboot.Session.isCurrent, Reboot.Session.start, Bool.true_and,
        decide_eq_true_eq] at current
      rw [count, ← current]
      simp
  | dropped _ own count generation active dead =>
      -- A look is dropped only where its session is dead, so it was not the look of this one.
      have different : own ≠ session := by
        rintro rfl
        simp [current] at dead
      have same := count session
      rw [List.count_singleton] at same
      simp only [beq_iff_eq, different, if_false, Nat.add_zero] at same
      rw [← same]
      refine earlier session ?_
      simp only [Reboot.Session.isCurrent, Bool.and_eq_true, decide_eq_true_eq, generation]
        at current ⊢
      exact ⟨active current.1, current.2⟩
  | lost _ count same gone => simp [present] at gone

theorem WatchedOnce.step (once : before.WatchedOnce) (sound : before.Sound)
    (inTurn : move.asksForLook = false) (step : before.Step move after) : after.WatchedOnce := by
  cases step.tally sound with
  | balanced _ count generation active =>
      exact ⟨fun session => by rw [count]; exact once.atMost session, fun session beyond => by
        rw [count]; exact once.future session (generation ▸ beyond)⟩
  | asked number own count same => cases inTurn
  | opened _ count started =>
      -- The new session has its first look, and `future` tells that it had none before.
      have fresh := once.future (before.world.node.session.generation + 1) (Nat.lt_succ_self _)
      constructor
      · intro session
        have most := once.atMost session
        rw [count, List.count_singleton]
        split
        · rename_i same
          have new := beq_iff_eq.mp same
          subst new
          omega
        · omega
      · intro session beyond
        rw [started] at beyond
        simp only [Reboot.Session.start] at beyond
        have none_yet := once.future session (by omega)
        have different : before.world.node.session.generation + 1 ≠ session := by omega
        simp [count, none_yet, different]
  | dropped _ own count generation active dead =>
      constructor
      · intro session
        have most := once.atMost session
        have same := count session
        omega
      · intro session beyond
        have none_yet := once.future session (generation ▸ beyond)
        have same := count session
        omega
  | lost _ count same gone =>
      constructor
      · intro session
        exact Nat.le_trans (count session) (once.atMost session)
      · intro session beyond
        have none_yet := once.future session (same ▸ beyond)
        have fewer := count session
        omega

theorem count_looks_of_calm (calm : ∀ task, task ∈ execution.running → task.point.tick? = none)
    (session : Nat) :
    execution.looks.count session = execution.world.agenda.jobs.count session := by
  have none_running : (execution.running.filterMap fun task => task.point.tick?) = [] :=
    List.filterMap_eq_nil_iff.mpr calm
  simp [count_looks, none_running]

end Execution

namespace Outset

variable (outset : Outset) (moves : List Move)

theorem looks_execution : outset.execution.looks = [] := by
  simp [Execution.looks, execution, World.create, outset.idle]

theorem attended_run :
    (outset.execution.run moves).Dated ∧ (outset.execution.run moves).Attended := by
  refine outset.sound_execution.run_induction (fun _ => True)
    (fun execution => execution.Dated ∧ execution.Attended) ?_ ?_ moves fun _ _ => trivial
  · rintro before after move sound _ step ⟨dated, attended⟩
    exact ⟨dated.step sound step, attended.step sound step⟩
  · constructor
    · intro session waits
      simp [execution, World.create, outset.idle] at waits
    · intro _ session current
      cases current

theorem watched_run :
    (outset.execution.run moves).Dated ∧ (outset.execution.run moves).Watched := by
  rcases outset.attended_run moves with ⟨dated, attended⟩
  exact ⟨dated, fun held => attended (Execution.hasNode_of_held held)⟩

theorem watchedOnce_run (inTurn : ∀ move, move ∈ moves → move.asksForLook = false) :
    (outset.execution.run moves).WatchedOnce := by
  refine outset.sound_execution.run_induction (fun move => move.asksForLook = false)
    Execution.WatchedOnce ?_ ?_ moves inTurn
  · intro before after move sound inTurn step once
    exact once.step sound inTurn step
  · constructor <;> intro session <;> simp [outset.looks_execution]

theorem isOver_run {execution : Execution} (sound : execution.Sound) {session : Nat}
    (past : execution.world.node.session.IsOver session) :
    (execution.run moves).world.node.session.IsOver session := by
  refine sound.run_induction (fun _ => True)
    (fun later => later.world.node.session.IsOver session) ?_ past moves fun _ _ => trivial
  intro before after move sound _ step past
  exact (step.tally sound).isOver past

/-- **No live session is stranded, and none is looked after twice.** After any moves in any order,
while somebody holds the node and no reboot and no look is under way: the live session has a look
that is scheduled; it has exactly one if looks were only ever run by the scheduler; and if no
session is live, the looks that are scheduled are of sessions that never will be live again. -/
theorem one_look (held : (outset.execution.run moves).world.node.held = true)
    (calm : ∀ task, task ∈ (outset.execution.run moves).running → task.point.tick? = none) :
    (∀ session, (outset.execution.run moves).world.node.session.isCurrent session = true →
      session ∈ (outset.execution.run moves).world.agenda.jobs) ∧
    ((∀ move, move ∈ moves → move.asksForLook = false) → ∀ session,
      (outset.execution.run moves).world.node.session.isCurrent session = true →
      (outset.execution.run moves).world.agenda.jobs.count session = 1) ∧
    ((outset.execution.run moves).world.node.session.active = false → ∀ session,
      session ∈ (outset.execution.run moves).world.agenda.jobs → ∀ later,
      (outset.execution.run (moves ++ later)).world.node.session.isCurrent session = false) := by
  rcases outset.watched_run moves with ⟨dated, watched⟩
  have scheduled := Execution.count_looks_of_calm calm
  refine ⟨?_, ?_, ?_⟩
  · intro session current
    have some_look := watched held session current
    rw [scheduled] at some_look
    exact List.count_pos_iff.mp some_look
  · intro inTurn session current
    have some_look := watched held session current
    have most := (outset.watchedOnce_run moves inTurn).atMost session
    rw [scheduled] at some_look most
    omega
  · intro inactive session waits later
    have past : (outset.execution.run moves).world.node.session.IsOver session := by
      rcases Nat.lt_or_eq_of_le (dated session waits) with below | same
      · exact .inl below
      · exact .inr ⟨same, inactive⟩
    rw [Execution.run_append]
    exact (isOver_run later (outset.sound_run moves) past).not_current

/-- After a reboot of a node without an instance one look is scheduled. -/
theorem one_look_plain :
    (plain.execution.run
      [.start 0 .reboot, .resume 0, .resume 0, .resume 0, .resume 0]).world.agenda.jobs.count 1 =
        1 := by
  refine (plain.one_look [.start 0 .reboot, .resume 0, .resume 0, .resume 0, .resume 0] rfl ?_).2.1
    ?_ 1 rfl
  · intro task running
    have ended : (plain.execution.run
      [.start 0 .reboot, .resume 0, .resume 0, .resume 0, .resume 0]).running = [] := rfl
    rw [ended] at running
    cases running
  · decide

end Outset

end BuildAgent
