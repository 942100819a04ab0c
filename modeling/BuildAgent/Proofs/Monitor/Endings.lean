import BuildAgent.Proofs.Monitor.StaleLooks
import BuildAgent.Proofs.Monitor.Ticks
import BuildAgent.Proofs.Monitor.Verdicts
import BuildAgent.Proofs.Task.Requests

/-!
# Every session ends at most once

A look that ends its session closes it, and only a live session can be ended, so no session has two
endings. A session that was ended, or that a newer one has replaced, is never live again; a look of
a session that is not live says so and changes nothing but the journal.
-/

namespace BuildAgent

/-- Whether a look with an outcome was the last of its session. -/
def LookOutcome.isEnding : LookOutcome → Bool
  | online => true
  | abandoned _ => true
  | _ => false

/-- Whether a report is on a look that ended a session. -/
def Report.isEndingOf (session : Nat) (report : Report) : Bool :=
  match report.request, report.answer with
  | .look own, .looked outcome => own = session && outcome.isEnding
  | _, _ => false

theorem Report.looked_of_isEndingOf {session : Nat} {report : Report}
    (ends : report.isEndingOf session = true) : report.request = .look session ∧
      ∃ outcome, report.answer = .looked outcome ∧ outcome.isEnding = true := by
  rcases report with ⟨number, request, answer⟩
  cases request with
  | look own =>
      cases answer with
      | looked outcome =>
          simp only [isEndingOf, Bool.and_eq_true, decide_eq_true_eq] at ends
          exact ⟨by rw [ends.1], outcome, rfl, ends.2⟩
      | _ => cases ends
  | _ => cases ends

namespace LookPoint

variable {session : Nat} {world before after : World} {outcome : LookOutcome}

theorem Effect.closes (effect : Effect session before after outcome)
    (ending : outcome.isEnding = true) : before.Resets .close after := by
  cases effect with
  | closed outcome resets => exact resets
  | _ => cases ending

/-- A look that ends its session finds it live and closes it. -/
theorem closes_of_resume {point : LookPoint}
    (ended : point.resume session world = .done outcome after) (ending : outcome.isEnding = true)
    (live : ∀ own, (Point.looking session point).session? = some own →
      world.node.session.isCurrent own = true ∧ world.node.session.attempt = none) :
    world.node.session.isCurrent session = true ∧
      after.node.session = world.node.session.close := by
  cases point with
  | waiting =>
      have begun : begin session world = .done outcome after := ended
      rcases effect_begin begun with ⟨stale, _⟩ | ⟨current, effect⟩
      · have superseded : begin session world =
            .done .superseded (world.note (.superseded session)) := by
          simp [begin, stale]
        rw [superseded] at begun
        cases begun
        cases ending
      · exact ⟨current, (effect.closes ending).session⟩
  | refreshing fetch =>
      rcases live session rfl with ⟨current, idle⟩
      have through := fetch.through world
      rcases stage_eq : fetch.resume world with ⟨next, middle⟩ | ⟨found, middle⟩
      · simp [resume, stage_eq] at ended
      · rw [stage_eq] at through
        have managed : ¬Deed.IsFetch .retire := id
        simp only [resume, stage_eq, Stage.andThen_done] at ended
        have effect := effect_afterFetch (.of_through managed through) idle ended
        exact ⟨current, (effect.closes ending).session⟩

end LookPoint

namespace Execution

variable {execution before after : Execution} {move : Move}

/-- A session that was ended is over, and it was ended once. -/
def EndsOnce (execution : Execution) : Prop :=
  ∀ session, execution.reports.countP (Report.isEndingOf session) ≤ 1 ∧
    (0 < execution.reports.countP (Report.isEndingOf session) →
      execution.world.node.session.IsOver session)

theorem EndsOnce.of_same_reports (once : before.EndsOnce) (sound : before.Sound)
    (step : before.Step move after) (same : after.reports = before.reports) : after.EndsOnce := by
  intro session
  rw [same]
  exact ⟨(once session).1, fun ended => (step.tally sound).isOver ((once session).2 ended)⟩

/-- The step of a look that ends a session, which nobody ended before. -/
theorem Takes.closes {task : Task} {answer : Answer} {world : World} {session : Nat}
    (takes : before.Takes task move (.done answer world)) (sound : before.Sound)
    (faithful : before.Faithful) (running : task ∈ before.running)
    (ends : Report.isEndingOf session ⟨task.number, task.request, answer⟩ = true) :
    before.world.node.session.isCurrent session = true ∧
      world.node.session = before.world.node.session.close := by
  rcases Report.looked_of_isEndingOf ends with ⟨asked, outcome, answered, ending⟩
  dsimp only at asked answered
  subst answered
  rcases takes.looked with ⟨own, inner, looks, ended⟩
  rcases faithful.looking running asked with ⟨other, same⟩
  rw [looks] at same
  cases same
  refine LookPoint.closes_of_resume ended ending ?_
  intro own works
  exact sound.guarded task running own (looks ▸ works)

theorem EndsOnce.step (once : before.EndsOnce) (sound : before.Sound) (faithful : before.Faithful)
    (step : before.Step move after) : after.EndsOnce := by
  have whole := step
  cases step with
  | advanced move earlier later task stage split takes =>
      cases stage with
      | pause next world => exact once.of_same_reports sound whole rfl
      | done answer world =>
          intro session
          simp only [replace, Stage.reported, List.singleton_append, List.countP_cons]
          split
          · -- Nobody ended the session before, because it is live.
            rename_i ends
            rcases takes.closes sound faithful (mem_of_eq_append split) ends with
              ⟨current, closed⟩
            have fresh : before.reports.countP (Report.isEndingOf session) = 0 := by
              by_contra ended
              have past := (once session).2 (Nat.pos_of_ne_zero ended)
              simp [past.not_current] at current
            refine ⟨by omega, fun _ => .inr ?_⟩
            simp only [Reboot.Session.isCurrent, Bool.and_eq_true, decide_eq_true_eq] at current
            simp only [Stage.world, closed]
            exact ⟨current.2.symm, rfl⟩
          · refine ⟨(once session).1, ?_⟩
            intro ended
            exact (whole.tally sound).isOver ((once session).2 ended)
  | _ => exact once.of_same_reports sound whole rfl

/-- A look of a session that is not live says so and does nothing else. -/
theorem resume_of_stale (sound : execution.Sound) (faithful : execution.Faithful) {task : Task}
    (running : task ∈ execution.running) {session : Nat} (asked : task.request = .look session)
    (stale : execution.world.node.session.isCurrent session = false)
    (ready : execution.isReady task = true) :
    execution.resume task.number = { execution with
      world := execution.world.note (.superseded session)
      running := execution.running.filter fun other => other.number ≠ task.number
      reports := ⟨task.number, .look session, .looked .superseded⟩ :: execution.reports } := by
  rcases faithful.looking running asked with ⟨inner, looks⟩
  have waits : inner = .waiting := by
    cases inner with
    | waiting => rfl
    | refreshing fetch =>
        -- A look that is further on holds the session lock, and its session is live.
        have live := (sound.guarded task running session (by rw [looks]; rfl)).1
        simp [stale] at live
  subst waits
  have ends : task.point.resume execution.world =
      .done (.looked .superseded) (execution.world.note (.superseded session)) := by
    rw [looks]
    simp only [Point.resume, LookPoint.resume, LookPoint.begin, stale]
    rfl
  simp only [resume, task?_of_mem sound.orderly running, ready, if_true, ends, settle, asked]

end Execution

namespace Outset

variable (outset : Outset) (moves : List Move)

theorem endsOnce_run : (outset.execution.run moves).EndsOnce := by
  have both := outset.sound_execution.run_induction (fun _ => True)
    (fun execution => execution.Faithful ∧ execution.EndsOnce) ?_ ?_ moves fun _ _ => trivial
  · exact both.2
  · rintro before after move sound _ step ⟨faithful, once⟩
    exact ⟨faithful.step step, once.step sound faithful step⟩
  · refine ⟨outset.faithful_run [], ?_⟩
    intro session
    exact ⟨Nat.zero_le _, fun ended => absurd ended (Nat.lt_irrefl 0)⟩

/-- **Every session has at most one ending, and stale looks do nothing.** Whatever moves are made in
whatever order: of the looks of one session at most one ends it; from then on, and from when a newer
session was opened, the session is not live, and neither is one that was not opened yet; a look of a
session that is not live says so when it gets the session lock and changes nothing but the journal.
So such looks, as many as there are, can be left out anywhere: all other tasks and reports are the
same without them, and so are the world and what the journal tells about anything else. -/
theorem one_ending :
    (∀ session, (outset.execution.run moves).reports.countP (Report.isEndingOf session) ≤ 1) ∧
    (∀ session, (∃ report, report ∈ (outset.execution.run moves).reports ∧
        report.isEndingOf session = true) ∨
        session < (outset.execution.run moves).world.node.session.generation → ∀ later,
      (outset.execution.run (moves ++ later)).world.node.session.isCurrent session = false) ∧
    (∀ session, session = 0 ∨ (outset.execution.run moves).world.node.session.generation < session →
      (outset.execution.run moves).world.node.session.isCurrent session = false) ∧
    (∀ task, task ∈ (outset.execution.run moves).running → ∀ session,
      task.request = .look session →
      (outset.execution.run moves).world.node.session.isCurrent session = false →
      (outset.execution.run moves).isReady task = true →
      outset.execution.run (moves ++ [.resume task.number]) =
        { outset.execution.run moves with
          world := (outset.execution.run moves).world.note (.superseded session)
          running := (outset.execution.run moves).running.filter fun other =>
            other.number ≠ task.number
          reports := ⟨task.number, .look session, .looked .superseded⟩ ::
            (outset.execution.run moves).reports }) ∧
    (∀ omitted, outset.execution.canOmitAll omitted moves = true →
      (outset.execution.run moves).Shadows omitted
        (outset.execution.run (moves.filter fun move => !move.isOmitted omitted))) := by
  have sound := outset.sound_run moves
  have once := outset.endsOnce_run moves
  refine ⟨fun session => (once session).1, ?_, ?_, ?_, ?_⟩
  · intro session past later
    have gone : (outset.execution.run moves).world.node.session.IsOver session := by
      rcases past with ⟨report, reported, ends⟩ | below
      · exact (once session).2 (List.countP_pos_iff.mpr ⟨report, reported, ends⟩)
      · exact .inl below
    rw [Execution.run_append]
    exact (isOver_run later sound gone).not_current
  · rintro session (rfl | beyond)
    · have never : outset.execution.world.node.session.IsOver 0 := .inr ⟨rfl, rfl⟩
      exact (isOver_run moves outset.sound_execution never).not_current
    · have different := Nat.ne_of_lt beyond
      simp [Reboot.Session.isCurrent, different]
  · intro task running session asked stale ready
    rw [Execution.run_append]
    exact Execution.resume_of_stale sound (outset.faithful_run moves) running asked stale ready
  · intro omitted permitted
    exact (Execution.shadows_of_fresh omitted rfl rfl).run moves permitted

/-- A reboot, and a look of a session that nobody opened, which waits until the reboot is done. -/
def strayLook : List Move :=
  [.start 0 .reboot, .resume 0, .start 1 (.look 7), .resume 0, .resume 1, .resume 0, .resume 0,
    .resume 1]

/-- Without the look the reboot goes as it did with it. -/
theorem one_ending_stray :
    (plain.execution.run strayLook).reports.length = 2 ∧
      (plain.execution.run (strayLook.filter fun move => !move.isOmitted (· == 1))).reports =
        (plain.execution.run strayLook).reports.filter fun report => !(report.number == 1) := by
  have permitted : plain.execution.canOmitAll (· == 1) strayLook = true := by decide +kernel
  exact ⟨by decide +kernel, ((plain.one_ending strayLook).2.2.2.2 _ permitted).reports⟩

end Outset

end BuildAgent
