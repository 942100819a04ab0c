import BuildAgent.Proofs.Monitor.Effect

/-!
# At most one attempt to reconnect

Two attempts that race for the endpoint would each undo what the other did, so a session holds the
one attempt that is under way, and an attempt that it lets go of is over first. `World.Turn` sorts
every move by what it does to the session's attempt. `World.HoldsAttempts` is the invariant: it says
that the attempt under way, if there is one, is the one in the record.
-/

namespace BuildAgent

/-- What a move can do to the attempt of the session. -/
inductive World.Turn (before after : World) : Prop where
  | same (session : after.node.session = before.node.session)
      (goesOn : GoesOn before.transfers after.transfers)
  | reset {change : Reboot.Session → Reboot.Session}
      (clears : ∀ session, (change session).attempt = none) (resets : before.Resets change after)
  | attempted {session attempt : Nat} (current : before.node.session.isCurrent session = true)
      (idle : before.node.session.attempt = none)
      (attempts : before.Attempts session attempt after)
  | retried {session attempt : Nat} (busy : before.node.session.attempt = some attempt)
      (ended : (before.outcome? attempt).isSome = true) (retries : before.Retries session after)

theorem Point.Effect.turn {point : Point} {next : Option Point} {before after : World}
    (effect : point.Effect before next after) : before.Turn after := by
  cases effect with
  | kept through tick works => exact .same through.session_eq through.goesOn
  | engaged looks current managed attached idle => exact .same rfl (.refl _)
  | superseded looks stale => exact .same rfl (.refl _)
  | opened reboots works resets causes marked => exact .reset (fun _ => rfl) resets
  | concluded reboots works through scheduled =>
      subst scheduled
      exact .same through.session_eq through.goesOn
  | decided tick current effect =>
      cases effect with
      | closed outcome resets => exact .reset (fun _ => rfl) resets
      | started attempt idle attempts => exact .attempted current idle attempts
      | rechecked attempt delay busy underWay scheduled =>
          subst scheduled
          exact .same rfl (.refl _)
      | retried attempt busy ended retries => exact .retried busy ended retries

theorem Execution.Step.turn {before after : Execution} {move : Move} (sound : before.Sound)
    (step : before.Step move after) : before.world.Turn after.world := by
  cases step with
  | idle move => exact .same rfl (.refl _)
  | outside move change changes =>
      rcases Move.frame_outside changes before.world with ⟨session, _, goesOn, _⟩
      exact .same session goesOn
  | started number request fresh => exact .same rfl (.refl _)
  | looked number session delay agenda fresh scheduled =>
      have frame := before.world.frame_withAgenda delay agenda
      exact .same (by simp) (by rw [frame.2.2.1]; exact .refl _)
  | lost number session delay agenda scheduled dropped =>
      have frame := before.world.frame_withAgenda delay agenda
      refine .same ?_ ?_
      · simp [withWorld]
      · simp only [withWorld, World.frame_note, frame.2.2.1]
        exact .refl _
  | advanced move earlier later task stage split takes =>
      exact (takes.effect sound.guarded (mem_of_eq_append split)).turn

/-- The attempt under way is the one in the record, and the record is live while it holds one. -/
structure World.HoldsAttempts (world : World) : Prop where
  known : ∀ number, world.IsConnecting number → world.node.session.attempt = some number
  live : ∀ number, world.node.session.attempt = some number → world.node.session.active = true
  stands : ∀ number, world.node.session.attempt = some number → world.ConnectsOrEnded number

namespace World

variable {before after : World} {number : Nat}

theorem Turn.outcome?_eq (turn : before.Turn after) {outcome : Link.Outcome}
    (known : before.outcome? number = some outcome) : after.outcome? number = some outcome := by
  cases turn with
  | same session goesOn => exact goesOn.outcome?_eq known
  | reset clears resets => exact resets.goesOn.outcome?_eq known
  | attempted current idle attempts => exact attempts.kept number outcome known
  | retried busy ended retries =>
      have same := retries.transfers
      simpa [outcome?, same] using known

theorem Turn.isSome_outcome? (turn : before.Turn after)
    (known : (before.outcome? number).isSome = true) :
    (after.outcome? number).isSome = true := by
  rcases Option.isSome_iff_exists.mp known with ⟨outcome, ended⟩
  simp [turn.outcome?_eq ended]

/-- An attempt that the session lets go of is over. -/
theorem Turn.settled (turn : before.Turn after) (holds : before.HoldsAttempts)
    (held : before.node.session.attempt = some number) :
    after.node.session = before.node.session ∨ (after.outcome? number).isSome = true := by
  cases turn with
  | same session goesOn => exact .inl session
  | reset clears resets => exact .inr (resets.settled number held (holds.stands number held))
  | attempted current idle attempts =>
      rw [held] at idle
      cases idle
  | retried busy ended retries =>
      rw [held] at busy
      cases busy
      have same := retries.transfers
      exact .inr (by simpa [outcome?, same] using ended)

theorem Turn.attempt_eq {later : Nat} (turn : before.Turn after)
    (held : before.node.session.attempt = some number)
    (now : after.node.session.attempt = some later) : later = number := by
  cases turn with
  | same session goesOn =>
      rw [session, held] at now
      cases now
      rfl
  | reset clears resets =>
      rw [resets.session, clears] at now
      cases now
  | attempted current idle attempts =>
      rw [held] at idle
      cases idle
  | retried busy ended retries =>
      rw [retries.attempt] at now
      cases now

theorem HoldsAttempts.turn (holds : before.HoldsAttempts) (turn : before.Turn after) :
    after.HoldsAttempts := by
  cases turn with
  | same session goesOn =>
      constructor
      · intro number connecting
        rw [session]
        exact holds.known number (goesOn.isConnecting connecting)
      · intro number held
        rw [session] at held ⊢
        exact holds.live number held
      · intro number held
        rw [session] at held
        exact goesOn.connectsOrEnded (holds.stands number held)
  | reset clears resets =>
      have cleared : after.node.session.attempt = none := by rw [resets.session, clears]
      constructor
      · -- What was under way was in the record, and what was in the record is over.
        intro number connecting
        have held := holds.known number (resets.goesOn.isConnecting connecting)
        have finished := resets.settled number held (holds.stands number held)
        rcases Option.isSome_iff_exists.mp finished with ⟨outcome, ended⟩
        exact absurd connecting (not_isConnecting_of_outcome? ended)
      · intro number held
        rw [cleared] at held
        cases held
      · intro number held
        rw [cleared] at held
        cases held
  | attempted current idle attempts =>
      rename_i session attempt
      have held : after.node.session.attempt = some attempt := by rw [attempts.record]
      constructor
      · intro number connecting
        rcases attempts.added number connecting with rfl | earlier
        · exact held
        · have other := holds.known number earlier
          rw [idle] at other
          cases other
      · intro number _
        simp only [Reboot.Session.isCurrent, Bool.and_eq_true] at current
        rw [attempts.record]
        exact current.1
      · intro number now
        rw [held] at now
        cases now
        exact attempts.stands
  | retried busy ended retries =>
      rename_i session attempt
      constructor
      · intro number connecting
        have same := retries.transfers
        have earlier : before.IsConnecting number := by
          simpa only [IsConnecting, same] using connecting
        have held := holds.known number earlier
        rw [busy] at held
        cases held
        rcases Option.isSome_iff_exists.mp ended with ⟨outcome, known⟩
        exact absurd earlier (not_isConnecting_of_outcome? known)
      · intro number held
        rw [retries.attempt] at held
        cases held
      · intro number held
        rw [retries.attempt] at held
        cases held

end World

theorem Outset.holdsAttempts_run (outset : Outset) (moves : List Move) :
    (outset.execution.run moves).world.HoldsAttempts := by
  refine outset.sound_execution.run_induction (fun _ => True)
    (fun execution => execution.world.HoldsAttempts) ?_ ?_ moves fun _ _ => trivial
  · intro before after move sound _ step holds
    exact holds.turn (step.turn sound)
  · constructor
    · rintro number ⟨transfer, found, _⟩
      simp [Outset.execution, World.create] at found
    · intro number held
      cases held
    · intro number held
      cases held

/-- An attempt is in the record of its session as long as that session is live, or it is over. -/
theorem Execution.over_or_held {execution : Execution} (sound : execution.Sound)
    (holds : execution.world.HoldsAttempts) {number : Nat}
    (held : execution.world.node.session.attempt = some number) (moves : List Move) :
    (execution.run moves).world.node.session = execution.world.node.session ∨
      ((execution.run moves).world.outcome? number).isSome = true := by
  -- Once the attempt is over the session may change at will, so the record is kept only until then.
  have both := sound.run_induction (fun _ => True) (fun later =>
    later.world.HoldsAttempts ∧ (later.world.node.session = execution.world.node.session ∨
      (later.world.outcome? number).isSome = true)) ?_ ⟨holds, .inl rfl⟩ moves fun _ _ => trivial
  · exact both.2
  · rintro before after move sound _ step ⟨holds, same | finished⟩
    · have turn := step.turn sound
      refine ⟨holds.turn turn, ?_⟩
      rcases turn.settled holds (same ▸ held) with kept | finished
      · exact .inl (kept.trans same)
      · exact .inr finished
    · have turn := step.turn sound
      exact ⟨holds.turn turn, .inr (turn.isSome_outcome? finished)⟩

/-- **At most one attempt to reconnect.** Whatever moves are made in whatever order: an attempt that
is under way is the one that the session holds, so there is at most one; a session that holds an
attempt is live; the number of an attempt is never replaced by another; and an attempt that a
session held is over once that session is live no more. -/
theorem Outset.one_attempt (outset : Outset) (moves : List Move) :
    (∀ number, (outset.execution.run moves).world.IsConnecting number →
      (outset.execution.run moves).world.node.session.attempt = some number) ∧
    (∀ first second, (outset.execution.run moves).world.IsConnecting first →
      (outset.execution.run moves).world.IsConnecting second → first = second) ∧
    (∀ number, (outset.execution.run moves).world.node.session.attempt = some number →
      (outset.execution.run moves).world.node.session.active = true) ∧
    (∀ move first second, (outset.execution.run moves).world.node.session.attempt = some first →
      (outset.execution.run (moves ++ [move])).world.node.session.attempt = some second →
      second = first) ∧
    (∀ earlier later number session, moves = earlier ++ later →
      (outset.execution.run earlier).world.node.session.attempt = some number →
      (outset.execution.run earlier).world.node.session.generation = session →
      (outset.execution.run moves).world.node.session.isCurrent session = false →
      ((outset.execution.run moves).world.outcome? number).isSome = true) := by
  have sound := outset.sound_run moves
  have holds := outset.holdsAttempts_run moves
  refine ⟨holds.known, ?_, holds.live, ?_, ?_⟩
  · intro first second firstConnects secondConnects
    have held := holds.known first firstConnects
    rw [holds.known second secondConnects] at held
    exact (Option.some.inj held).symm
  · intro move first second held now
    rw [Execution.run_append] at now
    exact ((Execution.step_apply sound.orderly move).turn sound).attempt_eq held now
  · rintro earlier later number session rfl held rfl ended
    rw [Execution.run_append] at ended ⊢
    have live := (outset.holdsAttempts_run earlier).live number held
    rcases Execution.over_or_held (outset.sound_run earlier) (outset.holdsAttempts_run earlier) held
      later with same | finished
    · simp [same, Reboot.Session.isCurrent, live] at ended
    · exact finished

/-- A connection that hangs is the one that the session holds. -/
theorem Outset.one_attempt_hanging :
    ((Outset.onInstance someInstance).execution.run
      [.happen (.script .hang), .start 0 .reboot, .resume 0, .resume 0, .resume 0, .resume 0,
        .resume 0, .start 1 (.look 1), .resume 1, .resume 1,
        .resume 1]).world.node.session.attempt = some 1 :=
  ((Outset.onInstance someInstance).one_attempt
    [.happen (.script .hang), .start 0 .reboot, .resume 0, .resume 0, .resume 0, .resume 0,
      .resume 0, .start 1 (.look 1), .resume 1, .resume 1, .resume 1]).1 1 ⟨.hanging, rfl, rfl⟩

end BuildAgent
