import BuildAgent.Proofs.Monitor.Commands
import BuildAgent.Proofs.Monitor.Progress
import BuildAgent.Proofs.Monitor.Stopped

/-!
# The newest session wins

Reboots of one node that overlap follow one after the other, in the order in which they get the
session lock. Each of them returns the number of the session that it opened, and sends its command
once. When all have returned, the last one that got the lock has the last word: its session is live
and waits, the endpoint is marked for it, and the looks of all sessions before it are superseded
(`Outset.newest_session_wins`).

Two facts are kept from the step that opens a session on. The record of the session changes only by
another opening or by a look of the session itself (`Execution.session_apply`). And the endpoint is
marked for the session as soon as there is one that was opened after a given moment, whatever had
been done to the endpoint before (`Execution.MarkedSince`).
-/

namespace BuildAgent

/-! ## The record of a session that nobody looks at -/

namespace Point

variable {point : Point}

theorem session_of_isAboutToOpen (opens : point.isAboutToOpen = true) (world : World) :
    (point.resume world).world.node.session = world.node.session.start := by
  rcases rebooting_of_isAboutToOpen opens with ⟨afterBuild, rfl⟩
  rcases RebootPoint.begin_eq world with ⟨inner, after, begun, _, resets, _⟩
  simp only [resume, RebootPoint.resume, begun, Stage.andThen_pause]
  exact resets.session

/-- A reboot changes the record of sessions only when it opens its own. -/
theorem session_rebooting {afterBuild : Bool} {inner : RebootPoint} (opened : inner ≠ .waiting)
    (world : World) :
    ((rebooting afterBuild inner).resume world).world.node.session = world.node.session := by
  rcases works : inner.session? with _ | session
  · cases inner with
    | entering =>
        simp only [resume, RebootPoint.resume]
        split
        · cases afterBuild <;> rfl
        · rfl
    | waiting => exact absurd rfl opened
    | _ => cases works
  · rcases RebootPoint.resume_eq works world with
      ⟨later, middle, goes, _, through⟩ | ⟨middle, delay, ended, through⟩
    · rw [resume, goes]
      exact through.session_eq
    · rw [resume, ended, Stage.andThen_done, (world_afterReboot_ok afterBuild session _).2]
      exact through.session_eq

end Point

namespace Execution

variable {before after execution : Execution} {move : Move} {task : Task}

theorem Takes.session_of_silent
    (takes : execution.Takes task move (task.point.resume execution.world))
    (orderly : execution.Orderly) (running : task ∈ execution.running)
    (opens : task.point.isAboutToOpen = false) (silent : execution.look? move = none) :
    (task.point.resume execution.world).world.node.session = execution.world.node.session := by
  have loud : ∀ session inner, task.point = .looking session inner → ∀ outcome after,
      inner.resume session execution.world = .done outcome after →
      execution.look? move = some ⟨execution.world.clock, session, outcome⟩ :=
    fun _ _ looks _ _ ended => look?_of_takes orderly takes running looks ended
  generalize task.point = point at loud opens
  cases point with
  | rebooting afterBuild inner =>
      refine Point.session_rebooting ?_ execution.world
      rintro rfl
      cases opens
  | looking session inner =>
      rcases stage_eq : inner.resume session execution.world with
        ⟨next, after⟩ | ⟨outcome, after⟩
      · simp only [Point.resume, stage_eq, Stage.andThen_pause]
        exact (LookPoint.through_of_pause stage_eq).1.session_eq
      · have found := loud session inner rfl outcome after stage_eq
        rw [silent] at found
        cases found
  | _ => exact (Point.through rfl execution.world).session_eq

/-- While no session is opened, only a look that is not superseded changes the record. -/
theorem session_apply (sound : execution.Sound)
    (same : (execution.apply move).world.node.session.generation =
      execution.world.node.session.generation)
    (unlooked : ∀ look, execution.look? move = some look → look.outcome = .superseded) :
    (execution.apply move).world.node.session = execution.world.node.session := by
  rcases found : execution.look? move with _ | look
  · rcases acts_or_silent sound.orderly move with
      ⟨task, earlier, later, _, split, takes, moved⟩ | ⟨_, silent⟩
    · rw [moved] at same ⊢
      rcases opens : task.point.isAboutToOpen with _ | _
      · exact takes.session_of_silent sound.orderly (mem_of_eq_append split) opens found
      · have grows := (Point.generation_of_isAboutToOpen opens execution.world).1
        simp only [replace] at same
        omega
    · exact silent.session_eq
  · have verdict := verdict_of_look? sound found
    rw [unlooked look found] at verdict
    cases verdict with
    | superseded stale kept ledger agenda => exact kept
    | ended outcome ending => cases ending

/-- The step that makes the number of the newest session larger opens that session. -/
theorem session_of_opened (sound : execution.Sound)
    (other : (execution.apply move).world.node.session.generation ≠
      execution.world.node.session.generation) :
    (execution.apply move).world.node.session = execution.world.node.session.start := by
  rcases acts_or_silent sound.orderly move with
    ⟨task, earlier, later, _, split, takes, moved⟩ | ⟨_, silent⟩
  · rw [moved] at other ⊢
    exact Point.session_of_isAboutToOpen
      (takes.opens sound.guarded (mem_of_eq_append split) other).2 execution.world
  · rw [silent.session_eq] at other
    exact absurd rfl other

/-! ## The mark of a session that was opened since -/

/-- No task writes a cause of its own, and once a session was opened after a given one, the endpoint
is marked for the newest. -/
structure MarkedSince (session : Nat) (execution : Execution) : Prop where
  owns : ∀ task, task ∈ execution.running → task.point.OwnsCauses
  marked : session < execution.world.node.session.generation → execution.Marked

theorem ownsCauses_step (owns : ∀ task, task ∈ before.running → task.point.OwnsCauses)
    (sound : before.Sound) (own : move.isOwn = true) (step : before.Step move after) :
    ∀ task, task ∈ after.running → task.point.OwnsCauses := by
  intro task running
  cases step with
  | idle move => exact owns task running
  | outside move change changes => exact owns task running
  | started number request fresh =>
      rw [List.mem_append, List.mem_singleton] at running
      rcases running with old | rfl
      · exact owns task old
      · exact Point.ownsCauses_entry own
  | looked number session delay agenda fresh scheduled =>
      rw [List.mem_append, List.mem_singleton] at running
      rcases running with old | rfl
      · exact owns task old
      · have ownLook : (Move.start number (.look session)).isOwn = true := rfl
        exact Point.ownsCauses_entry ownLook
  | lost number session delay agenda scheduled dropped => exact owns task running
  | advanced move earlier later own stage split takes =>
      rcases mem_replace.mp running with left | still
      · rcases mem_remaining left with ⟨next, world, rfl, rfl⟩
        have among := mem_of_eq_append split
        exact takes.ownsCauses sound among (owns own among)
      · exact owns task (mem_of_split split still)

/-- The step that opens a session marks the endpoint, whatever it showed before. -/
theorem marked_of_opens {earlier later : List Task}
    (coupled : before.world.node.attached = !before.world.node.retired)
    (owns : ∀ task, task ∈ before.running → task.point.OwnsCauses)
    (split : before.running = earlier ++ task :: later) (opens : task.point.isAboutToOpen = true) :
    (before.replace earlier task later (task.point.resume before.world)).Marked := by
  rcases Point.rebooting_of_isAboutToOpen opens with ⟨afterBuild, waits⟩
  rcases RebootPoint.begin_eq before.world with ⟨inner, after, begun, works, resets, causes, marked⟩
  have stage_eq : task.point.resume before.world = .pause (.rebooting afterBuild inner) after := by
    rw [waits, Point.resume, RebootPoint.resume, begun, Stage.andThen_pause]
  have standing := resets.standing
  simp only [Node.standing, Prod.mk.injEq] at standing
  have generation : after.node.session.generation = before.world.node.session.generation + 1 :=
    congrArg Reboot.Session.generation resets.session
  rw [stage_eq]
  refine ⟨?_, ?_, ?_, ?_⟩
  · simp only [replace, Stage.world, standing, coupled]
  · intro other others
    rcases mem_replace.mp others with left | still
    · rcases mem_remaining left with ⟨next, world, paused, rfl⟩
      cases paused
      exact fun cause permitted => .inr ⟨_, works, causes cause permitted⟩
    · exact owns other (mem_of_split split still)
  · intro awaits
    rcases marked (standing.2.1.symm.trans awaits.attached) with ⟨offline, cause, _⟩
    exact ⟨offline, cause.trans (by rw [← generation]; rfl)⟩
  · intro awaits
    rcases marked (standing.2.1.symm.trans awaits.attached) with ⟨_, _, absent | requests⟩
    · exact .inl absent
    · refine .inr ⟨_, mem_replace.mpr (.inl (List.mem_singleton_self _)), ?_⟩
      rw [requests]
      rfl

theorem MarkedSince.apply {session : Nat} (since : before.MarkedSince session)
    (sound : before.Sound) (holds : before.world.HoldsAttempts)
    (coupled : before.world.node.attached = !before.world.node.retired)
    (own : move.isOwn = true) : (before.apply move).MarkedSince session := by
  have step := step_apply sound.orderly move
  refine ⟨ownsCauses_step since.owns sound own step, ?_⟩
  intro newer
  by_cases old : session < before.world.node.session.generation
  · exact (since.marked old).step sound holds own step
  · rcases acts_or_silent sound.orderly move with
      ⟨task, earlier, later, _, split, takes, moved⟩ | ⟨_, silent⟩
    · rw [moved] at newer ⊢
      refine marked_of_opens coupled since.owns split
        (takes.opens sound.guarded (mem_of_eq_append split) ?_).2
      simp only [replace] at newer
      omega
    · rw [silent.session_eq] at newer
      exact absurd newer old

/-! ## Looks of older sessions -/

/-- Once a session is newer, the looks of the older one are superseded. -/
theorem superseded_of_older (sound : execution.Sound) {moves : List Move} {look : Look}
    (ended : look ∈ execution.timeline moves)
    (older : look.session < execution.world.node.session.generation) :
    look.outcome = .superseded := by
  rcases List.append_of_mem ended with ⟨past, future, split⟩
  rcases timeline_eq_append split with ⟨earlier, move, later, rfl, _, found, _⟩
  refine (superseded_or_current (sound.run earlier) found).resolve_right ?_
  intro current
  have grown := sound.generation_le_run earlier
  simp only [Reboot.Session.isCurrent, Bool.and_eq_true, decide_eq_true_eq] at current
  omega

/-- A look of an older session ends with its next step, as superseded. -/
theorem reports_of_older (sound : execution.Sound) (faithful : execution.Faithful)
    (running : task ∈ execution.running) {session : Nat} (asked : task.request = .look session)
    (older : session < execution.world.node.session.generation)
    (ready : execution.isReady task = true) :
    ⟨task.number, .look session, .looked .superseded⟩ ∈
      (execution.apply (.resume task.number)).reports := by
  have stale : execution.world.node.session.isCurrent session = false := by
    simp only [Reboot.Session.isCurrent, Bool.and_eq_false_iff, decide_eq_false_iff_not]
    exact .inr (by omega)
  rcases faithful.looking running asked with ⟨inner, looks⟩
  rw [(resume_of_mem sound.orderly running ready).2, looks]
  cases inner with
  | waiting =>
      simp only [Point.resume, LookPoint.resume, LookPoint.begin, stale, Bool.not_false, if_true,
        Stage.andThen_done, Point.finish, Stage.reported, asked]
      exact List.mem_cons_self
  | refreshing fetch =>
      have live := (sound.guarded task running session (by rw [looks]; rfl)).1
      rw [stale] at live
      cases live

end Execution

namespace Outset

variable (outset : Outset) (earlier later : List Move)

theorem markedSince_run
    (owns : ∀ task, task ∈ (outset.execution.run earlier).running → task.point.OwnsCauses)
    (own : ∀ move, move ∈ later → move.isOwn = true) :
    (outset.execution.run (earlier ++ later)).MarkedSince
      (outset.execution.run earlier).world.node.session.generation := by
  induction later using List.reverseRecOn with
  | nil =>
      rw [List.append_nil]
      exact ⟨owns, fun newer => absurd newer (Nat.lt_irrefl _)⟩
  | append_singleton moves move hypothesis =>
      have first := hypothesis fun other among => own other (List.mem_append_left _ among)
      rw [← List.append_assoc, Execution.run_append _ (earlier ++ moves)]
      exact first.apply (outset.sound_run _) (outset.holdsAttempts_run _) (outset.coupled_run _)
        (own move (by simp))

/-- A session that was opened since, and that no look of its own has changed, waits for its
reboot. -/
theorem session_of_unlooked
    (opened : (outset.execution.run earlier).world.node.session.generation <
      (outset.execution.run (earlier ++ later)).world.node.session.generation)
    (unlooked : ∀ look, look ∈ (outset.execution.run earlier).timeline later →
      look.session =
        (outset.execution.run (earlier ++ later)).world.node.session.generation →
      look.outcome = .superseded) :
    (outset.execution.run (earlier ++ later)).world.node.session =
      { generation :=
          (outset.execution.run (earlier ++ later)).world.node.session.generation
        active := true } := by
  induction later using List.reverseRecOn with
  | nil =>
      rw [List.append_nil] at opened
      exact absurd opened (Nat.lt_irrefl _)
  | append_singleton moves move hypothesis =>
      have moved : outset.execution.run (earlier ++ (moves ++ [move])) =
          (outset.execution.run (earlier ++ moves)).apply move := by
        rw [← List.append_assoc, Execution.run_concat]
      have sound := outset.sound_run (earlier ++ moves)
      rw [Execution.timeline_concat, ← Execution.run_append] at unlooked
      rw [moved] at opened unlooked ⊢
      rcases Decidable.em
        (((outset.execution.run (earlier ++ moves)).apply move).world.node.session.generation =
          (outset.execution.run (earlier ++ moves)).world.node.session.generation) with
        same | other
      · rw [same] at opened unlooked
        have kept := Execution.session_apply sound same fun look found =>
          (Execution.superseded_or_current sound found).elim id fun current =>
            unlooked look (by simp [found]) (Reboot.Session.eq_of_isCurrent current).symm
        rw [kept]
        exact hypothesis opened fun look ended => unlooked look (List.mem_append_left _ ended)
      · rw [Execution.session_of_opened sound other]
        rfl

/-- What the endpoint of a session that was opened since shows when no reboot is under way. -/
theorem endpoint_of_unlooked
    (owns : ∀ task, task ∈ (outset.execution.run earlier).running → task.point.OwnsCauses)
    (own : ∀ move, move ∈ later → move.isOwn = true)
    (managed : (outset.execution.run (earlier ++ later)).world.node.retired = false)
    (returned : ∀ task, task ∈ (outset.execution.run (earlier ++ later)).running →
      task.point.isRebooting = false)
    (opened : (outset.execution.run earlier).world.node.session.generation <
      (outset.execution.run (earlier ++ later)).world.node.session.generation)
    (active : (outset.execution.run (earlier ++ later)).world.node.session.active = true)
    (idle : (outset.execution.run (earlier ++ later)).world.node.session.attempt = none) :
    (outset.execution.run (earlier ++ later)).world.endpoint.temporarilyOffline = true ∧
      (outset.execution.run (earlier ++ later)).world.offlineCause = some (.reboot
        (outset.execution.run (earlier ++ later)).world.node.session.generation) ∧
      (outset.execution.run (earlier ++ later)).world.isChannelPresent = false := by
  have marks := (outset.markedSince_run earlier later owns own).marked opened
  have attached : (outset.execution.run (earlier ++ later)).world.node.attached = true := by
    rw [marks.coupled, managed]
    rfl
  have mark := marks.marked ⟨attached, active, idle⟩
  refine ⟨mark.offline, ?_, ?_⟩
  · rw [World.offlineCause, if_pos attached, mark.cause]
  · rcases marks.channel ⟨attached, active, idle⟩ with absent | ⟨task, running, preparing⟩
    · rw [World.isChannelPresent, absent, Bool.and_false]
    · have resting := returned task running
      generalize task.point = point at preparing resting
      cases point with
      | rebooting afterBuild inner => cases resting
      | _ => cases preparing

/-- **The newest session wins.** Take any moves, the later ones such that they leave the endpoint to
the node and bind no instance, and a node that is not retired at the end of them; the tasks that are
under way when the later moves begin do the same. Then:

Every reboot that has returned gave the number of a session, and the numbers go up by one in the
order in which the reboots got the session lock: `openings` lists them in that order, each once.

Whatever is under way, the work can be carried on until every reboot has returned, and then it has
returned the number of a session.

A reboot that was started by the later moves, and that has returned, sent exactly one command if the
node is bound to an instance and none otherwise. The provider records each call of a task in the
very step that makes it, and no other unless somebody acts past the node.

When no reboot is under way, a session was opened by the later moves and none of its own looks has
done anything, then the live session is the one that was opened last. It waits for its reboot with
no launch failures, it is the offline cause of the endpoint, and no channel is present.

A look of any smaller session is superseded, now and whatever follows, and it ends with its next
step. -/
theorem newest_session_wins
    (settled : ∀ task, task ∈ (outset.execution.run earlier).running →
      task.point.OwnsCauses ∧ task.point.isBinding = false)
    (own : ∀ move, move ∈ later → move.isOwn = true ∧ move.isBinding = false)
    (managed : (outset.execution.run (earlier ++ later)).world.node.retired = false) :
    let before := outset.execution.run earlier
    let now := outset.execution.run (earlier ++ later)
    let openings := outset.execution.openings (earlier ++ later)
    (now.world.node.session.generation = openings.length ∧ openings.Nodup ∧
      ∀ number answer, ⟨number, .reboot, answer⟩ ∈ now.reports →
        ∃ place, openings[place]? = some number ∧ answer = .rebooted (.ok (place + 1))) ∧
    (∃ rest, (∀ move, move ∈ rest → move.isWork = true) ∧
      ∀ task, task ∈ now.running → task.request = .reboot →
        ∃ session, ⟨task.number, .reboot, .rebooted (.ok session)⟩ ∈
          (outset.execution.run (earlier ++ later ++ rest)).reports) ∧
    (∀ number answer, ⟨number, .reboot, answer⟩ ∈ now.reports → before.nextNumber ≤ number →
      Execution.sentBy (before.sent later) number = now.world.node.capacity.bound?.toList) ∧
    (∀ past move, let state := outset.execution.run past
      (∀ happening, move ≠ .happen happening) →
        (state.apply move).world.provider.calls =
          Provider.keepCall? (state.call? move) state.world.provider.calls) ∧
    ((∀ task, task ∈ now.running → task.point.isRebooting = false) →
      before.world.node.session.generation < now.world.node.session.generation →
      (∀ look, look ∈ before.timeline later →
        look.session = now.world.node.session.generation → look.outcome = .superseded) →
      now.world.node.session =
        { generation := openings.length, active := true, attempt := none, launchFailures := 0 } ∧
      now.world.node.session.phase = .awaitingReboot ∧
      now.world.endpoint.temporarilyOffline = true ∧
      now.world.offlineCause = some (.reboot openings.length) ∧
      now.world.isChannelPresent = false) ∧
    (∀ rest look, look ∈ now.timeline rest →
      look.session < now.world.node.session.generation → look.outcome = .superseded) ∧
    (∀ task session, task ∈ now.running → task.request = .look session →
      session < now.world.node.session.generation → now.isReady task = true →
      ⟨task.number, .look session, .looked .superseded⟩ ∈
        (now.apply (.resume task.number)).reports) := by
  intro before now openings
  have ordered : ∀ moves, (outset.execution.run moves).world.node.retired = false →
      outset.execution.Numbered (outset.execution.openings moves) (outset.execution.run moves) :=
    outset.numbered_run []
  have numbered := ordered (earlier ++ later) managed
  have generation : now.world.node.session.generation = openings.length :=
    numbered.generation.trans (Nat.zero_add _)
  have places : ∀ place : Nat,
      outset.execution.world.node.session.generation + place + 1 = place + 1 := by
    intro place
    exact congrArg Nat.succ (Nat.zero_add place)
  refine ⟨⟨generation, numbered.apart, ?_⟩, ?_, ?_, ?_, ?_, ?_, ?_⟩
  · intro number answer returned
    rcases numbered.returned number answer returned (Nat.zero_le _) with ⟨place, found, same⟩
    exact ⟨place, found, by rw [same, places]⟩
  · rcases outset.reboots_return (earlier ++ later) managed with ⟨rest, work, still, returns⟩
    refine ⟨rest, work, ?_⟩
    intro task running asked
    rcases returns task running asked with ⟨answer, returned⟩
    rcases (ordered _ still).returned _ _ returned (Nat.zero_le _) with ⟨place, _, rfl⟩
    exact ⟨_, returned⟩
  · intro number answer returned started
    have sends := outset.sends_run earlier later (fun task running => (settled task running).2)
      (fun move made => (own move made).2) managed
    rw [sends.returned number answer returned started, ← sends.capacity]
  · intro past move
    exact Execution.calls_apply (outset.sound_run past).orderly move
  · intro returned opened unlooked
    have record := outset.session_of_unlooked earlier later opened unlooked
    have shows := outset.endpoint_of_unlooked earlier later
      (fun task running => (settled task running).1) (fun move made => (own move made).1) managed
      returned opened (by rw [record]) (by rw [record])
    rw [show (outset.execution.run (earlier ++ later)).world.node.session.generation =
      openings.length from generation] at record shows
    exact ⟨record, by rw [show now.world.node.session = _ from record]; rfl, shows⟩
  · intro rest look ended older
    exact Execution.superseded_of_older (outset.sound_run _) ended older
  · intro task session running asked older ready
    exact Execution.reports_of_older (outset.sound_run _) (outset.faithful_run _) running asked
      older ready

/-- Two reboots of a node on an instance, of which the second one gets the session lock first. -/
def twoReboots : List Move :=
  [.start 0 .reboot, .start 1 .reboot, .resume 0, .resume 1, .resume 1, .resume 0, .resume 1,
    .resume 1, .resume 1, .resume 0, .resume 0, .resume 0, .resume 0]

/-- Of two reboots the one that got the lock last has the last word. -/
theorem newest_session_wins_of_two :
    let now := (onInstance someInstance).execution.run twoReboots
    (onInstance someInstance).execution.openings twoReboots = [1, 0] ∧
      now.reports = [⟨0, .reboot, .rebooted (.ok 2)⟩, ⟨1, .reboot, .rebooted (.ok 1)⟩] ∧
      now.world.node.session.phase = .awaitingReboot ∧
      now.world.offlineCause = some (.reboot 2) ∧ now.world.isChannelPresent = false := by
  intro now
  have wins := (onInstance someInstance).newest_session_wins [] twoReboots
    (fun task running => nomatch running) (by decide) rfl
  have last := wins.2.2.2.2.1 (fun task running => nomatch running) Nat.two_pos
    (fun look ended => nomatch ended)
  exact ⟨rfl, rfl, last.2.1, last.2.2.2.1, last.2.2.2.2⟩

end Outset

end BuildAgent
